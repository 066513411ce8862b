import Reckoner.Text.Quoted

/-! Decoding UTF-8.

`decode` turns bytes into characters until the bytes end or a sequence is at
fault. A sequence that is well formed as far as it goes but is cut off by the end
of the bytes is told apart from one that no further byte could mend: `Ending`
names the three outcomes, and a `Fault` the bytes to blame and the reason. -/
namespace Reckoner.Text.Utf8

/-- Why a sequence of bytes is no character. -/
inductive Reason where
  | start
  | continuation
  | cutOff
deriving Repr, DecidableEq

def Reason.text : Reason → String
  | start => "invalid start byte"
  | continuation => "invalid continuation byte"
  | cutOff => "unexpected end of data"

/-- Bytes at fault: their position, their number and the first of them. -/
structure Fault where
  position : Nat
  count : Nat
  byte : Nat
  reason : Reason
deriving Repr, DecidableEq

def Fault.message (f : Fault) : String :=
  let bytes :=
    if f.count = 1 then s!"byte 0x{String.ofList (hexadecimal 2 f.byte)} in position {f.position}"
    else s!"bytes in position {f.position}-{f.position + f.count - 1}"
  s!"'utf-8' codec can't decode {bytes}: {f.reason.text}"

/-- How decoding ends. -/
inductive Ending where
  | complete
  /-- A sequence that no further byte could mend. -/
  | broken (fault : Fault)
  /-- A sequence cut off by the end; its positions count from its own start. -/
  | cut (fault : Fault)
deriving Repr, DecidableEq

/-- A byte that continues a sequence. -/
def isContinuation (b : Nat) : Bool :=
  0x80 ≤ b && b < 0xC0

/-- A byte that may follow `lead`: the second byte rules out overlong forms,
surrogates and code points past the last. -/
def isSecond (lead b : Nat) : Bool :=
  isContinuation b &&
    (if lead = 0xE0 then 0xA0 ≤ b
     else if lead = 0xED then b < 0xA0
     else if lead = 0xF0 then 0x90 ≤ b
     else if lead = 0xF4 then b < 0x90
     else true)

/-- The six low bits of a continuation byte. -/
def low (b : Nat) : Nat := b % 64

/-- Characters up to the end of the bytes or the first sequence at fault. -/
def decode (position : Nat) : List Nat → List Char × Ending
  | [] => ([], .complete)
  | a :: rest =>
    if a < 0x80 then more (Char.ofNat a) (decode (position + 1) rest)
    else if a < 0xC2 || 0xF5 ≤ a then ([], .broken ⟨position, 1, a, .start⟩)
    else if a < 0xE0 then
      match rest with
      | [] => ([], .cut ⟨0, 1, a, .cutOff⟩)
      | b :: rest =>
        if !isContinuation b then ([], .broken ⟨position, 1, a, .continuation⟩)
        else more (Char.ofNat (a % 32 * 64 + low b)) (decode (position + 2) rest)
    else if a < 0xF0 then
      match rest with
      | [] => ([], .cut ⟨0, 1, a, .cutOff⟩)
      | [b] =>
        if isSecond a b then ([], .cut ⟨0, 2, a, .cutOff⟩)
        -- The start of a surrogate is still taken for a cut sequence.
        else if a = 0xED && isContinuation b then ([], .cut ⟨0, 1, a, .continuation⟩)
        else ([], .broken ⟨position, 1, a, .continuation⟩)
      | b :: c :: rest =>
        if !isSecond a b then ([], .broken ⟨position, 1, a, .continuation⟩)
        else if !isContinuation c then ([], .broken ⟨position, 2, a, .continuation⟩)
        else more (Char.ofNat ((a % 16 * 64 + low b) * 64 + low c)) (decode (position + 3) rest)
    else
      match rest with
      | [] => ([], .cut ⟨0, 1, a, .cutOff⟩)
      | [b] =>
        if isSecond a b then ([], .cut ⟨0, 2, a, .cutOff⟩)
        else ([], .broken ⟨position, 1, a, .continuation⟩)
      | [b, c] =>
        if !isSecond a b then ([], .broken ⟨position, 1, a, .continuation⟩)
        else if !isContinuation c then ([], .broken ⟨position, 2, a, .continuation⟩)
        else ([], .cut ⟨0, 3, a, .cutOff⟩)
      | b :: c :: d :: rest =>
        if !isSecond a b then ([], .broken ⟨position, 1, a, .continuation⟩)
        else if !isContinuation c then ([], .broken ⟨position, 2, a, .continuation⟩)
        else if !isContinuation d then ([], .broken ⟨position, 3, a, .continuation⟩)
        else more (Char.ofNat (((a % 8 * 64 + low b) * 64 + low c) * 64 + low d))
          (decode (position + 4) rest)
where
  /-- Puts a character before what was decoded after it. -/
  more (c : Char) (after : List Char × Ending) : List Char × Ending :=
    (c :: after.1, after.2)

/-- Line ends of every kind become one line feed. -/
def unifyLines : List Char → List Char
  | [] => []
  | '\r' :: '\n' :: rest => '\n' :: unifyLines rest
  | '\r' :: rest => '\n' :: unifyLines rest
  | c :: rest => c :: unifyLines rest

/-- Every byte below 128 is the character of its code. -/
theorem decode_ascii (position : Nat) {bytes : List Nat} (h : ∀ b ∈ bytes, b < 0x80) :
    decode position bytes = (bytes.map Char.ofNat, .complete) := by
  induction bytes generalizing position with
  | nil => rfl
  | cons b rest ih =>
    have small : b < 0x80 := h b List.mem_cons_self
    unfold decode
    simp [small, decode.more, ih (position + 1) fun c hc => h c (List.mem_cons_of_mem b hc)]

end Reckoner.Text.Utf8
