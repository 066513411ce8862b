import Reckoner.Decimal.Reading
import Reckoner.Source
import Reckoner.Token.Fault

/-! Cutting a source into tokens.

A scanner holds one pending character and the rest of its source. Blanks and
comments are skipped; a token is then the longest name or numeral that starts at
the pending character, or that character alone. Nothing past the character after
a token is read. A read that fails, or that gives a foreign character, stops the
token begun and leaves pending the last good character.

A scan that gives a token other than the end of the input leaves less to read:
`Scanner.remaining` bounds how often that can happen (`remaining_next_lt`). -/
namespace Reckoner

structure Scanner where
  file : String
  source : Source
  line : Nat := 1
  column : Nat := 0
  offset : Nat := 0
  /-- The character read last was a line feed. -/
  afterBreak : Bool := false
  /-- The character to look at next; none at the end of the input. -/
  pending : Option Char := some ' '

/-- A step of a scanner, which may stop at a fault. -/
abbrev Scan := EStateM Token.Fault Scanner

namespace Scanner

/-- The place of the pending character. -/
def here (s : Scanner) : Location :=
  ⟨s.file, s.line, max s.column 1, s.offset⟩

/-- A bound on the reads and characters still to come. -/
def remaining (s : Scanner) : Nat :=
  s.source.reads.length + s.pending.toList.length

/-- The counters after a character has been read. -/
def passing (s : Scanner) (c : Char) (rest : List Read) : Scanner :=
  { s with
    source := { s.source with reads := rest }
    line := if s.afterBreak then s.line + 1 else s.line
    column := if s.afterBreak then 1 else s.column + 1
    offset := s.offset + 1
    afterBreak := c = '\n' }

/-- Reads one character and makes it pending. -/
def read : Scan Unit := fun s =>
  match s.source.reads with
  | [] =>
    match s.source.cutOff with
    | none => .ok () { s with pending := none }
    | some reason => .error (.unreadable reason s.here) s
  | .failure reason :: rest =>
    .error (.unreadable reason s.here) { s with source := { s.source with reads := rest } }
  | .char c :: rest =>
    let t := s.passing c rest
    if c.toNat < 128 then .ok () { t with pending := some c }
    else .error (.foreign c t.here) t

theorem remaining_read_lt {s t : Scanner} {c : Char} (pending : s.pending = some c)
    (h : read s = .ok () t) : t.remaining < s.remaining := by
  unfold read at h
  split at h
  · split at h
    · cases h
      simp_all [remaining]
    · cases h
  · cases h
  · split at h
    · cases h
      simp_all [remaining, passing]
    · cases h

/-- The white space of the ASCII alphabet. -/
def isBlank (c : Char) : Bool :=
  c = ' ' || (9 ≤ c.toNat && c.toNat ≤ 13) || (28 ≤ c.toNat && c.toNat ≤ 31)

/-- Whether a character is skipped, inside a comment or outside, and if so
whether a comment goes on after it. A comment ends before a line break. -/
def skipped (comment : Bool) (c : Char) : Option Bool :=
  if comment && c ≠ '\n' && c ≠ '\r' then some true
  else if isBlank c then some false
  else if c = '#' then some true
  else none

/-- Skips blanks and comments. -/
def skip (comment : Bool) (s : Scanner) : EStateM.Result Token.Fault Scanner Unit :=
  match pending : s.pending with
  | none => .ok () s
  | some c =>
    match skipped comment c with
    | none => .ok () s
    | some inside =>
      match h : read s with
      | .ok _ t =>
        have := remaining_read_lt pending h
        skip inside t
      | .error f t => .error f t
termination_by s.remaining

/-- Collects pending characters as long as they satisfy `p`, after those in
`before`, which are in reverse. Those are turned round by `reverseAux`, as the
recursion would put proofs of membership into `reverse`. -/
def collect (p : Char → Bool) (before : List Char) (s : Scanner) :
    EStateM.Result Token.Fault Scanner (List Char) :=
  match pending : s.pending with
  | none => .ok (before.reverseAux []) s
  | some c =>
    if p c then
      match h : read s with
      | .ok _ t =>
        have := remaining_read_lt pending h
        collect p (c :: before) t
      | .error f t => .error f t
    else .ok (before.reverseAux []) s
termination_by s.remaining

/-- The longest run of characters that satisfy `p`. -/
def run (p : Char → Bool) : Scan (List Char) :=
  collect p []

/-- A name or reserved word at the pending letter. -/
def name (place : Location) : Scan Token := do
  let lexeme := String.ofList (← run Char.isAlphanum)
  match Token.Keyword.ofSpelling? lexeme with
  | some word => pure { kind := .keyword word, lexeme, location := place }
  | none => pure { kind := .identifier, lexeme, value := some (.text lexeme), location := place }

/-- The rest of a numeral at its point: the point and the digits behind it. A
second point starts the next token. -/
def fraction (whole : List Char) (place : Location) : Scan Token := do
  read
  let digits ← run Char.isDigit
  let lexeme := String.ofList (whole ++ '.' :: digits)
  if whole.isEmpty && digits.isEmpty then
    pure { kind := .malformed, lexeme, location := place }
  else
    pure { kind := .number, lexeme, location := place
           value := some (.number (Decimal.numeral whole digits)) }

/-- The rest of a numeral after its leading digits: its fraction, if a point follows. -/
def afterDigits (whole : List Char) (place : Location) : Scan Token := fun s =>
  if s.pending = some '.' then fraction whole place s
  else
    .ok { kind := .number, lexeme := String.ofList whole, location := place
          value := some (.number (Decimal.numeral whole [])) } s

/-- A numeral at the pending digit or point. -/
def numeral (place : Location) : Scan Token := do
  let whole ← run Char.isDigit
  afterDigits whole place

/-- The pending character as a token of its own. -/
def symbol (c : Char) (place : Location) : Scan Token := do
  read
  let text := String.singleton c
  pure { kind := .symbol, lexeme := text, value := some (.text text), location := place }

/-- The token that starts at the pending character. -/
def token : Scan Token := fun s =>
  match s.pending with
  | none => .ok (Token.finish s.here) s
  | some c =>
    if c.isAlpha then name s.here s
    else if c.isDigit || c = '.' then numeral s.here s
    else symbol c s.here s

/-- The next token after blanks and comments. -/
def next : Scan Token := do
  skip false
  token

/-! ### What a scan leaves to read -/

/-- The scanner after a step, whether it stopped at a fault or not. -/
def after {α : Type} : EStateM.Result Token.Fault Scanner α → Scanner
  | .ok _ s => s
  | .error _ s => s

/-- A step that never leaves more to read than there was. -/
def Recedes {α : Type} (x : Scan α) : Prop :=
  ∀ s, (after (x s)).remaining ≤ s.remaining

section Recedes
variable {α β : Type}

theorem Recedes.pure (a : α) : Recedes (pure a : Scan α) :=
  fun _ => Nat.le_refl _

theorem Recedes.bind {x : Scan α} {f : α → Scan β} (hx : Recedes x) (hf : ∀ a, Recedes (f a)) :
    Recedes (x >>= f) := by
  intro s
  have first := hx s
  simp only [Bind.bind, EStateM.bind]
  cases h : x s with
  | ok a t =>
    rw [h] at first
    exact Nat.le_trans (hf a t) first
  | error f t =>
    rw [h] at first
    exact first

end Recedes

theorem recedes_read : Recedes read := by
  intro s
  unfold read
  split
  · split <;> simp_all [after, remaining]
  · simp_all [after, remaining]
  · split <;> simp_all [after, remaining, passing]

theorem recedes_skip (comment : Bool) : Recedes (skip comment) := by
  intro s
  fun_induction skip comment s with
  | case1 => exact Nat.le_refl _
  | case2 => exact Nat.le_refl _
  | case3 _ s _ _ _ _ _ t _ lt ih => exact Nat.le_trans ih (Nat.le_of_lt lt)
  | case4 _ s _ _ _ _ f t h =>
    have := recedes_read s
    rwa [h] at this

theorem recedes_collect (p : Char → Bool) (before : List Char) : Recedes (collect p before) := by
  intro s
  fun_induction collect p before s with
  | case1 => exact Nat.le_refl _
  | case2 _ s _ _ _ _ t _ lt ih => exact Nat.le_trans ih (Nat.le_of_lt lt)
  | case3 _ s _ _ _ f t h =>
    have := recedes_read s
    rwa [h] at this
  | case4 => exact Nat.le_refl _

theorem recedes_run (p : Char → Bool) : Recedes (run p) :=
  recedes_collect p []

/-- A run whose first character fits moves past it. -/
theorem remaining_run_lt {p : Char → Bool} {s t : Scanner} {c : Char} {cs : List Char}
    (pending : s.pending = some c) (fits : p c = true) (h : run p s = .ok cs t) :
    t.remaining < s.remaining := by
  unfold run collect at h
  split at h
  · simp_all
  · rename_i d hd
    obtain rfl : c = d := Option.some.inj (pending.symm.trans hd)
    rw [if_pos fits] at h
    split at h
    · rename_i u hu
      have first := remaining_read_lt pending hu
      have rest := recedes_collect p [c] u
      rw [h] at rest
      exact Nat.lt_of_le_of_lt rest first
    · cases h

theorem recedes_name (place : Location) : Recedes (name place) := by
  refine (recedes_run _).bind fun cs => ?_
  dsimp only
  split <;> exact .pure _

theorem recedes_fraction (whole : List Char) (place : Location) :
    Recedes (fraction whole place) := by
  refine recedes_read.bind fun _ => (recedes_run _).bind fun digits => ?_
  dsimp only
  split <;> exact .pure _

theorem recedes_afterDigits (whole : List Char) (place : Location) :
    Recedes (afterDigits whole place) := by
  intro s
  unfold afterDigits
  split
  · exact recedes_fraction whole place s
  · exact Nat.le_refl _

theorem recedes_numeral (place : Location) : Recedes (numeral place) :=
  (recedes_run _).bind fun whole => recedes_afterDigits whole place

theorem recedes_symbol (c : Char) (place : Location) : Recedes (symbol c place) :=
  recedes_read.bind fun _ => .pure _

theorem recedes_token : Recedes token := by
  intro s
  unfold token
  split
  · exact Nat.le_refl _
  · split
    · exact recedes_name _ s
    · split
      · exact recedes_numeral _ s
      · exact recedes_symbol _ _ s

theorem remaining_name_lt {place : Location} {s t : Scanner} {c : Char} {k : Token}
    (pending : s.pending = some c) (letter : c.isAlpha = true) (h : name place s = .ok k t) :
    t.remaining < s.remaining := by
  simp only [name, bind, EStateM.bind] at h
  split at h
  · rename_i cs u hu
    have moved := remaining_run_lt pending (by simp [Char.isAlphanum, letter]) hu
    have same : u = t := by
      revert h
      cases Token.Keyword.ofSpelling? (String.ofList cs) <;> intro h <;> cases h <;> rfl
    exact same ▸ moved
  · cases h

theorem remaining_symbol_lt {place : Location} {s t : Scanner} {c d : Char} {k : Token}
    (pending : s.pending = some c) (h : symbol d place s = .ok k t) :
    t.remaining < s.remaining := by
  simp only [symbol, bind, EStateM.bind] at h
  split at h
  · rename_i u hu
    cases h
    exact remaining_read_lt pending hu
  · cases h

/-- A run that fits nothing stays where it is. -/
theorem run_of_not {p : Char → Bool} {s : Scanner} {c : Char}
    (pending : s.pending = some c) (fits : p c = false) : run p s = .ok [] s := by
  unfold run collect
  split
  · simp_all
  · simp_all

theorem remaining_fraction_lt {whole : List Char} {place : Location} {s t : Scanner} {k : Token}
    (pending : s.pending = some '.') (h : fraction whole place s = .ok k t) :
    t.remaining < s.remaining := by
  simp only [fraction, bind, EStateM.bind] at h
  split at h
  · rename_i u hu
    have moved := remaining_read_lt pending hu
    split at h
    · rename_i digits v hv
      have back := recedes_run Char.isDigit u
      rw [hv] at back
      have same : v = t := by
        split at h <;> cases h <;> rfl
      subst same
      exact Nat.lt_of_le_of_lt back moved
    · cases h
  · cases h

theorem remaining_numeral_lt {place : Location} {s t : Scanner} {c : Char} {k : Token}
    (pending : s.pending = some c) (start : (c.isDigit || c = '.') = true)
    (h : numeral place s = .ok k t) : t.remaining < s.remaining := by
  simp only [numeral, bind, EStateM.bind] at h
  split at h
  · rename_i whole u hu
    cases digit : c.isDigit
    · rw [digit, Bool.false_or, decide_eq_true_eq] at start
      subst start
      rw [run_of_not pending digit] at hu
      cases hu
      simp only [afterDigits, pending, if_true] at h
      exact remaining_fraction_lt pending h
    · have moved := remaining_run_lt pending digit hu
      have back := recedes_afterDigits whole place u
      rw [h] at back
      exact Nat.lt_of_le_of_lt back moved
  · cases h

/-- A token other than the end of the input uses up some of it. -/
theorem remaining_next_lt {s t : Scanner} {k : Token} (h : next s = .ok k t)
    (more : k.kind ≠ .endOfInput) : t.remaining < s.remaining := by
  simp only [next, bind, EStateM.bind] at h
  split at h
  · rename_i u hu
    have back := recedes_skip false s
    rw [hu] at back
    refine Nat.lt_of_lt_of_le ?_ back
    unfold token at h
    cases hc : u.pending with
    | none =>
      rw [hc] at h
      cases h
      exact absurd rfl more
    | some c =>
      rw [hc] at h
      dsimp only at h
      by_cases letter : c.isAlpha = true
      · rw [if_pos letter] at h
        exact remaining_name_lt hc letter h
      · rw [if_neg letter] at h
        by_cases start : (c.isDigit || decide (c = '.')) = true
        · rw [if_pos start] at h
          exact remaining_numeral_lt hc start h
        · rw [if_neg start] at h
          exact remaining_symbol_lt hc h
  · cases h

end Scanner

end Reckoner
