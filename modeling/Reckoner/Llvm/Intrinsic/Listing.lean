/-! Listings of intrinsics.

The names of intrinsics consist of parts with points between them. A listing writes
the parts that several names start with once, and what may follow them in
parentheses. A star behind the parts of a name stands for a type behind it, and `=n`
says that it takes `n` doubles and gives one. An exclamation mark tells that the
parts in front of parentheses are a name as well, where nothing else does. -/
namespace Reckoner.Llvm

/-- Intrinsics whose names start alike: with `llvm.` and the stem. -/
structure Intrinsic where
  stem : String
  /-- How many types stand behind the stem in the full name, where doubles fit; one stands
  for any number where they do not. -/
  types : Nat
  /-- The number of doubles taken, if doubles are taken and one is given. -/
  arity : Option Nat
deriving Repr, DecidableEq

namespace Intrinsic.Listing

/-- A listing that has been read up to some character. -/
structure Reader where
  /-- What the names start with within each of the parentheses that are open. -/
  starts : List String := []
  /-- The word that is being read, in reverse. -/
  word : List Char := []
  found : List Intrinsic := []

def isMark (c : Char) : Bool :=
  c = '*' || c = '=' || c = '!'

namespace Reader

/-- The parts that the word being read stands for. -/
def stem (r : Reader) : String :=
  r.starts.headD "" ++ String.ofList (r.word.reverse.takeWhile (!isMark ·))

def marks (r : Reader) : List Char :=
  r.word.reverse.dropWhile (!isMark ·)

/-- The word being read is a name. -/
def take (r : Reader) : Reader :=
  let arity := match r.marks.dropWhile (· ≠ '=') with
    | _ :: digit :: _ => some (digit.toNat - '0'.toNat)
    | _ => none
  { r with word := [], found := ⟨r.stem, r.marks.count '*', arity⟩ :: r.found }

/-- The word being read ends. -/
def finish (r : Reader) : Reader :=
  if r.word.isEmpty then r else r.take

/-- The word being read is what names start with. -/
def enter (r : Reader) : Reader :=
  let starts := (r.stem ++ ".") :: r.starts
  if r.marks.isEmpty then { r with starts, word := [] } else { r.take with starts }

def next (r : Reader) (c : Char) : Reader :=
  if c = ' ' || c = '\n' then r.finish
  else if c = '(' then r.enter
  else if c = ')' then { r.finish with starts := r.starts.tail }
  else { r with word := c :: r.word }

end Reader

/-- The intrinsics of a listing. -/
def read (listing : String) : List Intrinsic :=
  (listing.toList.foldl Reader.next {}).finish.found

example : read "fabs*=1(ftz) add(rn(d=2 f) x) trap" =
    [⟨"trap", 0, none⟩, ⟨"add.x", 0, none⟩, ⟨"add.rn.f", 0, none⟩, ⟨"add.rn.d", 0, some 2⟩,
      ⟨"fabs.ftz", 0, none⟩, ⟨"fabs", 1, some 1⟩] := by
  decide +kernel

end Intrinsic.Listing

end Reckoner.Llvm
