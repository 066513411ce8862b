import Reckoner.Text.Utf8

/-! Sources of characters.

A source is what its reads give, one after the other: characters, and failures
that consume nothing and happen once. After the last of them every read finds
the end of the input, or, if the source is cut off, fails the same way. Sources
come from a text, from a text in which one read fails, and from bytes. -/
namespace Reckoner

/-- What one read gives. -/
inductive Read where
  | char (c : Char)
  | failure (reason : String)
deriving Repr, DecidableEq

structure Source where
  reads : List Read
  /-- Why every read after `reads` fails, if they do not find the end of the input. -/
  cutOff : Option String := none
deriving Repr, DecidableEq

namespace Source

/-- The characters of a text. -/
def ofList (cs : List Char) : Source :=
  { reads := cs.map .char }

def ofString (s : String) : Source :=
  ofList s.toList

/-- Lets read number `n` fail once, counting from zero. At most one read finds
the end of a source, so a failure further on never happens. -/
def failingAt (s : Source) (n : Nat) (reason : String) : Source :=
  if n ≤ s.reads.length then
    { s with reads := s.reads.take n ++ .failure reason :: s.reads.drop n }
  else s

/-- The most bytes that are decoded together. -/
def portionSize : Nat := 8192

/-- Bytes in portions that are decoded together. -/
def portions (bytes : List Nat) : List (List Nat) :=
  if bytes.length ≤ portionSize then [bytes]
  else bytes.take portionSize :: portions (bytes.drop portionSize)
termination_by bytes.length
decreasing_by
  simp only [List.length_drop, portionSize] at *
  omega

/-- The characters of a portion as they are read, and whether a carriage return at
its end waits for the character after it. -/
def unified (waiting : Bool) (cs : List Char) : List Read × Bool :=
  let cs := if waiting then '\r' :: cs else cs
  if cs.getLast? = some '\r' then ((Text.Utf8.unifyLines cs.dropLast).map .char, true)
  else ((Text.Utf8.unifyLines cs).map .char, false)

/-- The source that portions of bytes make behind the start of a sequence and, if
one is waiting, a carriage return. A portion with a broken sequence makes a read fail
and is lost. A sequence cut off by the end of the last portion is met by every read
from then on. -/
def ofPortions (started : List Nat) (waiting : Bool) : List (List Nat) → Source
  | [] =>
    match Text.Utf8.decode 0 started with
    | (_, .cut fault) | (_, .broken fault) => { reads := [], cutOff := some fault.message }
    | (_, .complete) => { reads := if waiting then [.char '\n'] else [] }
  | portion :: rest =>
    let bytes := started ++ portion
    match Text.Utf8.decode 0 bytes with
    | (_, .broken fault) =>
      let after := ofPortions started waiting rest
      { after with reads := .failure fault.message :: after.reads }
    | (cs, _) =>
      let (reads, waiting) := unified waiting cs
      let after := ofPortions (bytes.drop (String.ofList cs).utf8ByteSize) waiting rest
      { after with reads := reads ++ after.reads }

/-- The characters that bytes encode, with line ends unified. -/
def ofBytes (bytes : List Nat) : Source :=
  ofPortions [] false (portions bytes)

end Source

end Reckoner
