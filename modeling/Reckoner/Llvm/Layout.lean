import Reckoner.Decimal.Reading

/-! Layouts of data.

A layout is a list of entries with dashes between them, each a letter and what it
needs: sizes, alignments, spaces of addresses. `isLayout` tells whether a text is
one. An empty text is a layout; an empty entry is none. -/
namespace Reckoner.Llvm.Layout

/-- The parts of a text between separators. -/
def pieces (separator : Char) : List Char → List (List Char)
  | [] => [[]]
  | c :: rest =>
    if c = separator then [] :: pieces separator rest
    else
      match pieces separator rest with
      | [] => [[c]]
      | piece :: more => (c :: piece) :: more

/-- A whole number of so many bits. -/
def number? (bits : Nat) (s : List Char) : Option Nat :=
  if s.isEmpty || !s.all Char.isDigit then none
  else (some (Decimal.valueOf s)).filter (· < Nat.pow 2 bits)

/-- A space of addresses. -/
def space? (s : List Char) : Option Nat :=
  number? 24 s

/-- A number of bits that something takes. -/
def size? (s : List Char) : Option Nat :=
  (number? 24 s).filter (· ≠ 0)

/-- A power of two of bytes, in bits. -/
def isAlignment (n : Nat) : Bool :=
  n ≠ 0 && n % 8 = 0 && Nat.pow 2 n.log2 = n

def alignment? (s : List Char) : Option Nat :=
  (number? 16 s).filter isAlignment

/-- An alignment that is required, and one at least as great that is preferred. -/
def areAlignments (required : Option Nat) : List (List Char) → Bool
  | [] => required.isSome
  | [preferred] => required.any fun n => (alignment? preferred).any (n ≤ ·)
  | _ => false

/-- A size and alignments of values. -/
def isOfValues (letter : Char) : List (List Char) → Bool
  | size :: required :: preferred =>
    (size? size).any (fun n => letter ≠ 'i' || n ≠ 8 || alignment? required = some 8) &&
      areAlignments (alignment? required) preferred
  | _ => false

/-- Alignments of aggregates, whose size is zero or left out. -/
def isOfAggregates : List (List Char) → Bool
  | size :: required :: preferred =>
    (size.isEmpty || number? 24 size = some 0) &&
      areAlignments ((number? 16 required).filter fun n => n = 0 || isAlignment n) preferred
  | _ => false

/-- The name of a space of addresses, in parentheses behind its number. -/
def spaceName? (s : List Char) : Option (List Char) :=
  match s.dropWhile (· ≠ '(') with
  | '(' :: name => if name.getLast? = some ')' then some name.dropLast else none
  | _ => none

/-- Which pointers an entry is about: marks, the number of a space of addresses, which
is zero if left out, and its name. -/
def isOfSpace (s : List Char) : Bool :=
  let isMark (c : Char) : Bool := c = 'e' || c = 'u'
  let marked := s.takeWhile isMark
  let rest := s.dropWhile isMark
  let digits := rest.takeWhile (· ≠ '(')
  let space := if digits.isEmpty then some 0 else space? digits
  space.any (fun n => marked.isEmpty || n ≠ 0) &&
    (digits = rest ||
      (spaceName? rest).any fun name =>
        !name.isEmpty && !(["P".toList, "A".toList, "G".toList].contains name))

/-- A size and alignments of pointers, and a size of indices into what they point to. -/
def isOfPointers : List (List Char) → Bool
  | space :: size :: required :: rest =>
    isOfSpace space && (size? size).isSome &&
      areAlignments (alignment? required) (rest.take 1) &&
      match rest.drop 1 with
      | [] => true
      | [index] => (size? index).any fun n => (size? size).any (n ≤ ·)
      | _ => false
  | _ => false

/-- One entry of a layout. -/
def isEntry : List Char → Bool
  | 'n' :: 'i' :: rest =>
    match rest with
    | ':' :: spaces => (pieces ':' spaces).all fun s => (space? s).any (· ≠ 0)
    | _ => false
  | letter :: rest =>
    match letter with
    | 'e' | 'E' => rest.isEmpty
    | 's' => true
    | 'i' | 'f' | 'v' => isOfValues letter (pieces ':' rest)
    | 'a' => isOfAggregates (pieces ':' rest)
    | 'p' => isOfPointers (pieces ':' rest)
    | 'n' => (pieces ':' rest).all fun s => (size? s).isSome
    | 'S' => (alignment? rest).isSome
    | 'F' =>
      match rest with
      | kind :: alignment => (kind = 'i' || kind = 'n') && (alignment? alignment).isSome
      | [] => false
    | 'P' | 'A' | 'G' => (space? rest).isSome
    | 'm' =>
      match rest with
      | [':', mangling] => ['e', 'l', 'o', 'm', 'w', 'x', 'a'].contains mangling
      | _ => false
    | _ => false
  | [] => false

/-- No name occurs twice. -/
def areDistinct : List (List Char) → Bool
  | [] => true
  | name :: rest => !rest.contains name && areDistinct rest

/-- The name that an entry about pointers gives to a space of addresses. -/
def namedSpace? : List Char → Option (List Char)
  | 'p' :: rest => (pieces ':' rest).head?.bind spaceName?
  | _ => none

/-- A text that is a layout. -/
def isLayout (s : List Char) : Bool :=
  s.isEmpty ||
    let entries := pieces '-' s
    entries.all isEntry && areDistinct (entries.filterMap namedSpace?)

end Reckoner.Llvm.Layout
