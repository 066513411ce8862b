import Reckoner.Text.Quoted

/-! Places in a source. -/
namespace Reckoner

/-- A place in a named source. In a text that is read, lines and columns count from
one, and the offset is the number of characters read so far, the one at this place
included. The place of a tree made otherwise may have any numbers. -/
structure Location where
  file : String
  line : Int
  column : Int
  offset : Int
deriving Repr, DecidableEq

namespace Location

/-- The place as diagnostics point at it. -/
def text (l : Location) : String :=
  s!"{l.file}:{l.line}:{l.column}"

/-- The place with all its fields. -/
def describe (l : Location) : String :=
  s!"SourceLocation({Text.quoted l.file}, {l.line}, {l.column}, {l.offset})"

end Location

end Reckoner
