import Reckoner.Decimal.Shortest

/-! The two functions that every program can reach outside its module.

`putchard` writes one character by its code, which is cut to a whole number and
kept between 0 and 255, and `printd` writes a number on a line of its own. Both
give 0 if the text could be written and 1 if it could not. -/
namespace Reckoner

inductive Host where
  | putchard
  | printd
deriving Repr, DecidableEq

namespace Host

def name : Host → String
  | putchard => "putchard"
  | printd => "printd"

def ofName? (s : String) : Option Host :=
  [putchard, printd].find? (·.name = s)

/-- The character code of a number. The value that is no number has code 0. -/
def code (x : Float) : Nat :=
  if x < 0.0 then 0 else if 255.0 < x then 255 else x.toUInt8.toNat

/-- What a host function writes for an argument. -/
def text : Host → Float → String
  | putchard, x => String.singleton (Char.ofNat (code x))
  | printd, x => Decimal.shortest x ++ "\n"

/-- The value of a call and the text it leaves behind. -/
structure Reply where
  value : Float
  text : String

/-- Calls a host function, where some texts can be written. -/
def call (h : Host) (takes : String → Bool) (x : Float) : Reply :=
  if takes (h.text x) then ⟨0.0, h.text x⟩ else ⟨1.0, ""⟩

theorem ofName?_name (h : Host) : ofName? h.name = some h := by
  cases h <;> decide

theorem name_of_ofName? {s : String} {h : Host} (found : ofName? s = some h) : h.name = s := by
  simpa using List.find?_some found

end Host

end Reckoner
