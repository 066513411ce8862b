import Reckoner.Evaluation.Level

/-! What a session shows and how it evaluates. -/
namespace Reckoner.Session

structure Options where
  /-- Show the text of every function that is lowered. -/
  showsIR : Bool := false
  /-- Show every construct that is parsed. -/
  showsParse : Bool := false
  level : Evaluation.Level := .none
  /-- Ask for each statement. -/
  prompts : Bool := true
  moduleName : String := "kaleidoscope"
deriving Repr, DecidableEq

/-- A number given for a level that is out of range. -/
structure LevelOutOfRange where
  number : Int
deriving Repr, DecidableEq

def LevelOutOfRange.message (e : LevelOutOfRange) : String :=
  s!"opt_level must be between 0 and 3, got {e.number}"

/-- The options with the level of a given number. -/
def Options.withLevel (o : Options) (n : Int) : Except LevelOutOfRange Options :=
  match Evaluation.Level.ofInt n with
  | .ok level => .ok { o with level }
  | .error _ => .error ⟨n⟩

end Reckoner.Session
