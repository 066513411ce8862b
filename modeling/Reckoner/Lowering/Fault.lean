import Reckoner.Diagnostic
import Reckoner.IR.Text

/-! What can be wrong with a tree.

A fault leaves the module as it was before the tree, except that parameters may
have been renamed; it is reported with the place of the tree at fault. -/
namespace Reckoner.Lowering

/-- Where only a double will do. -/
inductive Position where
  | condition
  | consequence
  | alternative
  | returned (function : String)
deriving Repr, DecidableEq

def Position.text : Position → String
  | condition => "if condition"
  | consequence => "then branch"
  | alternative => "else branch"
  | returned function => s!"return value of '{function}'"

/-- The constructs that need a function around them. -/
inductive Construct where
  | operation
  | call
  | conditional
deriving Repr, DecidableEq

def Construct.text : Construct → String
  | operation => "Binary expression"
  | call => "Call"
  | conditional => "If expression"

/-- What is at fault. -/
inductive Cause where
  | unknownVariable (name : String)
  | unknownFunction (name : String)
  | argumentCount (name : String) (expected found : Nat)
  | unknownOperator (operator : String)
  | notDouble (position : Position) (found : IR.Ty)
  | redefined (name : String)
  | outsideFunction (construct : Construct)
deriving Repr, DecidableEq

structure Fault where
  cause : Cause
  location : Option Location
deriving Repr, DecidableEq

namespace Cause

def code : Cause → String
  | unknownVariable _ => "C001"
  | unknownFunction _ => "C002"
  | argumentCount .. => "C003"
  | unknownOperator _ => "C004"
  | notDouble .. => "C005"
  | redefined _ => "C006"
  | outsideFunction _ => "C007"

def message : Cause → String
  | unknownVariable name => s!"Unknown variable name '{name}'"
  | unknownFunction name => s!"Unknown function referenced: '{name}'"
  | argumentCount name expected found =>
    s!"Incorrect number of arguments for '{name}': expected {expected}, found {found}"
  | unknownOperator operator => s!"Unexpected binary operator '{operator}'"
  | notDouble position found =>
    s!"Type mismatch in {position.text}: expected double, found {found.text}"
  | redefined name => s!"Function '{name}' cannot be redefined"
  | outsideFunction construct => s!"{construct.text} cannot appear outside a function body"

def help : Cause → Option String
  | unknownVariable _ => some "Only the parameters of the enclosing function are in scope."
  | unknownFunction name => some s!"Define it with 'def' or declare it with 'extern {name}(...)'."
  | _ => none

end Cause

namespace Fault

def code (f : Fault) : String := f.cause.code

def diagnostic (f : Fault) : Diagnostic :=
  { message := f.cause.message
    location := f.location
    code := some f.code
    help := f.cause.help }

end Fault

/-- What breaks off the lowering of a tree that no parse gives: a prototype or a
function inside an expression, or a function without a name. Nothing is taken
back then. -/
inductive Misuse where
  /-- An operation on operands of two types. -/
  | operandTypes (lhs rhs : IR.Ty)
  /-- An argument, counted from one, that is no double. -/
  | argumentType (index : Nat) (found : IR.Ty)
  /-- An instruction outside every block. -/
  | noBlock
  /-- A new global with the name of another or with none. -/
  | nameTaken (name : String)
  /-- The removal of a function that is not there. -/
  | notThere (name : String)
deriving Repr, DecidableEq

def Misuse.message : Misuse → String
  | operandTypes lhs rhs => s!"Operands must be the same type, got ({lhs.text}, {rhs.text})"
  | argumentType index found => s!"Type of #{index} arg mismatch: double != {found.text}"
  | noBlock => ""
  | nameTaken name => name
  | notThere name => Text.quoted name

end Reckoner.Lowering
