import Reckoner.Diagnostic
import Reckoner.Token

/-! What can be wrong with a sequence of tokens.

A parse fails at one token, which its fault names; no token at all is shown as
`nothing`. -/
namespace Reckoner.Expr

/-- What the grammar asks for where it does not find it. -/
inductive Expected where
  | expression
  | define
  | declare
  /-- The parenthesis that closes an expression. -/
  | closing
  /-- A comma or the parenthesis that closes the arguments of a call. -/
  | moreArguments
  | functionName
  | openParameters
  | closeParameters
  | consequence
  | alternative
deriving Repr, DecidableEq

structure Fault where
  expected : Expected
  found : Option Token
deriving Repr

namespace Fault

def foundText (f : Fault) : String :=
  (f.found.map Token.text).getD "nothing"

def place (f : Fault) : Option Location :=
  f.found.bind Token.location

def code (f : Fault) : String :=
  match f.expected with
  | .expression => "P001"
  | .define | .declare | .closing => "P002"
  | .moreArguments => "P003"
  | .functionName | .openParameters | .closeParameters => "P004"
  | .consequence | .alternative => "P005"

def message (f : Fault) : String :=
  let what := match f.expected with
    | .expression => "Unexpected token when expecting an expression"
    | .define => "Expected 'def'"
    | .declare => "Expected 'extern'"
    | .closing => "Expected ')' after expression"
    | .moreArguments => "Expected ')' or ',' in argument list"
    | .functionName => "Expected function name in prototype"
    | .openParameters => "Expected '(' in prototype"
    | .closeParameters => "Expected ')' in prototype"
    | .consequence => "Expected 'then' in if expression"
    | .alternative => "Expected 'else' in if expression"
  what ++ ", found " ++ f.foundText

def help (f : Fault) : Option String :=
  match f.expected with
  | .expression => some "An expression starts with a number, an identifier, '(' or 'if'."
  | .define | .declare | .closing | .moreArguments => none
  | .functionName | .openParameters | .closeParameters =>
    some "Prototypes look like: name(arg1, arg2)"
  | .consequence | .alternative => some "Conditionals look like: if cond then a else b"

def suggestions (f : Fault) : List String :=
  match f.expected with
  | .moreArguments => ["Separate arguments with ','", "Close the call with ')'"]
  | _ => []

def diagnostic (f : Fault) : Diagnostic :=
  { message := f.message
    location := f.place
    code := some f.code
    help := f.help
    suggestions := f.suggestions }

end Fault

end Reckoner.Expr
