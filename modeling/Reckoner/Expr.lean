import Reckoner.Double
import Reckoner.Decimal.Significant
import Reckoner.Location

/-! The trees of the language.

An expression is a number, a parameter, an operation, a call or a conditional.
Prototypes and functions are expressions too, so that every construct can be
printed, compared and lowered alike; the parser puts them at the top only. The
place that a tree carries is for diagnostics: it is not part of its text, nor of
what `same` compares. -/
namespace Reckoner

/-- A function's name and the names of its parameters. All values are doubles. -/
structure Prototype where
  name : String
  params : List String
  location : Option Location := none
deriving Repr, DecidableEq

inductive Expr where
  | number (value : Double) (location : Option Location)
  | var (name : String) (location : Option Location)
  | binary (operator : String) (lhs rhs : Expr) (location : Option Location)
  | call (callee : String) (args : List Expr) (location : Option Location)
  | conditional (condition consequence alternative : Expr) (location : Option Location)
  | prototype (p : Prototype)
  | function (p : Prototype) (body : Expr) (location : Option Location)
deriving Repr

/-- The name of the function that stands for a bare expression. -/
def anonymousName : String := "__anon_expr"

namespace Prototype

def isAnonymous (p : Prototype) : Bool :=
  p.name = anonymousName

def text (p : Prototype) : String :=
  s!"{p.name}(" ++ ", ".intercalate p.params ++ ")"

/-- Equal up to their places. -/
def same (p q : Prototype) : Bool :=
  p.name = q.name && p.params = q.params

end Prototype

namespace Expr

def location : Expr → Option Location
  | number _ l | var _ l | binary _ _ _ l | call _ _ l | conditional _ _ _ l | function _ _ l => l
  | prototype p => p.location

/-- A bare expression as a function without parameters. -/
def anonymous (body : Expr) : Expr :=
  function ⟨anonymousName, [], body.location⟩ body body.location

/-- Whether a prototype or function has the reserved name of bare expressions. -/
def isAnonymous? : Expr → Option Bool
  | prototype p | function p _ _ => some p.isAnonymous
  | _ => none

mutual

/-- The text of a tree. Operations and conditionals are always in parentheses. -/
def text : Expr → String
  | number value _ => Decimal.significant value.value
  | var name _ => name
  | binary operator lhs rhs _ => "(" ++ lhs.text ++ " " ++ operator ++ " " ++ rhs.text ++ ")"
  | call callee args _ => callee ++ "(" ++ ", ".intercalate (texts args) ++ ")"
  | conditional condition consequence alternative _ =>
    "(if " ++ condition.text ++ " then " ++ consequence.text ++ " else " ++ alternative.text ++ ")"
  | prototype p => p.text
  | function p body _ => if p.isAnonymous then body.text else "def " ++ p.text ++ " " ++ body.text

def texts : List Expr → List String
  | [] => []
  | e :: rest => e.text :: texts rest

end

mutual

/-- Equal up to places, numbers as doubles: zeros of both signs are equal, and the
value that is no number equals nothing. -/
def same : Expr → Expr → Bool
  | number x _, number y _ => x.value == y.value
  | var a _, var b _ => a = b
  | binary a l r _, binary b m s _ => a = b && same l m && same r s
  | call a xs _, call b ys _ => a = b && sameAll xs ys
  | conditional a b c _, conditional d e f _ => same a d && same b e && same c f
  | prototype p, prototype q => p.same q
  | function p b _, function q c _ => p.same q && same b c
  | _, _ => false

def sameAll : List Expr → List Expr → Bool
  | [], [] => true
  | x :: xs, y :: ys => same x y && sameAll xs ys
  | _, _ => false

end

/-- Compares each tree of a list with each. A tree is equal to itself whatever it holds. -/
def comparisons (es : List Expr) : List (List Bool) :=
  es.zipIdx.map fun (x, i) => es.zipIdx.map fun (y, j) => i = j || same x y

/-- A bare expression prints as its body. -/
theorem text_anonymous (body : Expr) : (anonymous body).text = body.text := by
  simp [anonymous, text, Prototype.isAnonymous]

end Expr

end Reckoner
