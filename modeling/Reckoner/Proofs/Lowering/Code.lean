import Reckoner.Lowering.Generator
import Reckoner.Proofs.IR.Names
import Reckoner.Proofs.Expr.Shape

/-! The code of an expression.

Blocks are written one instruction after another, and a conditional leaves the block
it starts in and goes on in another one. `Code` says what stands between two places
in the blocks of a function if the code of an expression stands there: the blocks
that it starts and finishes, the operand that holds its value behind it, and the
names that it takes. It speaks of nothing else in the function, so the codes of the
parts of a tree are put together as the tree is, and what is proved by induction on
it holds wherever the code ends up. -/
namespace Reckoner

namespace Lowering
open IR

/-- A place in a block: the instructions before it, and the results that are known
where the block starts. -/
structure Point where
  label : String
  start : List (String × Ty) := []
  instrs : List Instr := []

namespace Point

/-- The place behind one more instruction. -/
def push (p : Point) (i : Instr) : Point :=
  { p with instrs := p.instrs ++ [i] }

/-- The block up to a place, with nothing behind it. -/
def block (p : Point) : Block :=
  { label := p.label, instrs := p.instrs }

/-- The results that are known at a place. -/
def known (p : Point) : List (String × Ty) :=
  p.start ++ p.instrs.map Instr.result

/-- The names of a block and of its results up to a place. -/
def names (p : Point) : List String :=
  p.label :: p.instrs.map Instr.name

end Point

/-- A finished block: its last place and how control leaves it. -/
structure Piece where
  last : Point
  terminator : Terminator

def Piece.block (c : Piece) : Block :=
  { label := c.last.label, instrs := c.last.instrs, terminator := some c.terminator }

section
variable (arity? : String → Option Nat) (names : List (String × Nat))

mutual

/-- The code of an expression from the place `p` to the place `q`, where names in scope
stand for parameters as `names` says and functions take as many arguments as `arity?`
says. The operand `v` is the value, the blocks `bs` are finished, and `ns` are the
names taken, of blocks and of results. -/
inductive Code : (p : Point) → Expr → (v : Operand) → (bs : List Piece) → (q : Point) →
    (ns : List String) → Prop where
  | number {p x l} : Code p (.number x l) (.const x) [] p []
  | var {p n i l} : names.lookup n = some i → Code p (.var n l) (.param i) [] p []
  | arithmetic {p q r : Point} {op o lhs rhs l x y bs cs ns ms n} :
    Operation.ofString? op = some (.arithmetic o) →
    Code p lhs x bs q ns → Code q rhs y cs r ms →
    Code p (.binary op lhs rhs l) (.result n .double) (bs ++ cs) (r.push (.arithmetic n o x y))
      (ns ++ ms ++ [n])
  | less {p q r : Point} {op lhs rhs l x y bs cs ns ms m n} :
    Operation.ofString? op = some .less →
    Code p lhs x bs q ns → Code q rhs y cs r ms →
    Code p (.binary op lhs rhs l) (.result n .double) (bs ++ cs)
      ((r.push (.compare m .lessOrUnordered x y)).push (.widen n (.result m .flag)))
      (ns ++ ms ++ [m, n])
  | call {p q : Point} {callee args l xs bs ns n} :
    callee ≠ anonymousName → arity? callee = some args.length →
    CodeAll p args xs bs q ns →
    Code p (.call callee args l) (.result n .double) bs (q.push (.call n callee xs)) (ns ++ [n])
  /-- The branches start where the results are known that were so at the fork, and so
  does the block where they meet. -/
  | conditional {p q fork r s : Point} {c t e l x y z bs cs ds ns ms ks flag yes no join n} :
    Code p c x bs q ns →
    fork = q.push (.compare flag .orderedAndUnequal x (.const (0.0 : Float))) →
    Code ⟨yes, fork.known, []⟩ t y cs r ms →
    Code ⟨no, fork.known, []⟩ e z ds s ks →
    Code p (.conditional c t e l) (.result n .double)
      (bs ++ ⟨fork, .branch (.result flag .flag) yes no⟩ :: (cs ++ ⟨r, .jump join⟩ ::
        (ds ++ [⟨s, .jump join⟩])))
      ⟨join, fork.known, [.phi n [(y, r.label), (z, s.label)]]⟩
      (ns ++ [flag, yes, no, join] ++ ms ++ ks ++ [n])

/-- The code of expressions one behind another, with their values. -/
inductive CodeAll : (p : Point) → List Expr → (vs : List Operand) → (bs : List Piece) →
    (q : Point) → (ns : List String) → Prop where
  | nil {p} : CodeAll p [] [] [] p []
  | cons {p q r : Point} {e rest v vs bs cs ns ms} :
    Code p e v bs q ns → CodeAll q rest vs cs r ms →
    CodeAll p (e :: rest) (v :: vs) (bs ++ cs) r (ns ++ ms)

end

end

end Lowering

end Reckoner
