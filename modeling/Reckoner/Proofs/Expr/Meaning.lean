import Reckoner.Machine
import Reckoner.Proofs.Expr.Shape

/-! What expressions mean.

An expression is evaluated in a program, which is the definitions taken so far, and for
values of the parameters in scope. Its value comes with the text that host functions
write on the way. Operands and arguments are evaluated from left to right, each once,
and of a conditional only one branch.

What a call means depends on the process in which it takes place. In one that is `plain`,
it is the body of a definition or a host function; another one may have values of its own
for some names, even for names that are defined. Where it has none for the functions of a
program, the process makes no difference (`evaluates_plain_iff`). -/
namespace Reckoner

/-- Parameters in scope and their values. The first of one name counts. -/
abbrev Bindings := List (String × Float)

/-- What an operator computes. A comparison with the value that is no number comes out
true. -/
def operator? (op : String) (x y : Float) : Option Float :=
  match op with
  | "+" => some (x + y)
  | "-" => some (x - y)
  | "*" => some (x * y)
  | "<" => some (if x.isNaN || y.isNaN || x < y then 1.0 else 0.0)
  | _ => none

/-- A condition holds if it is neither a zero nor the value that is no number. -/
def isTrue (x : Float) : Bool :=
  !x.isNaN && x != 0.0

/-- The definition of a name. -/
def Program.definition? (P : Program) (name : String) : Option Definition :=
  P.find? (·.name = name)

/-- What the parameters stand for in a call: arguments by their places, and the last one
where parameters have the same name. -/
def Definition.bind (d : Definition) (args : List Float) : Bindings :=
  (d.params.zip args).reverse

example (body : Expr) (x y : Float) :
    ((⟨"f", ["a", "a"], body⟩ : Definition).bind [x, y]).lookup "a" = some y := rfl

/-- A process has no values of its own for calls of some names, neither in place of those
that a program gives nor where it gives none. -/
structure Process.IsPlainFor (proc : Process) (P : Program) (known : String → Prop) : Prop where
  library : ∀ n, known n → ∀ xs, proc.library n xs = none
  foreign : ∀ n, known n → P.definition? n = none → Host.ofName? n = none →
    ∀ xs, proc.foreign n xs = none
  takes : ∀ text, proc.takes text = true

namespace Expr

section
variable (proc : Process) (P : Program)

mutual

/-- The value of an expression and the text that is written meanwhile. A function of the
program is called even if a host function has its name. -/
inductive Evaluates : Bindings → Expr → Float → String → Prop where
  | number {env x l} : Evaluates env (.number x l) x.value ""
  | var {env n l x} : env.lookup n = some x → Evaluates env (.var n l) x ""
  | binary {env op lhs rhs l x y z s t} : Evaluates env lhs x s → Evaluates env rhs y t →
    operator? op x y = some z → Evaluates env (.binary op lhs rhs l) z (s ++ t)
  | library {env callee args l xs x s} : proc.library callee xs = some x →
    EvaluatesAll env args xs s → Evaluates env (.call callee args l) x s
  | call {env callee args l d xs x s t} : proc.library callee xs = none →
    P.definition? callee = some d → xs.length = d.params.length → EvaluatesAll env args xs s →
    Evaluates (d.bind xs) d.body x t → Evaluates env (.call callee args l) x (s ++ t)
  | outside {env callee args l x xs s t} : proc.library callee xs = none →
    P.definition? callee = none → proc.outside? callee xs = some (x, t) →
    EvaluatesAll env args xs s → Evaluates env (.call callee args l) x (s ++ t)
  | conditional {env c t e l x y s w} : Evaluates env c x s →
    Evaluates env (if isTrue x then t else e) y w →
    Evaluates env (.conditional c t e l) y (s ++ w)

inductive EvaluatesAll : Bindings → List Expr → List Float → String → Prop where
  | nil {env} : EvaluatesAll env [] [] ""
  | cons {env e rest x xs s t} : Evaluates env e x s → EvaluatesAll env rest xs t →
    EvaluatesAll env (e :: rest) (x :: xs) (s ++ t)

end

end

section
variable {proc : Process} {P : Program}

mutual

/-- An expression has at most one value, and writes one text. -/
theorem Evaluates.unique {env : Bindings} {e : Expr} {x y : Float} {s t : String} :
    Evaluates proc P env e x s → Evaluates proc P env e y t → x = y ∧ s = t
  | .number, .number => ⟨rfl, rfl⟩
  | .var found, .var found' => ⟨Option.some.inj (found.symm.trans found'), rfl⟩
  | .binary hl hr meaning, .binary hl' hr' meaning' => by
    obtain ⟨rfl, rfl⟩ := hl.unique hl'
    obtain ⟨rfl, rfl⟩ := hr.unique hr'
    exact ⟨Option.some.inj (meaning.symm.trans meaning'), rfl⟩
  | .library known hargs, .library known' hargs' => by
    obtain ⟨rfl, rfl⟩ := hargs.unique hargs'
    exact ⟨Option.some.inj (known.symm.trans known'), rfl⟩
  | .call _ found _ hargs hbody, .call _ found' _ hargs' hbody' => by
    obtain ⟨rfl, rfl⟩ := hargs.unique hargs'
    obtain rfl := Option.some.inj (found.symm.trans found')
    obtain ⟨rfl, rfl⟩ := hbody.unique hbody'
    exact ⟨rfl, rfl⟩
  | .outside _ _ replies hargs, .outside _ _ replies' hargs' => by
    obtain ⟨rfl, rfl⟩ := hargs.unique hargs'
    obtain ⟨rfl, rfl⟩ := Prod.mk.inj (Option.some.inj (replies.symm.trans replies'))
    exact ⟨rfl, rfl⟩
  | .library known hargs, .call unknown _ _ hargs' _
  | .library known hargs, .outside unknown _ _ hargs' => by
    obtain ⟨rfl, rfl⟩ := hargs.unique hargs'
    cases known.symm.trans unknown
  | .call unknown _ _ hargs _, .library known hargs'
  | .outside unknown _ _ hargs, .library known hargs' => by
    obtain ⟨rfl, rfl⟩ := hargs.unique hargs'
    cases known.symm.trans unknown
  | .call _ found _ _ _, .outside _ undefined _ _
  | .outside _ undefined _ _, .call _ found _ _ _ => by
    cases undefined.symm.trans found
  | .conditional hc hbranch, .conditional hc' hbranch' => by
    obtain ⟨rfl, rfl⟩ := hc.unique hc'
    obtain ⟨rfl, rfl⟩ := hbranch.unique hbranch'
    exact ⟨rfl, rfl⟩

theorem EvaluatesAll.unique {env : Bindings} {es : List Expr} {xs ys : List Float} {s t : String} :
    EvaluatesAll proc P env es xs s → EvaluatesAll proc P env es ys t → xs = ys ∧ s = t
  | .nil, .nil => ⟨rfl, rfl⟩
  | .cons first others, .cons first' others' => by
    obtain ⟨rfl, rfl⟩ := first.unique first'
    obtain ⟨rfl, rfl⟩ := others.unique others'
    exact ⟨rfl, rfl⟩

end

end

/-! ### What the value of an expression depends on -/

mutual

/-- All calls in an expression are of names with some property. -/
def Calls (known : String → Prop) : Expr → Prop
  | number _ _ | var _ _ => True
  | binary _ lhs rhs _ => lhs.Calls known ∧ rhs.Calls known
  | call callee args _ => known callee ∧ AllCall known args
  | conditional condition consequence alternative _ =>
    condition.Calls known ∧ consequence.Calls known ∧ alternative.Calls known
  | prototype _ | function _ _ _ => False

def AllCall (known : String → Prop) : List Expr → Prop
  | [] => True
  | e :: rest => e.Calls known ∧ AllCall known rest

end

mutual

theorem IsTerm.calls : {e : Expr} → e.IsTerm → e.Calls IsIdentifier
  | number _ _, _ | var _ _, _ => trivial
  | binary _ _ _ _, h => ⟨h.1.calls, h.2.calls⟩
  | call _ _ _, h => ⟨h.1, h.2.allCall⟩
  | conditional _ _ _ _, h => ⟨h.1.calls, h.2.1.calls, h.2.2.calls⟩

theorem AreTerms.allCall : {es : List Expr} → AreTerms es → AllCall IsIdentifier es
  | [], _ => trivial
  | _ :: _, h => ⟨h.1.calls, h.2.allCall⟩

end

/-- Calls of some names mean the same in two processes and programs. -/
structure CallAlike (known : String → Prop) (proc other : Process) (P Q : Program) : Prop where
  library : ∀ n, known n → proc.library n = other.library n
  definition : ∀ n, known n → P.definition? n = Q.definition? n
  outside : ∀ n, known n → P.definition? n = none → proc.outside? n = other.outside? n

theorem CallAlike.symm {known : String → Prop} {proc other : Process} {P Q : Program}
    (h : CallAlike known proc other P Q) : CallAlike known other proc Q P where
  library n hn := (h.library n hn).symm
  definition n hn := (h.definition n hn).symm
  outside n hn undefined := (h.outside n hn ((h.definition n hn).trans undefined)).symm

section
variable {known : String → Prop} {proc other : Process} {P Q : Program}

mutual

/-- Only what is called matters for the value of an expression. -/
theorem Evaluates.congr (alike : CallAlike known proc other P Q)
    (bodies : ∀ d ∈ P, d.body.Calls known) {env : Bindings} {e : Expr} {x : Float} {s : String} :
    Evaluates proc P env e x s → e.Calls known → Evaluates other Q env e x s
  | .number, _ => .number
  | .var found, _ => .var found
  | .binary hl hr meaning, calls =>
    .binary (hl.congr alike bodies calls.1) (hr.congr alike bodies calls.2) meaning
  | .library value hargs, calls =>
    .library (alike.library _ calls.1 ▸ value) (hargs.congr alike bodies calls.2)
  | .call unknown found length hargs hbody, calls =>
    .call (alike.library _ calls.1 ▸ unknown) (alike.definition _ calls.1 ▸ found) length
      (hargs.congr alike bodies calls.2)
      (hbody.congr alike bodies (bodies _ (List.mem_of_find?_eq_some found)))
  | .outside unknown undefined replies hargs, calls =>
    .outside (alike.library _ calls.1 ▸ unknown) (alike.definition _ calls.1 ▸ undefined)
      (alike.outside _ calls.1 undefined ▸ replies) (hargs.congr alike bodies calls.2)
  | .conditional hc hbranch, calls =>
    .conditional (hc.congr alike bodies calls.1)
      (hbranch.congr alike bodies (by split <;> simp [calls.2.1, calls.2.2]))

theorem EvaluatesAll.congr (alike : CallAlike known proc other P Q)
    (bodies : ∀ d ∈ P, d.body.Calls known) {env : Bindings} {es : List Expr} {xs : List Float}
    {s : String} : EvaluatesAll proc P env es xs s → AllCall known es → EvaluatesAll other Q env es xs s
  | .nil, _ => .nil
  | .cons first others, calls =>
    .cons (first.congr alike bodies calls.1) (others.congr alike bodies calls.2)

end

/-- Where a process has no values of its own, an expression has the value that the program
alone gives it. -/
theorem evaluates_plain_iff (plain : proc.IsPlainFor P known) (bodies : ∀ d ∈ P, d.body.Calls known)
    {e : Expr} (calls : e.Calls known) (env : Bindings) (x : Float) (s : String) :
    e.Evaluates proc P env x s ↔ e.Evaluates .plain P env x s := by
  have alike : CallAlike known proc .plain P P := by
    refine ⟨fun n hn => funext (plain.library n hn), fun _ _ => rfl, fun n hn undefined => ?_⟩
    have takes : proc.takes = Process.plain.takes := funext plain.takes
    funext xs
    unfold Process.outside?
    rw [takes]
    cases host : Host.ofName? n with
    | some h => cases xs <;> rfl
    | none =>
      show (proc.foreign n xs).map (·, "") = none
      rw [plain.foreign n hn undefined host, Option.map_none]
  exact ⟨fun h => h.congr alike bodies calls, fun h => h.congr alike.symm bodies calls⟩

end

end Expr

/-- A definition under the reserved name takes nothing away from the others. -/
theorem Program.definition?_anonymous (P : Program) (d : Definition) (name : d.name = anonymousName)
    {n : String} (ordinary : n ≠ anonymousName) :
    definition? (P.without anonymousName ++ [d]) n = P.definition? n := by
  have last : [d].find? (fun d => decide (d.name = n)) = none := by
    simp [name, ordinary.symm]
  rw [definition?, List.find?_append, last, Option.or_none, without, List.find?_filter, definition?]
  refine congrArg (List.find? · P) (funext fun k => ?_)
  by_cases here : k.name = n
  · simp [here, ordinary]
  · simp [here]

end Reckoner
