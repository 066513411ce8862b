import Reckoner.Proofs.IR.Text
import Reckoner.Proofs.Lowering.Program

/-! What a refused definition leaves behind.

A definition with a fault takes its function back. That undoes all but one thing: a
function that was declared before has the parameter names of the definition from then
on, unless it had been printed under its own (`Reaches.refused_text_iff`). Nothing
else in the text of the module can change, and no other function does. -/
namespace Reckoner

namespace IR.Function

/-- Parameters keep their names under a renaming only if they are named so already. -/
theorem renamed_eq_iff {olds news : List String} (s : Scope) (length : olds.length = news.length)
    (used : olds ⊆ s.used) : (renamed olds news s).1 = olds ↔ olds = news := by
  induction olds generalizing news s with
  | nil =>
    rw [List.eq_nil_of_length_eq_zero length.symm]
    exact ⟨fun _ => rfl, fun _ => rfl⟩
  | cons old olds ih =>
    cases news with
    | nil => cases length
    | cons new news =>
      obtain ⟨here, used⟩ := List.cons_subset.mp used
      rw [renamed]
      by_cases same : old = new
      · subst same
        simp only [if_true, List.cons.injEq, true_and]
        exact ih s (Nat.succ.inj length) used
      · simp only [if_neg same, List.cons.injEq]
        refine iff_of_false ?_ fun h => same h.1
        rintro ⟨fresh, -⟩
        exact s.fresh_not_mem new (fresh ▸ here)

end IR.Function

namespace Lowering
open IR

/-- A prototype gives other names to the parameters of a declared function that has not
been printed yet. -/
def Renames (m : Module) (p : Prototype) : Prop :=
  ∃ f, m.function? p.name = some f ∧ f.blocks = [] ∧ f.arity = p.params.length ∧
    f.printed = none ∧ f.params ≠ p.params

section
variable {moduleName : String} {P : Program} {g : Generator} {p : Prototype}

theorem length_shownParams_rename (f : Function) (names : List String) :
    (f.rename names).shownParams.length = f.shownParams.length := by
  cases printed : f.printed with
  | some ps => simp [Function.shownParams, Function.rename, printed]
  | none => simp [Function.shownParams, Function.rename, printed, Function.renamed_length]

/-- A function that goes on from the heading of a prototype is shown with the parameters
of the function declared before only if the prototype does not rename them. -/
theorem shownParams_iff {m : Module} {f F : Function} (found : m.function? p.name = some f)
    (named : f.Named) (declared : f.blocks = []) (arity : f.arity = p.params.length)
    (on : Continues (heading m p) F) : F.shownParams = f.shownParams ↔ ¬Renames m p := by
  have head : heading m p = f.rename p.params := by rw [heading, found, Option.getD_some]
  rw [on.shownParams, head]
  have only {k : Function} (hk : m.function? p.name = some k) : k = f := by
    rw [found, Option.some.injEq] at hk
    exact hk.symm
  cases printed : f.printed with
  | some names =>
    refine iff_of_true ?_ ?_
    · simp [Function.shownParams, Function.rename, printed]
    · rintro ⟨k, hk, -, -, none, -⟩
      rw [only hk, printed] at none
      cases none
  | none =>
    have shown : (f.rename p.params).shownParams = f.shownParams ↔ f.params = p.params := by
      simp only [Function.shownParams, Function.rename, printed, Option.getD_none]
      exact Function.renamed_eq_iff f.scope arity named.params_used
    rw [shown]
    constructor
    · rintro same ⟨k, hk, -, -, -, differ⟩
      exact differ (only hk ▸ same)
    · intro kept
      by_cases same : f.params = p.params
      · exact same
      · exact absurd ⟨f, found, declared, arity, printed, same⟩ kept

/-- The text of a module tells whether a function that has been taken back was renamed. -/
theorem text_taken_back_iff {m : Module} {f F : Function} (orderly : Orderly m)
    (found : m.function? p.name = some f) (admits : Admits m p) (on : Continues (heading m p) F)
    (name : F.name = p.name) (empty : F.blocks = []) :
    (m.set F).text = m.text ↔ ¬Renames m p := by
  obtain ⟨declared, arity⟩ := admits f found
  obtain ⟨mem, same⟩ := orderly.registry.function?_eq_some_iff.mp found
  have shown := shownParams_iff found (orderly.named f mem) declared arity on
  have length : F.shownParams.length = f.shownParams.length := by
    rw [on.shownParams, heading, found, Option.getD_some, length_shownParams_rename]
  have texts := text_declaration_iff (name.trans same.symm) length declared empty
  have found' : m.function? F.name = some f := name ▸ found
  rw [← shown, ← texts]
  exact Module.text_set_iff orderly.registry found'

/-- **What a refused definition leaves behind** are the names that it gives to the
parameters of a function declared before, and nothing else. -/
theorem Reaches.refused_text_iff (h : Reaches moduleName P g) (signature : Expr.IsSignature p)
    {body : Expr} (term : body.IsTerm) (l : Option Location)
    (refused : ∀ v, (g.generate (.function p body l)).1 ≠ .ok v) :
    (g.generate (.function p body l)).1 = .error .refused ∧
      (g.generate (.function p body l)).2.module.names = g.module.names ∧
      (∀ name, name ≠ p.name →
        (g.generate (.function p body l)).2.function? name = g.function? name) ∧
      ((g.generate (.function p body l)).2.module.text = g.module.text ↔ ¬Renames g.module p) := by
  obtain ⟨idle, settled, -⟩ := h.settled
  have head := isHeading_of_isSignature signature
  have spec := define_spec idle settled.toOrderly head term l
  rw [ground_of_ne signature.name.ne_anonymous, ← lower_function] at spec
  rcases spec with
    ⟨-, F, -, -, -, run⟩ | ⟨admits, F, fault, on, empty, run⟩ | ⟨blocked, fault, run⟩
  · exact absurd (congrArg Prod.fst (generate_of_ok run)) (refused _)
  · rw [generate_of_error run]
    have name : F.name = p.name :=
      on.name.trans (heading_spec head admits settled.registry settled.named settled.spelled).1
    cases found : g.module.function? p.name with
    | none =>
      refine ⟨rfl, rfl, fun _ _ => rfl, iff_of_true rfl ?_⟩
      rintro ⟨f, hf, -⟩
      rw [found] at hf
      cases hf
    | some f =>
      rw [Option.isSome_some, if_pos rfl]
      refine ⟨rfl, ?_, fun n ne => ?_, ?_⟩
      · show (g.module.set F).names = _
        rw [Module.set, name, found, Option.isSome_some, if_pos rfl, Module.names_put]
      · exact Module.function?_set_of_ne (name ▸ ne)
      · exact text_taken_back_iff settled.toOrderly found admits on name empty
  · rw [generate_of_error run]
    refine ⟨rfl, rfl, fun _ _ => rfl, iff_of_true rfl ?_⟩
    rintro ⟨f, found, declared, arity, -⟩
    refine blocked fun k hk => ?_
    rw [found, Option.some.injEq] at hk
    exact hk ▸ ⟨declared, arity⟩

/-- After `extern f(a)`, the refused `def f(b) c` leaves `b` behind. -/
theorem refused_text_of_extern :
    ((Generator.ofName "kaleidoscope").generateAll
        [.prototype ⟨"f", ["a"], none⟩, .function ⟨"f", ["b"], none⟩ (.var "c" none) none]).module.text ≠
      ((Generator.ofName "kaleidoscope").generateAll [.prototype ⟨"f", ["a"], none⟩]).module.text := by
  have reached : Reaches "kaleidoscope" _ _ :=
    .generate .start (.declaration (p := ⟨"f", ["a"], none⟩) (by decide +kernel))
  have term : (Expr.var "c" none).IsTerm := show IsIdentifier "c" by decide +kernel
  obtain ⟨-, -, -, text⟩ :=
    reached.refused_text_iff (p := ⟨"f", ["b"], none⟩) (by decide +kernel) term none
      fun v hv => by cases hv
  exact fun same => text.mp same ⟨_, rfl, rfl, rfl, rfl, by decide⟩

end

end Lowering

end Reckoner
