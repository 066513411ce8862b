import Reckoner.Proofs.Lowering.Correctness
import Reckoner.Proofs.Session.BareExpressions
import Reckoner.Proofs.Session.Runs

/-! The values of a session.

A bare expression is lowered, and the code comes to the value that the expression has in the
program of the definitions taken before it, and to nothing if the expression has no value
(`result?_iff_evaluates`). This is so in whatever process the code runs. If the process has
values of its own for functions of the module, then they take the place of those that the
program gives; if it has none, the value is that of the program alone. -/
namespace Reckoner.Session
open IR Lowering

section
variable {options : Options} {llvm : Llvm} {n : Nat} {s t : Session} {g : Feed} {body : Expr}

/-- The function of a bare expression does not matter to what other functions mean. -/
theorem evaluates_iff {proc : Process} {P : Program} (terms : ∀ d ∈ P, d.body.IsTerm)
    (term : body.IsTerm) (x : Float) (text : String) :
    body.Evaluates proc (P.without anonymousName ++ [⟨anonymousName, [], body⟩]) [] x text ↔
      body.Evaluates proc P [] x text := by
  have alike : Expr.CallAlike IsIdentifier proc proc
      (P.without anonymousName ++ [⟨anonymousName, [], body⟩]) P :=
    ⟨fun _ _ => rfl,
      fun n identifier =>
        P.definition?_anonymous ⟨anonymousName, [], body⟩ rfl identifier.ne_anonymous,
      fun _ _ _ => rfl⟩
  have bodies : ∀ d ∈ P, d.body.Calls IsIdentifier := fun d hd => (terms d hd).calls
  constructor
  · refine fun h => h.congr alike ?_ term.calls
    refine List.forall_mem_append.mpr ⟨fun d hd => ?_, List.forall_mem_singleton.mpr term.calls⟩
    exact bodies d (List.mem_filter.mp hd).1
  · exact fun h => h.congr alike.symm bodies term.calls

/-- The code of a bare expression that has been accepted comes to what it evaluates to. -/
theorem result?_iff_evaluates {moduleName : String} {P : Program}
    (reaches : Reaches moduleName P s.generator) (term : body.IsTerm)
    (accepted : s.begun? (.anonymous body) = some t) (proc : Process) (x : Float) (text : String) :
    t.generator.printed.module.result? proc anonymousName = some ⟨x, text⟩ ↔
      body.Evaluates proc P [] x text := by
  have reached := reaches_begun? reaches (.bare term) accepted
  rw [after_begun? accepted] at reached
  obtain ⟨-, settled, -⟩ := reached.print.settled
  have mem := List.mem_append_right (P.without anonymousName)
    (List.mem_singleton.mpr (@rfl _ (⟨anonymousName, [], body⟩ : Definition)))
  exact (settled.result?_iff mem rfl x text).trans (evaluates_iff reaches.isTerm term x text)

/-- A bare expression and the definitions taken call functions of the module only. -/
theorem calls_of_accepted {moduleName : String} {P : Program}
    (reaches : Reaches moduleName P s.generator) (ordinary : ∀ d ∈ P, d.name ≠ anonymousName)
    (term : body.IsTerm) (accepted : s.begun? (.anonymous body) = some t) :
    let known := fun n => (t.generator.printed.module.function? n).isSome = true
    (∀ d ∈ P, d.body.Calls known) ∧ body.Calls known := by
  have reached := reaches_begun? reaches (.bare term) accepted
  rw [after_begun? accepted] at reached
  obtain ⟨-, settled, -⟩ := reached.print.settled
  refine ⟨fun d hd => ?_, ?_⟩
  · exact settled.calls (List.mem_append_left _ (List.mem_filter.mpr
      ⟨hd, decide_eq_true (ordinary d hd)⟩))
  · exact settled.calls (List.mem_append_right _ (List.mem_singleton.mpr
      (@rfl _ (⟨anonymousName, [], body⟩ : Definition))))

/-- **A session gives the values that its expressions have.** In any process, the code of a
bare expression comes to a value and a text if and only if the expression evaluates to them,
in the program of the definitions that the session has taken. Unless the process has values
of its own for functions of the module, they are what the program alone gives. Where code is
executed as a machine does it in some process, a run of the session that gives a result
gives this one. -/
theorem after_evaluates_iff (file : String) (source : Source)
    (h : after options llvm (.ofSource file source) n = some (s, g))
    (next : s.statement? g = some (.anonymous body)) (accepted : s.begun? (.anonymous body) = some t) :
    let m := t.generator.printed.module
    let P := definitions options llvm (.ofSource file source) n
    (∀ proc x text, m.result? proc anonymousName = some ⟨x, text⟩ ↔ body.Evaluates proc P [] x text) ∧
      (∀ proc, proc.IsPlainFor P (fun name => (m.function? name).isSome = true) → ∀ x text,
        m.result? proc anonymousName = some ⟨x, text⟩ ↔ body.Evaluates .plain P [] x text) ∧
      ∀ proc, llvm.Executes s.options.level proc m anonymousName → ∀ x text,
        body.Evaluates proc P [] x text → ∀ result,
          Evaluation.run llvm s.started s.options.level m anonymousName = .ok result →
            result = ⟨x, text⟩ := by
  intro m P
  have start := Feed.spelled_ofSource file source
  obtain ⟨spelled, reaches⟩ := after_reaches start h
  have statement := isStatement_of_statement? spelled next
  obtain ⟨other, same, term⟩ := anonymous_of_begun? statement accepted
  obtain rfl : body = other := (Expr.function.inj same).2.1
  have comes := result?_iff_evaluates reaches term accepted
  obtain ⟨bodies, calls⟩ := calls_of_accepted reaches
    (definitions_ordinary options llvm start n) term accepted
  refine ⟨comes, fun proc plain x text => ?_, fun proc executes x text evaluates result ran => ?_⟩
  · exact (comes proc x text).trans (Expr.evaluates_plain_iff plain bodies calls [] x text)
  · exact Evaluation.eq_of_run executes ((comes proc x text).mpr evaluates) ran

/-- A definition and a call of its function. -/
def callOfDefined : Feed :=
  .ofSource "<stdin>" (.ofString "def f(x) x+1; f(2);")

/-- The value of a call behind the definition of its function, as the stand-in computes it. -/
theorem evaluates_of_call : ∃ s g body t,
    after {} .standard callOfDefined 2 = some (s, g) ∧ s.statement? g = some (.anonymous body) ∧
      s.begun? (.anonymous body) = some t ∧
      let m := t.generator.printed.module
      let P := definitions {} .standard callOfDefined 2
      (∀ x text, m.result? .standard anonymousName = some ⟨x, text⟩ ↔
        body.Evaluates .plain P [] x text) ∧
      ∀ x text, body.Evaluates .standard P [] x text → ∀ result,
        Evaluation.run .standard s.started s.options.level m anonymousName = .ok result →
          result = ⟨x, text⟩ := by
  have runs : ((after {} .standard callOfDefined 2).bind fun x => x.1.nextRun? x.2).any (fun m =>
      decide (m.functions.map Function.name = ["f", anonymousName])) = true := by decide +kernel
  obtain ⟨m, next, names⟩ := (Option.any_eq_true _ _).mp runs
  obtain ⟨⟨s, g⟩, here, next⟩ := Option.bind_eq_some_iff.mp next
  obtain ⟨spelled, reaches⟩ := after_reaches (Feed.spelled_ofSource _ _) here
  obtain ⟨Q, other, settled, name, -⟩ := settled_nextRun? spelled reaches next
  have legible := settled.legible (name ▸ by decide +kernel)
  have executes := Llvm.standard_executes settled.valid legible s.options.level anonymousName
  obtain ⟨t, evaluated, rfl⟩ := Option.map_eq_some_iff.mp next
  obtain ⟨e, statement, begun⟩ := Option.bind_eq_some_iff.mp evaluated
  obtain ⟨body, rfl, -⟩ := anonymous_of_begun? (isStatement_of_statement? spelled statement) begun
  obtain ⟨-, plain, run⟩ := after_evaluates_iff "<stdin>" _ here statement begun
  have among (n : String) (known : (t.generator.printed.module.function? n).isSome = true) :
      n = "f" ∨ n = anonymousName := by
    obtain ⟨F, found⟩ := Option.isSome_iff_exists.mp known
    obtain ⟨mem, rfl⟩ := settled.registry.function?_eq_some_iff.mp found
    have listed := List.mem_map_of_mem (f := Function.name) mem
    rw [of_decide_eq_true names] at listed
    simpa using listed
  refine ⟨s, g, body, t, here, statement, begun, plain .standard ⟨fun n known xs => ?_,
    fun n known _ _ xs => ?_, fun _ => rfl⟩, run .standard executes⟩
  · rcases among n known with rfl | rfl <;> rfl
  · rcases among n known with rfl | rfl <;> rfl

end

end Reckoner.Session
