import Reckoner.Proofs.Evaluation
import Reckoner.Proofs.Session.Events
import Reckoner.Proofs.Session.Registry

/-! Bare expressions leave no trace in a module.

The function of a bare expression is there only while it is evaluated, so between two
rounds no function has its name (`function?_anonymous`) and none refers to it. Whatever
becomes of a bare expression, the module lasts as it was (`lasting_round?`). If its
evaluation is refused, nothing has been run at all (`Evaluation.run_of_fault`). -/
namespace Reckoner

namespace Session
open IR Lowering

/-- A bare expression starts at the current token. -/
def opensExpression (f : Feed) : Bool :=
  !f.atEnd && !Expr.symbol? f ";" && !Expr.at? f (.keyword .define) &&
    !Expr.at? f (.keyword .declare)

section
variable {options : Options} {llvm : Llvm} {n : Nat} {s t : Session} {f g : Feed} {P : Program}
variable {moduleName : String} {e : Expr} {m : Module}

theorem anonymous_of_opensExpression (opens : opensExpression f = true)
    (found : s.statement? f = some e) : ∃ body, e = .anonymous body := by
  simp only [opensExpression, Bool.and_eq_true, Bool.not_eq_true'] at opens
  obtain ⟨⟨⟨more, separator⟩, definition⟩, declaration⟩ := opens
  unfold statement? at found
  rw [more, separator, Bool.or_false, if_neg (by decide)] at found
  unfold Expr.statement at found
  rw [definition, declaration] at found
  simp only [Bool.false_eq_true, if_false] at found
  unfold Expr.bareExpression at found
  split at found
  · rename_i given
    split at given
    · cases given
    · cases given
    · cases given
      cases found
      exact ⟨_, rfl⟩
  · cases found

/-! ### No function of a bare expression -/

theorem without_ordinary (P : Program) :
    ∀ d ∈ P.without anonymousName, d.name ≠ anonymousName :=
  fun d hd => by simpa using (List.mem_filter.mp hd).2

theorem after_ordinary (k : Generator) (other : e.isAnonymous? = some false)
    (ordinary : ∀ d ∈ P, d.name ≠ anonymousName) : ∀ d ∈ P.after k e, d.name ≠ anonymousName := by
  cases e with
  | function p body l =>
    have named : p.isAnonymous = false := Option.some.inj other
    simp only [Program.after, named, Bool.false_eq_true, if_false]
    split
    · refine List.forall_mem_append.mpr ⟨ordinary, List.forall_mem_singleton.mpr ?_⟩
      exact of_decide_eq_false named
    · exact ordinary
  | _ => exact ordinary

/-- A bare expression is not among the definitions once it has been carried out. -/
theorem taken_ordinary (he : e.IsStatement) (ordinary : ∀ d ∈ P, d.name ≠ anonymousName) :
    ∀ d ∈ s.taken P e, d.name ≠ anonymousName := by
  have done := performs he s .standard
  generalize s.perform .standard e = u at done
  cases done with
  | extend _ _ _ begun other =>
    rw [taken, begun, Option.isSome_none, if_neg (by decide)]
    exact after_ordinary s.generator other ordinary
  | refuse begun refused =>
    rw [taken, begun, Option.isSome_none, if_neg (by decide)]
    unfold Expr.anonymous at refused ⊢
    simp only [Program.after, refused]
    exact without_ordinary P
  | evaluate begun _ =>
    rw [taken, begun, Option.isSome_some, if_pos rfl]
    exact without_ordinary _

/-- The definitions that a session has taken are those of its definitions. -/
theorem definitions_ordinary (options : Options) (llvm : Llvm) (spelled : f.Spelled) (n : Nat) :
    ∀ d ∈ definitions options llvm f n, d.name ≠ anonymousName := by
  induction n with
  | zero => exact List.forall_mem_nil _
  | succ n ih =>
    rw [definitions]
    cases here : after options llvm f n with
    | none => exact ih
    | some x =>
      obtain ⟨s, g⟩ := x
      rw [Option.bind_some]
      dsimp only
      cases found : s.statement? g with
      | none => exact ih
      | some e =>
        have he := isStatement_of_statement? (after_reaches spelled here).1 found
        exact taken_ordinary he ih

theorem function?_of_ordinary (settled : Settled P m) (ordinary : ∀ d ∈ P, d.name ≠ anonymousName) :
    m.function? anonymousName = none := by
  refine settled.registry.function?_eq_none_iff.mpr fun F hF name => ?_
  obtain ⟨d, hd, same⟩ := settled.only F hF (settled.bare F hF name)
  exact ordinary d hd (same.trans name)

/-- Between two rounds no function has the name of a bare expression. -/
theorem function?_anonymous (spelled : f.Spelled) (h : after options llvm f n = some (s, g)) :
    s.generator.module.function? anonymousName = none := by
  obtain ⟨-, settled, -⟩ := (after_reaches spelled h).2.settled
  exact function?_of_ordinary settled (definitions_ordinary options llvm spelled n)

/-! ### What a bare expression leaves -/

/-- A round with a bare expression changes nothing that lasts. -/
theorem lasting_round? (spelled : f.Spelled) (reaches : Reaches moduleName P s.generator)
    (opens : opensExpression f = true) (round : round? llvm s f = some (t, g)) :
    t.generator.module.lasting = s.generator.module.lasting := by
  rw [generator_round? round]
  cases found : s.statement? f with
  | none => rfl
  | some e =>
    obtain ⟨idle, settled, -⟩ := reaches.settled
    have he := isStatement_of_statement? spelled found
    obtain ⟨body, rfl⟩ := anonymous_of_opensExpression opens found
    rw [Option.map_some, Option.getD_some, lasting_perform reaches he]
    obtain ⟨fault, effect, -, -⟩ := settled.effect idle he
    exact effect.lasting settled.registry

theorem results_showParse (s : Session) (what : String) (e : Expr) :
    (s.showParse what e).results = s.results := by
  unfold showParse
  split <;> rfl

theorem results_showIR (s : Session) (what name : String) :
    (s.showIR what name).results = s.results := by
  unfold showIR
  split
  · split <;> rfl
  · rfl

/-- A statement whose evaluation fails gives no result. -/
theorem results_perform (he : e.IsStatement) (runs : s.runOf? e = some m) {fault : Evaluation.Fault}
    (failed : s.outcome llvm m = .error fault) : (s.perform llvm e).results = s.results := by
  have done := performs he s llvm
  generalize s.perform llvm e = u at done ⊢
  unfold runOf? at runs
  cases done with
  | extend _ _ _ begun _ =>
    rw [begun] at runs
    cases runs
  | refuse begun _ =>
    rw [begun] at runs
    cases runs
  | @evaluate body t begun shown =>
    have before : t.results = s.results := by
      rw [shown, results_showIR]
      exact results_showParse s _ _
    rw [begun] at runs
    cases runs
    obtain ⟨options, started⟩ := settings_of_begun? begun
    unfold outcome at failed
    unfold evaluate
    dsimp only
    rw [options, started, failed]
    exact before

/-- Diagnostics are no texts of host functions. -/
theorem diagnostics_silent {α : Type} (diagnostic : α → Diagnostic) (l : List α) :
    (l.map fun x => Event.diagnostic (diagnostic x)).filter Event.isHost = [] := by
  rw [List.filter_map]
  exact congrArg (List.map _) (List.filter_eq_nil_iff.mpr fun _ _ other => by cases other)

/-- A statement whose evaluation fails has host functions write nothing. -/
theorem host_perform (he : e.IsStatement) (runs : s.runOf? e = some m) {fault : Evaluation.Fault}
    (failed : s.outcome llvm m = .error fault) :
    (s.perform llvm e).eventsOf Event.isHost = s.eventsOf Event.isHost := by
  rw [eventsOf_perform (fun _ => rfl) he, diagnostics_silent, runs, Option.elim_some,
    outcomeEvents, failed]
  simp [Event.isHost]

/-- **A bare expression leaves the module as it is**, whatever becomes of it: the text is
the same, no function has the name of a bare expression, and none refers to it. If its
evaluation fails, then nothing has been run: it fails whatever calls give, host functions
have written nothing, and there is no new result. -/
theorem bare_leaves_module {file : String} {source : Source}
    (h : after options llvm (.ofSource file source) n = some (s, f)) (opens : opensExpression f = true)
    (round : round? llvm s f = some (t, g)) :
    t.generator.module.text = s.generator.module.text ∧
      anonymousName ∉ t.generator.module.names ∧
      (∀ F ∈ t.generator.module.functions, ¬F.RefersTo anonymousName) ∧
      ∀ m fault, s.nextRun? f = some m →
        Evaluation.run llvm s.started s.options.level m anonymousName = .error fault →
          (∀ call, Evaluation.run { llvm with call } s.started s.options.level m anonymousName =
            .error fault) ∧
          t.results = s.results ∧
            Transcript.host t.events.toList = Transcript.host s.events.toList := by
  have start := Feed.spelled_ofSource file source
  obtain ⟨spelled, reaches⟩ := after_reaches start h
  have later : after options llvm (.ofSource file source) (n + 1) = some (t, g) := by
    rw [after, h]
    exact round
  obtain ⟨-, settled, -⟩ := (after_reaches start later).2.settled
  have absent := function?_anonymous start later
  refine ⟨?_, ?_, settled.valid.not_refersTo absent, ?_⟩
  · rw [← settled.registry.text_lasting absent, lasting_round? spelled reaches opens round]
    exact reaches.settled.settled.registry.text_lasting (function?_anonymous start h)
  · rw [settled.registry.names_eq, List.mem_map]
    rintro ⟨F, hF, name⟩
    exact settled.registry.function?_eq_none_iff.mp absent F hF name
  · intro m fault next failed
    refine ⟨Evaluation.run_of_fault failed, ?_⟩
    rw [nextRun?_eq] at next
    obtain ⟨e, found, runs⟩ := Option.bind_eq_some_iff.mp next
    have he := isStatement_of_statement? spelled found
    have quiet : t.eventsOf Event.isHost = s.eventsOf Event.isHost := by
      rw [eq_of_statement? found round, eventsOf_report, diagnostics_silent, List.append_nil,
        host_perform he runs failed]
    refine ⟨?_, congrArg (fun l : List Event => String.join (l.map Event.text)) quiet⟩
    rw [eq_of_statement? found round]
    exact results_perform he runs failed

/-- The call of a function that has no body is refused, and leaves no trace. -/
theorem bare_leaves_module_of_extern : ∃ s f t g m,
    after {} .standard (.ofSource "<stdin>" (.ofString "extern f(a);f(1);")) 2 = some (s, f) ∧
      round? .standard s f = some (t, g) ∧ t.generator.module.text = s.generator.module.text ∧
      t.results = s.results ∧ s.nextRun? f = some m ∧
      ∀ call, Evaluation.run { Llvm.standard with call } s.started s.options.level m anonymousName =
        .error (.unresolved ["f"]) := by
  have runs : ((after {} .standard (.ofSource "<stdin>" (.ofString "extern f(a);f(1);")) 2).any fun x =>
      opensExpression x.2 && (round? .standard x.1 x.2).isSome && (x.1.nextRun? x.2).any fun m =>
        x.1.failure? .standard m = some (.unresolved ["f"])) = true := by decide +kernel
  obtain ⟨⟨s, f⟩, here, runs⟩ := (Option.any_eq_true _ _).mp runs
  simp only [Bool.and_eq_true] at runs
  obtain ⟨⟨opens, goes⟩, runs⟩ := runs
  obtain ⟨⟨t, g⟩, round⟩ := Option.isSome_iff_exists.mp goes
  obtain ⟨m, next, failed⟩ := (Option.any_eq_true _ _).mp runs
  obtain ⟨text, -, -, fails⟩ := bare_leaves_module here opens round
  have failed := failure?_eq_some_iff.mp (of_decide_eq_true failed)
  obtain ⟨always, results, -⟩ := fails m _ next failed
  exact ⟨s, f, t, g, m, here, round, text, results, next, always⟩

end

end Session

end Reckoner
