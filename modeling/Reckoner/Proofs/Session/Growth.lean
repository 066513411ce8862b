import Reckoner.Proofs.Expr.Refusal
import Reckoner.Proofs.Session.Notices
import Reckoner.Proofs.Session.Registry

/-! What a session does not lose.

A session only ever adds to its results, to its events and to the faults of its parses, the
status of a name moves forward, and a function with a body keeps it, unless it is that of a
bare expression (`Retains`). So what a session has after some rounds it has at its end
(`retains_loop`, `retains_run`), however it ends. What a parse adds are the diagnostics that
it makes, each recorded and shown once (`heed_records`). -/
namespace Reckoner.Session
open IR Lowering

/-! ### Rounds as moves -/

section
variable {options : Options} {llvm : Llvm} {n : Nat} {s : Session} {f g k : Feed} {m : Move}

/-- A round is a move. -/
theorem exists_move_of_after {t : Session} (h : after options llvm f (n + 1) = some (t, k)) :
    ∃ s g m, after options llvm f n = some (s, g) ∧ move? s.operators g = some (m, k) ∧
      t = (s.make llvm m).report k.faults := by
  obtain ⟨⟨s, g⟩, before, round⟩ := Option.bind_eq_some_iff.mp h
  dsimp only at round
  rw [round?_eq] at round
  obtain ⟨⟨m, l⟩, move, same⟩ := Option.map_eq_some_iff.mp round
  cases same
  exact ⟨s, g, m, before, move, rfl⟩

theorem after_of_move? (h : after options llvm f n = some (s, g))
    (move : move? s.operators g = some (m, k)) :
    after options llvm f (n + 1) = some ((s.make llvm m).report k.faults, k) := by
  rw [after, h, Option.bind_some]
  dsimp only
  rw [round?_eq, move, Option.map_some]

/-- A session asks for one token after the other. -/
theorem onward_after (h : after options llvm f n = some (s, g)) : f.Onward g := by
  induction n generalizing s g with
  | zero =>
    unfold after at h
    split at h
    · cases h
    · rename_i next
      cases h
      exact Feed.onward_of_next next
  | succ n ih =>
    obtain ⟨r, k, m, before, move, -⟩ := exists_move_of_after h
    exact (ih before).trans (onward_of_move? move)

theorem operators_after (h : after options llvm f n = some (s, g)) : s.operators = .standard := by
  induction n generalizing s g with
  | zero =>
    unfold after at h
    split at h
    · cases h
    · cases h
      exact operators_start options
  | succ n ih =>
    obtain ⟨r, k, m, before, -, rfl⟩ := exists_move_of_after h
    rw [operators_report_make]
    exact ih before

theorem not_operator_after (h : after options llvm f n = some (s, g)) :
    s.operators.lookup ";" = none := by
  rw [operators_after h]
  decide

end

/-! ### What is kept -/

/-- A session that has all that another has, and perhaps more. -/
structure Retains (s t : Session) : Prop where
  results : s.results.toList <+: t.results.toList
  events : s.events.toList <+: t.events.toList
  parseFaults : s.parseFaults.toList <+: t.parseFaults.toList
  status : ∀ name, name ≠ anonymousName →
    (s.generator.module.status name).Leads (t.generator.module.status name)
  bodies : ∀ name, name ≠ anonymousName → ∀ F, s.generator.function? name = some F →
    F.blocks ≠ [] → ∃ G, t.generator.function? name = some G ∧ G.fixNames = F.fixNames

section
variable {llvm : Llvm} {n : Nat} {s t u : Session} {f g : Feed} {P : Program} {moduleName : String}
variable {e : Expr}

namespace Retains

theorem refl (s : Session) : Retains s s where
  results := List.prefix_rfl
  events := List.prefix_rfl
  parseFaults := List.prefix_rfl
  status _ _ := .refl _
  bodies _ _ F found _ := ⟨F, found, rfl⟩

theorem trans (first : Retains s t) (second : Retains t u) : Retains s u where
  results := first.results.trans second.results
  events := first.events.trans second.events
  parseFaults := first.parseFaults.trans second.parseFaults
  status name ordinary := (first.status name ordinary).trans (second.status name ordinary)
  bodies name ordinary F found written := by
    obtain ⟨G, there, same⟩ := first.bodies name ordinary F found written
    have blocks : G.blocks = F.blocks :=
      show G.fixNames.blocks = F.fixNames.blocks from congrArg Function.blocks same
    obtain ⟨H, there, same'⟩ := second.bodies name ordinary G there (blocks ▸ written)
    exact ⟨H, there, same'.trans same⟩

/-- A session that only writes. -/
theorem of_generator (generator : t.generator = s.generator)
    (results : s.results.toList <+: t.results.toList) (events : s.events.toList <+: t.events.toList)
    (parseFaults : s.parseFaults.toList <+: t.parseFaults.toList) : Retains s t where
  results
  events
  parseFaults
  status _ _ := generator ▸ .refl _
  bodies _ _ F found _ := ⟨F, generator ▸ found, rfl⟩

end Retains

/-! ### Events -/

theorem events_emit (s : Session) (e : Event) : s.events.toList <+: (s.emit e).events.toList := by
  rw [emit, Array.toList_push]
  exact List.prefix_append _ _

theorem events_prompt (s : Session) : s.events.toList <+: s.prompt.events.toList := by
  unfold prompt
  split
  · exact events_emit s .prompt
  · exact List.prefix_rfl

theorem events_report (s : Session) (faults : Array Token.Fault) :
    s.events.toList <+: (s.report faults).events.toList := by
  rw [report, Array.toList_append]
  exact List.prefix_append _ _

theorem events_showParse (s : Session) (what : String) (e : Expr) :
    s.events.toList <+: (s.showParse what e).events.toList := by
  unfold showParse
  split
  · exact events_emit s _
  · exact List.prefix_rfl

theorem events_lower (s : Session) (e : Expr) :
    s.events.toList <+: (s.lower e).2.events.toList := by
  rw [lower, Array.toList_append]
  exact List.prefix_append _ _

theorem events_showIR (s : Session) (what name : String) :
    s.events.toList <+: (s.showIR what name).events.toList := by
  unfold showIR
  split
  · split
    · exact events_emit { s with generator := _ } _
    · exact List.prefix_rfl
  · exact List.prefix_rfl

theorem events_evaluate (s : Session) (llvm : Llvm) :
    s.events.toList <+: (s.evaluate llvm).events.toList := by
  unfold evaluate
  dsimp only
  cases Evaluation.run llvm s.started s.options.level s.generator.printed.module anonymousName with
  | error fault => exact events_emit { s with generator := _ } _
  | ok result =>
    dsimp only
    split
    · exact events_emit { s with generator := _, results := _ } _
    · have first := events_emit { s with generator := (s.generator.printed.remove anonymousName).2 }
        (.host result.output)
      exact first.trans (events_emit { s with generator := _, results := _, events := _ } _)

theorem events_perform (he : e.IsStatement) (s : Session) (llvm : Llvm) :
    s.events.toList <+: (s.perform llvm e).events.toList := by
  have shown (what : String) (x e : Expr) :
      s.events.toList <+: ((s.showParse what x).lower e).2.events.toList :=
    (events_showParse s what x).trans (events_lower _ e)
  have done := performs he s llvm
  generalize s.perform llvm e = u at done ⊢
  cases done with
  | extend parsed lowered name _ _ =>
    rcases extend_eq_or s parsed lowered name e with same | same
    · exact same ▸ shown _ _ _
    · exact same ▸ (shown _ _ _).trans (events_showIR _ _ _)
  | refuse _ _ => exact shown _ _ _
  | evaluate _ same =>
    subst same
    exact ((shown _ _ _).trans (events_showIR _ _ _)).trans (events_evaluate _ llvm)

/-! ### Moves and rounds -/

theorem retains_prompt (s : Session) : Retains s s.prompt :=
  .of_generator (generator_prompt s) (Keeps.prompt s).results (events_prompt s)
    ((Keeps.prompt s).parseFaults ▸ List.prefix_rfl)

theorem retains_report (s : Session) (faults : Array Token.Fault) : Retains s (s.report faults) :=
  .of_generator rfl List.prefix_rfl (events_report s faults) List.prefix_rfl

theorem retains_refuse (s : Session) (x : Expr.Fault) : Retains s (s.refuse x) := by
  refine .of_generator rfl List.prefix_rfl (events_emit { s with parseFaults := _ } _) ?_
  rw [show (s.refuse x).parseFaults = s.parseFaults.push x from rfl, Array.toList_push]
  exact List.prefix_append _ _

theorem retains_halt (s : Session) (fault : Token.Fault) (f : Feed) :
    Retains s (s.halt fault f).session :=
  .of_generator rfl List.prefix_rfl (events_emit s _) List.prefix_rfl

theorem retains_perform (h : Reaches moduleName P s.generator) (he : e.IsStatement) (llvm : Llvm) :
    Retains s (s.perform llvm e) where
  results := (Keeps.perform s llvm e).results
  events := events_perform he s llvm
  parseFaults := (Keeps.perform s llvm e).parseFaults ▸ List.prefix_rfl
  status _ ordinary := (status_perform h he ordinary llvm).leads
  bodies _ ordinary _ found written := written_perform h he ordinary llvm found written

theorem retains_make (h : Reaches moduleName P s.generator) {m : Move}
    (he : ∀ e, m = .statement e → e.IsStatement) (llvm : Llvm) : Retains s (s.make llvm m) := by
  cases m with
  | separator => exact retains_prompt s
  | statement e => exact retains_perform h (he e rfl) llvm
  | refusal x => exact retains_refuse s x

theorem retains_round? (spelled : f.Spelled) (h : Reaches moduleName P s.generator)
    (round : round? llvm s f = some (t, g)) : Retains s t := by
  rw [round?_eq] at round
  obtain ⟨⟨m, k⟩, move, same⟩ := Option.map_eq_some_iff.mp round
  cases same
  exact (retains_make h (isStatement_of_move? spelled move) llvm).trans (retains_report _ _)

theorem retains_ends {e : Ended} (ends : Ends s f e) : Retains s e.session := by
  cases ends with
  | finished _ => exact .refl s
  | broken fault before _ =>
    rcases before with rfl | rfl | ⟨x, rfl⟩
    · exact retains_halt _ fault _
    · exact (retains_prompt s).trans (retains_halt _ fault _)
    · exact (retains_refuse s x).trans (retains_halt _ fault _)

/-- A session that goes on loses nothing, also if a fault of the source ends it. -/
theorem retains_loop (spelled : f.Spelled) (h : Reaches moduleName P s.generator) :
    Retains s (loop llvm s f).session := by
  induction f using Feed.size_induction generalizing s P with
  | smaller f ih =>
    cases round : round? llvm s f with
    | none => exact retains_ends (loop_ends round)
    | some next =>
      obtain ⟨t, g⟩ := next
      obtain ⟨spelled', reaches⟩ := reaches_round? spelled h round
      rw [loop_of_round? round]
      exact (retains_round? spelled h round).trans (ih g (size_of_round? round) spelled' reaches)

/-- The loop of a session is the session but for a last line. -/
theorem retains_run_of_loop {options : Options} (h : after options llvm f n = some (s, g)) :
    Retains (loop llvm s g).session (run options llvm f).session := by
  obtain ⟨k, next, same⟩ := loop_of_after h
  unfold run
  rw [next, ← same]
  dsimp only
  split
  · exact .of_generator rfl List.prefix_rfl (events_emit _ _) List.prefix_rfl
  · exact .refl _

/-- **What a session has after any number of rounds it has at its end.** -/
theorem retains_run {options : Options} (spelled : f.Spelled)
    (h : after options llvm f n = some (s, g)) :
    Retains s (run options llvm f).session := by
  obtain ⟨spelled, reaches⟩ := after_reaches spelled h
  exact (retains_loop spelled reaches).trans (retains_run_of_loop h)

/-! ### What is recorded of a parse -/

/-- What a session makes of a parse, before it goes on. -/
def heed (llvm : Llvm) (s : Session) : Expr.Outcome Expr → Session
  | .found e _ => s.perform llvm e
  | .refused x _ => s.refuse x
  | .stopped _ _ => s

/-- Behind a parse a session goes on with what it has made of it, or ends with that. -/
theorem loop_of_parse (more : f.atEnd = false) (other : Expr.symbol? f ";" = false) :
    let t := s.heed llvm (Expr.statement s.operators f).outcome
    (∃ g, loop llvm s f = loop llvm (t.report g.faults) g) ∨
      (∃ fault g, loop llvm s f = t.halt fault g) ∨
      ∃ faults, loop llvm s f = { session := t, faults } := by
  rw [loop_eq, more, if_neg Bool.false_ne_true, other, if_neg Bool.false_ne_true]
  cases (Expr.statement s.operators f).outcome with
  | found e g => exact .inl ⟨g, rfl⟩
  | refused x g =>
    dsimp only
    split
    · exact .inr (.inl ⟨_, _, rfl⟩)
    · exact .inl ⟨_, rfl⟩
  | stopped why g =>
    cases why with
    | source fault => exact .inr (.inl ⟨fault, g, rfl⟩)
    | noToken wanted => exact .inr (.inr ⟨_, rfl⟩)

/-- **A session records of a parse the diagnostics that the parse makes**, and shows them. It
records nothing else of it, and shows nothing else unless there is a statement to carry out. -/
theorem heed_records (spelled : f.Spelled) (s : Session) (llvm : Llvm) :
    let x := (Expr.statement s.operators f).outcome
    (s.heed llvm x).parseFaults.toList.map Expr.Fault.diagnostic =
        s.parseFaults.toList.map Expr.Fault.diagnostic ++ x.diagnostics ∧
      ∃ later, (s.heed llvm x).events.toList =
          s.events.toList ++ x.diagnostics.map Event.diagnostic ++ later ∧
        (x.value? = none → later = []) := by
  have gives := Expr.statement_gives s.operators f spelled
  cases parsed : Expr.statement s.operators f with
  | found e g _ =>
    rw [parsed] at gives
    obtain ⟨later, shown⟩ := events_perform gives.1 s llvm
    refine ⟨?_, later, ?_, fun none => nomatch none⟩
    · dsimp only [Expr.Parse.outcome, heed, Expr.Outcome.diagnostics]
      rw [(Keeps.perform s llvm e).parseFaults, List.append_nil]
    · dsimp only [Expr.Parse.outcome, heed, Expr.Outcome.diagnostics]
      rw [← shown, List.map_nil, List.append_nil]
  | refused x g _ =>
    refine ⟨?_, [], ?_, fun _ => rfl⟩
    · dsimp only [Expr.Parse.outcome, heed, refuse, emit, Expr.Outcome.diagnostics]
      rw [Array.toList_push, List.map_append, List.map_singleton]
    · dsimp only [Expr.Parse.outcome, heed, refuse, emit, Expr.Outcome.diagnostics]
      rw [Array.toList_push, List.map_singleton, List.append_nil]
  | stopped why g =>
    dsimp only [Expr.Parse.outcome, heed, Expr.Outcome.diagnostics]
    exact ⟨(List.append_nil _).symm, [], by simp, fun _ => rfl⟩

end

end Reckoner.Session
