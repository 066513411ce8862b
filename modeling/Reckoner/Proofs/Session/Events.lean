import Reckoner.Proofs.Session.Moves

/-! What each part of a session writes.

Lines and prompts are of no account here: `eventsOf` keeps the events of one kind, such as
the texts of host functions, and each function of a session adds the ones that its lemma
tells. A statement adds the diagnostics of the faults that its lowering records and, if
it is evaluated, what the evaluation comes to (`eventsOf_perform`). -/
namespace Reckoner.Session
open Lowering

/-- The events of a session that satisfy `p`. -/
def eventsOf (p : Event → Bool) (s : Session) : List Event :=
  s.events.toList.filter p

/-- The faults that the lowering of a construct records. -/
def newFaults (k : Generator) (e : Expr) : List Lowering.Fault :=
  (k.generate e).2.faults.toList.drop k.faults.size

/-- The module that is run for a statement, if one is. -/
def runOf? (s : Session) (e : Expr) : Option IR.Module :=
  (s.begun? e).map fun t => t.generator.printed.module

/-- What the run of a module comes to in a session. -/
def outcome (s : Session) (llvm : Llvm) (m : IR.Module) : Except Evaluation.Fault Machine.Result :=
  Evaluation.run llvm s.started s.options.level m anonymousName

/-- The fault that an evaluation fails with, if it does. -/
def failure? (s : Session) (llvm : Llvm) (m : IR.Module) : Option Evaluation.Fault :=
  match s.outcome llvm m with
  | .error fault => some fault
  | .ok _ => none

/-- What an evaluation writes, but for the line with its value. -/
def outcomeEvents (s : Session) (llvm : Llvm) (m : IR.Module) : List Event :=
  match s.outcome llvm m with
  | .error fault => [.failure fault]
  | .ok result => if result.output.isEmpty then [] else [.host result.output]

section
variable {p : Event → Bool} {s t : Session} {llvm : Llvm} {e : Expr} {f : Feed}

theorem failure?_eq_some_iff {m : IR.Module} {fault : Evaluation.Fault} :
    s.failure? llvm m = some fault ↔ s.outcome llvm m = .error fault := by
  unfold failure?
  cases s.outcome llvm m with
  | error x => rw [Option.some.injEq, Except.error.injEq]
  | ok x => simp

theorem nextRun?_eq (s : Session) (f : Feed) : s.nextRun? f = (s.statement? f).bind s.runOf? := by
  unfold nextRun? runOf?
  cases s.statement? f <;> rfl

/-- A round with a statement carries it out. -/
theorem eq_of_statement? {g : Feed} (found : s.statement? f = some e)
    (round : round? llvm s f = some (t, g)) : t = (s.perform llvm e).report g.faults := by
  rw [round?_eq] at round
  obtain ⟨⟨m, k⟩, move, same⟩ := Option.map_eq_some_iff.mp round
  cases same
  rw [statement?_eq, move] at found
  cases m with
  | statement e =>
    cases found
    rfl
  | _ => cases found

theorem eventsOf_emit (p : Event → Bool) (s : Session) (e : Event) :
    (s.emit e).eventsOf p = s.eventsOf p ++ [e].filter p := by
  rw [eventsOf, emit, Array.toList_push, List.filter_append]
  rfl

theorem eventsOf_refuse (p : Event → Bool) (s : Session) (fault : Expr.Fault) :
    (s.refuse fault).eventsOf p = s.eventsOf p ++ [.diagnostic fault.diagnostic].filter p :=
  eventsOf_emit p { s with parseFaults := s.parseFaults.push fault } _

theorem eventsOf_report (p : Event → Bool) (s : Session) (faults : Array Token.Fault) :
    (s.report faults).eventsOf p =
      s.eventsOf p ++
        ((faults.toList.drop s.shown).map fun f => Event.diagnostic f.diagnostic).filter p := by
  simp [eventsOf, report]

theorem eventsOf_lower (p : Event → Bool) (s : Session) (e : Expr) :
    (s.lower e).2.eventsOf p =
      s.eventsOf p ++
        ((newFaults s.generator e).map fun f => Event.diagnostic f.diagnostic).filter p := by
  simp [eventsOf, lower, newFaults]

variable (lines : ∀ text, p (.line text) = false)
include lines

theorem eventsOf_write (s : Session) (text : String) : (s.write text).eventsOf p = s.eventsOf p := by
  rw [write, eventsOf_emit, List.filter_cons_of_neg (by rw [lines]; decide)]
  exact List.append_nil _

theorem eventsOf_showParse (s : Session) (what : String) (e : Expr) :
    (s.showParse what e).eventsOf p = s.eventsOf p := by
  unfold showParse
  split
  · exact eventsOf_write lines s _
  · rfl

theorem eventsOf_showIR (s : Session) (what name : String) :
    (s.showIR what name).eventsOf p = s.eventsOf p := by
  unfold showIR
  split
  · split
    · exact eventsOf_write lines { s with generator := _ } _
    · rfl
  · rfl

theorem eventsOf_evaluate (s : Session) (llvm : Llvm) :
    (s.evaluate llvm).eventsOf p =
      s.eventsOf p ++ (s.outcomeEvents llvm s.generator.printed.module).filter p := by
  unfold evaluate outcomeEvents outcome
  dsimp only
  cases Evaluation.run llvm s.started s.options.level s.generator.printed.module anonymousName with
  | error fault => exact eventsOf_emit p { s with generator := _ } _
  | ok result =>
    dsimp only
    rw [eventsOf_write lines]
    split
    · exact (List.append_nil _).symm
    · exact eventsOf_emit p { s with generator := _ } _

/-- The events of a construct that is parsed, lowered and shown. -/
theorem eventsOf_lower_showParse (s : Session) (what : String) (shown e : Expr) :
    ((s.showParse what shown).lower e).2.eventsOf p =
      s.eventsOf p ++
        ((newFaults s.generator e).map fun f => Event.diagnostic f.diagnostic).filter p := by
  rw [eventsOf_lower, eventsOf_showParse lines, generator_showParse]

theorem eventsOf_extend (s : Session) (parsed lowered name : String) (e : Expr) :
    (s.extend parsed lowered name e).eventsOf p =
      s.eventsOf p ++
        ((newFaults s.generator e).map fun f => Event.diagnostic f.diagnostic).filter p := by
  rw [← eventsOf_lower_showParse lines s parsed e e]
  rcases extend_eq_or s parsed lowered name e with same | same
  · rw [same]
  · rw [same, eventsOf_showIR lines]

/-- **What a statement writes**: the diagnostics of its faults, and what its evaluation
comes to. -/
theorem eventsOf_perform (he : e.IsStatement) (s : Session) (llvm : Llvm) :
    (s.perform llvm e).eventsOf p =
      s.eventsOf p ++
        ((newFaults s.generator e).map fun f => Event.diagnostic f.diagnostic).filter p ++
        ((s.runOf? e).elim [] (s.outcomeEvents llvm)).filter p := by
  have lowered (body : Expr) := eventsOf_lower_showParse lines s
    "Parsed a top-level expression" body (.anonymous body)
  have done := performs he s llvm
  generalize s.perform llvm e = u at done ⊢
  unfold runOf?
  cases done with
  | extend parsed shown name begun _ =>
    rw [eventsOf_extend lines, begun]
    exact (List.append_nil _).symm
  | @refuse body _ begun _ =>
    rw [Session.lowered, lowered, begun]
    exact (List.append_nil _).symm
  | @evaluate body t begun shown =>
    obtain ⟨options, started⟩ := settings_of_begun? begun
    have same : t.outcomeEvents llvm = s.outcomeEvents llvm := by
      unfold outcomeEvents outcome
      rw [options, started]
    rw [eventsOf_evaluate lines, same, begun, shown, eventsOf_showIR lines, Session.lowered, lowered]
    rfl

end

end Reckoner.Session
