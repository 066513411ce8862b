import Reckoner.Proofs.Expr.Onward
import Reckoner.Proofs.Session.Registry

/-! What a session tells of what went wrong.

Each part of a session records its own faults: the feed those of malformed numerals, the
parser and the lowering theirs, and the loop the one that ends it; besides, an evaluation
can fail. What a session writes beside its output and the text of host functions tells
these, each one once, and those of one part in the order in which it has recorded them
(`Tells`).

Faults of the parser and of the lowering are told as they are recorded, those of numerals
at the end of a round (`after_told`). So a session that comes to the end of its input has
told them all, and one that a fault of the source breaks off keeps back the numerals of its
last round (`last_tells`). -/
namespace Reckoner.Session
open Lowering

/-- Events beside the output and the text of host functions. -/
def Event.isReport (e : Event) : Bool :=
  !e.isOutput && !e.isHost

/-- What the parts of a session have recorded, each part in its order. -/
structure Records where
  numerals : List Token.Fault := []
  parses : List Expr.Fault := []
  lowerings : List Lowering.Fault := []
  fatal : Option Token.Fault := none
  failures : List Evaluation.Fault := []

/-- Events that tell what has been recorded, nothing twice and each part in its order. -/
inductive Tells : List Event → Records → Prop where
  | nothing : Tells [] {}
  | numeral {t r} (x : Token.Fault) : Tells t r →
    Tells (t ++ [.diagnostic x.diagnostic]) { r with numerals := r.numerals ++ [x] }
  | parse {t r} (x : Expr.Fault) : Tells t r →
    Tells (t ++ [.diagnostic x.diagnostic]) { r with parses := r.parses ++ [x] }
  | lowering {t r} (x : Lowering.Fault) : Tells t r →
    Tells (t ++ [.diagnostic x.diagnostic]) { r with lowerings := r.lowerings ++ [x] }
  | fatal {t r} (x : Token.Fault) : r.fatal = none → Tells t r →
    Tells (t ++ [.diagnostic x.diagnostic]) { r with fatal := some x }
  | failure {t r} (x : Evaluation.Fault) : Tells t r →
    Tells (t ++ [.failure x]) { r with failures := r.failures ++ [x] }

namespace Tells
variable {t : List Event} {r : Records}

theorem numerals (h : Tells t r) (xs : List Token.Fault) :
    Tells (t ++ xs.map fun x => .diagnostic x.diagnostic)
      { r with numerals := r.numerals ++ xs } := by
  induction xs generalizing t r with
  | nil => simpa using h
  | cons x xs ih => simpa using ih (h.numeral x)

theorem lowerings (h : Tells t r) (xs : List Lowering.Fault) :
    Tells (t ++ xs.map fun x => .diagnostic x.diagnostic)
      { r with lowerings := r.lowerings ++ xs } := by
  induction xs generalizing t r with
  | nil => simpa using h
  | cons x xs ih => simpa using ih (h.lowering x)

theorem failures (h : Tells t r) (xs : List Evaluation.Fault) :
    Tells (t ++ xs.map .failure) { r with failures := r.failures ++ xs } := by
  induction xs generalizing t r with
  | nil => simpa using h
  | cons x xs ih => simpa using ih (h.failure x)

end Tells

/-- The faults that the evaluations of a session fail with from a round on, in order. -/
def failed (llvm : Llvm) (s : Session) (f : Feed) : List Evaluation.Fault :=
  match h : round? llvm s f with
  | none => []
  | some (t, g) =>
    have := size_of_round? h
    ((s.nextRun? f).bind (s.failure? llvm)).toList ++ failed llvm t g
termination_by f.size
decreasing_by exact this

/-- The faults that the evaluations of a whole session fail with. -/
def failures (options : Options) (llvm : Llvm) (f : Feed) : List Evaluation.Fault :=
  match f.next with
  | (some _, _) => []
  | (none, g) => failed llvm (ofOptions options).prompt g

/-- A session that goes on has told what its parts have recorded, with these numerals and
failed evaluations. -/
def Told (s : Session) (numerals : List Token.Fault) (failures : List Evaluation.Fault) : Prop :=
  Tells (s.eventsOf Event.isReport)
    { numerals, parses := s.parseFaults.toList, lowerings := s.generator.faults.toList, failures }

/-- What is recorded at the end of a session, of the numerals those that have been shown. -/
def Ended.records (e : Ended) (failures : List Evaluation.Fault) : Records where
  numerals := e.faults.toList.take e.session.shown
  parses := e.session.parseFaults.toList
  lowerings := e.session.generator.faults.toList
  fatal := e.fatal
  failures

section
variable {options : Options} {llvm : Llvm} {n : Nat} {s t : Session} {f g : Feed} {P : Program}
variable {moduleName : String} {e : Expr} {xs : List Token.Fault} {ys : List Evaluation.Fault}

theorem failed_of_none (h : round? llvm s f = none) : failed llvm s f = [] := by
  rw [failed]
  split
  · rfl
  · rename_i other
    cases h.symm.trans other

theorem failed_of_some (h : round? llvm s f = some (t, g)) :
    failed llvm s f = ((s.nextRun? f).bind (s.failure? llvm)).toList ++ failed llvm t g := by
  conv => lhs; rw [failed]
  split
  · rename_i other
    cases h.symm.trans other
  · rename_i other
    cases h.symm.trans other
    rfl

/-! ### What a statement records -/

/-- Lowering adds its faults to those that there are. -/
theorem faults_generate (h : Reaches moduleName P s.generator) (he : e.IsStatement) :
    (s.generator.generate e).2.faults.toList =
      s.generator.faults.toList ++ newFaults s.generator e := by
  obtain ⟨idle, settled, -⟩ := h.settled
  obtain ⟨fault, -, -, faults⟩ := settled.effect idle he
  rw [newFaults, faults, ← Array.length_toList, List.drop_left]

theorem faults_showIR (s : Session) (what name : String) :
    (s.showIR what name).generator.faults = s.generator.faults := by
  unfold showIR
  split
  · split <;> rfl
  · rfl

theorem faults_evaluate (s : Session) (llvm : Llvm) :
    (s.evaluate llvm).generator.faults = s.generator.faults := by
  rw [generator_evaluate]
  unfold Generator.remove
  split <;> rfl

theorem faults_extend (s : Session) (parsed lowered name : String) (e : Expr) :
    (s.extend parsed lowered name e).generator.faults = (s.generator.generate e).2.faults := by
  rcases extend_eq_or s parsed lowered name e with same | same
  · rw [same, generator_lower, generator_showParse]
  · rw [same, faults_showIR, generator_lower, generator_showParse]

/-- Of what a statement does, only its lowering records faults of lowering. -/
theorem faults_perform (he : e.IsStatement) (s : Session) (llvm : Llvm) :
    (s.perform llvm e).generator.faults = (s.generator.generate e).2.faults := by
  have done := performs he s llvm
  generalize s.perform llvm e = u at done ⊢
  cases done with
  | extend _ _ _ _ _ => exact faults_extend s _ _ _ _
  | refuse _ _ => rw [generator_lowered]
  | evaluate _ shown => rw [faults_evaluate, shown, faults_showIR, generator_lowered]

/-! ### What the parts of a round tell -/

theorem filter_diagnostics {α : Type} (d : α → Diagnostic) (xs : List α) :
    (xs.map fun x => Event.diagnostic (d x)).filter Event.isReport =
      xs.map fun x => Event.diagnostic (d x) := by
  refine List.filter_eq_self.mpr fun event mem => ?_
  obtain ⟨x, -, rfl⟩ := List.mem_map.mp mem
  rfl

theorem filter_outcomeEvents (s : Session) (llvm : Llvm) (m : IR.Module) :
    (s.outcomeEvents llvm m).filter Event.isReport = (s.failure? llvm m).toList.map .failure := by
  unfold outcomeEvents failure?
  cases s.outcome llvm m with
  | error fault => rfl
  | ok result =>
    dsimp only
    split <;> rfl

namespace Told

theorem prompt (h : Told s xs ys) : Told s.prompt xs ys := by
  unfold Session.prompt
  split
  · unfold Told
    rw [eventsOf_emit, List.filter_cons_of_neg (by decide), List.filter_nil, List.append_nil]
    exact h
  · exact h

theorem refuse (h : Told s xs ys) (x : Expr.Fault) : Told (s.refuse x) xs ys := by
  have parses : (s.refuse x).parseFaults.toList = s.parseFaults.toList ++ [x] := Array.toList_push
  unfold Told
  rw [eventsOf_refuse, parses]
  exact Tells.parse x h

theorem report (h : Told s xs ys) (faults : Array Token.Fault) :
    Told (s.report faults) (xs ++ faults.toList.drop s.shown) ys := by
  unfold Told
  rw [eventsOf_report, filter_diagnostics]
  exact Tells.numerals h _

theorem perform (h : Told s xs ys) (reaches : Reaches moduleName P s.generator)
    (he : e.IsStatement) (llvm : Llvm) :
    Told (s.perform llvm e) xs (ys ++ ((s.runOf? e).bind (s.failure? llvm)).toList) := by
  have evaluated : ((s.runOf? e).elim [] (s.outcomeEvents llvm)).filter Event.isReport =
      ((s.runOf? e).bind (s.failure? llvm)).toList.map .failure := by
    cases s.runOf? e with
    | none => rfl
    | some m => exact filter_outcomeEvents s llvm m
  unfold Told
  rw [eventsOf_perform (fun _ => rfl) he, filter_diagnostics, evaluated,
    (Keeps.perform s llvm e).parseFaults, faults_perform he, faults_generate reaches he]
  exact (Tells.lowerings h _).failures _

theorem make (h : Told s xs ys) (reaches : Reaches moduleName P s.generator) {m : Move}
    (he : ∀ e, m = .statement e → e.IsStatement) (llvm : Llvm) :
    Told (s.make llvm m) xs
      (ys ++ ((m.statement?.bind s.runOf?).bind (s.failure? llvm)).toList) := by
  cases m with
  | separator => exact (List.append_nil ys).symm ▸ h.prompt
  | statement e => exact h.perform reaches (he e rfl) llvm
  | refusal x => exact (List.append_nil ys).symm ▸ h.refuse x

end Told

/-! ### Rounds and the end -/

theorem onward_of_move? {ops : Operators} {m : Move} (h : move? ops f = some (m, g)) :
    f.Onward g := by
  unfold move? at h
  split at h
  · cases h
  · split at h
    · split at h
      · cases h
      · rename_i next
        cases h
        exact Feed.onward_of_next next
    · have onward := Expr.statement_onward ops f
      split at h
      · rename_i found
        rw [found] at onward
        cases h
        cases onward with
        | found onward => exact onward
      · rename_i refused
        rw [refused] at onward
        split at h
        · cases h
        · rename_i next
          cases h
          cases onward with
          | refused onward => exact onward.trans (Feed.onward_of_next next)
      · cases h

theorem take_of_beginning {α : Type} {xs ys : List α} {n : Nat} (more : xs <+: ys)
    (le : n ≤ xs.length) : xs.take n = ys.take n := by
  obtain ⟨zs, rfl⟩ := more
  exact (List.take_append_of_le_length le).symm

/-- A round tells all numerals that it has read, and the failure of what it evaluates. -/
theorem Told.after_round (h : Told s (f.faults.toList.take s.shown) ys) (le : s.shown ≤ f.faults.size)
    (spelled : f.Spelled) (reaches : Reaches moduleName P s.generator)
    (round : round? llvm s f = some (t, g)) :
    t.shown = g.faults.size ∧
      Told t g.faults.toList (ys ++ ((s.nextRun? f).bind (s.failure? llvm)).toList) := by
  rw [round?_eq] at round
  obtain ⟨⟨m, k⟩, move, same⟩ := Option.map_eq_some_iff.mp round
  cases same
  have statement : s.statement? f = m.statement? := by rw [statement?_eq, move, Option.bind_some]
  have told := (h.make reaches (isStatement_of_move? spelled move) llvm).report g.faults
  rw [take_of_beginning (onward_of_move? move).faults le, shown_make,
    List.take_append_drop] at told
  rw [nextRun?_eq, statement]
  exact ⟨rfl, told⟩

theorem shown_start (options : Options) : (ofOptions options).prompt.shown = 0 :=
  (Keeps.prompt (ofOptions options)).shown

theorem told_start (options : Options) : Told (ofOptions options).prompt [] [] :=
  Told.prompt (s := ofOptions options) .nothing

/-- After any number of rounds a session has told all but the numerals read since. -/
theorem after_told {file : String} {source : Source}
    (h : after options llvm (.ofSource file source) n = some (s, g)) :
    s.shown = (if n = 0 then 0 else g.faults.size) ∧
      ∃ ys, ys ++ failed llvm s g = failures options llvm (.ofSource file source) ∧
        Told s (g.faults.toList.take s.shown) ys := by
  induction n generalizing s g with
  | zero =>
    unfold after at h
    split at h
    · cases h
    · rename_i next
      cases h
      have whole : failures options llvm (.ofSource file source) =
          failed llvm (ofOptions options).prompt g := by
        rw [failures, next]
      rw [shown_start]
      exact ⟨rfl, [], whole.symm, told_start options⟩
  | succ n ih =>
    obtain ⟨⟨r, k⟩, before, round⟩ := Option.bind_eq_some_iff.mp h
    obtain ⟨shown, ys, rest, told⟩ := ih before
    obtain ⟨spelled, reaches⟩ := after_reaches (Feed.spelled_ofSource file source) before
    have le : r.shown ≤ k.faults.size := by
      rw [shown]
      split
      · exact Nat.zero_le _
      · exact Nat.le_refl _
    obtain ⟨shown', told'⟩ := told.after_round le spelled reaches round
    refine ⟨shown', ys ++ ((r.nextRun? k).bind (r.failure? llvm)).toList, ?_, ?_⟩
    · rw [← rest, failed_of_some round, ← List.append_assoc]
    · rw [shown', ← Array.length_toList, List.take_length]
      exact told'

/-- What has been told before the end, and the fault that ends a session. -/
theorem Ends.tells {e : Ended} (ends : Ends s f e) (h : Told s (f.faults.toList.take s.shown) ys)
    (le : s.shown ≤ f.faults.size) :
    e.session.shown = s.shown ∧ Tells (e.transcript.filter Event.isReport) (e.records ys) := by
  cases ends with
  | finished _ => exact ⟨rfl, h⟩
  | @broken t g fault before more =>
    have shown : t.shown = s.shown := by
      rcases before with rfl | rfl | ⟨x, rfl⟩
      · rfl
      · exact (Keeps.prompt s).shown
      · rfl
    have told : Told t (g.faults.toList.take t.shown) ys := by
      rw [shown, ← take_of_beginning more le]
      rcases before with rfl | rfl | ⟨x, rfl⟩
      · exact h
      · exact h.prompt
      · exact h.refuse x
    have halted : (t.halt fault g).transcript.filter Event.isReport =
        t.eventsOf Event.isReport ++ [.diagnostic fault.diagnostic] := eventsOf_emit _ _ _
    rw [halted]
    exact ⟨shown, Tells.fatal fault rfl told⟩

/-! ### Whole sessions -/

/-- What the rounds of a session have told once there are no more. -/
theorem last_tells {file : String} {source : Source} {k : Feed}
    (h : after options llvm (.ofSource file source) n = some (s, g))
    (last : round? llvm s g = none)
    (next : (Feed.ofSource file source).next = (none, k)) :
    let e := loop llvm (ofOptions options).prompt k
    Tells (e.transcript.filter Event.isReport)
        (e.records (failures options llvm (.ofSource file source))) ∧
      e.session.shown = (if n = 0 then 0 else g.faults.size) ∧
      (e.fatal = none → e.session.shown = e.faults.size) := by
  obtain ⟨k', next', same⟩ := loop_of_after h
  cases next.symm.trans next'
  obtain ⟨shown, ys, rest, told⟩ := after_told h
  rw [failed_of_none last, List.append_nil] at rest
  have le : s.shown ≤ g.faults.size := by
    rw [shown]
    split <;> simp
  have ends := loop_ends last
  obtain ⟨shown', tells⟩ := ends.tells told le
  dsimp only
  rw [same, shown', ← rest]
  refine ⟨tells, shown, fun calm => ?_⟩
  obtain ⟨ended, faults⟩ := ends.atEnd calm
  rw [shown, faults]
  split
  · -- The only token is the end of the input, which is no numeral.
    rename_i none
    subst none
    rw [after, next] at h
    cases h
    have none : g.faults.toList = [] := Feed.faults_of_atEnd next ended
    rw [← Array.length_toList, none]
    rfl
  · rfl

/-- **A session tells what goes wrong once, and in order.** The events beside the output
and the text of host functions tell what parser and lowering have recorded, the fault that
ends the session, the failed evaluations, and the faults of malformed numerals but for
those that were read in a round which the end has broken off. Nothing is kept back by a
session that comes to the end of its input, or that does not even start. -/
theorem run_tells (options : Options) (llvm : Llvm) (file : String) (source : Source) :
    let e := run options llvm (.ofSource file source)
    Tells (e.transcript.filter Event.isReport)
        (e.records (failures options llvm (.ofSource file source))) ∧
      (e.fatal = none ∨ after options llvm (.ofSource file source) 0 = none →
        e.session.shown = e.faults.size) ∧
      ∀ n s g, after options llvm (.ofSource file source) n = some (s, g) →
        round? llvm s g = none → e.session.shown = if n = 0 then 0 else g.faults.size := by
  refine run_cases options llvm (.ofSource file source) ?_ ?_ ?_
  · rintro e ⟨tells, rest⟩
    refine ⟨?_, rest⟩
    have same : (e.session.write "").eventsOf Event.isReport = e.transcript.filter Event.isReport :=
      eventsOf_write (fun _ => rfl) e.session ""
    show Tells ((e.session.write "").eventsOf Event.isReport) _
    rw [same]
    exact tells
  · intro fault g next
    have ends : Ends (ofOptions options).prompt (.ofSource file source)
        ((ofOptions options).prompt.halt fault g) :=
      .broken fault (.inl rfl) (Feed.faults_of_fault next ▸ List.prefix_rfl)
    have none : failures options llvm (.ofSource file source) = [] := by
      rw [failures, next]
    have told : Told (ofOptions options).prompt
        ((Feed.ofSource file source).faults.toList.take (ofOptions options).prompt.shown) [] := by
      rw [shown_start]
      exact told_start options
    obtain ⟨-, tells⟩ := ends.tells told (shown_start options ▸ Nat.zero_le _)
    have empty : g.faults = #[] := Feed.faults_of_fault next
    rw [none]
    refine ⟨tells, fun _ => ?_, fun n s k h _ => ?_⟩
    · show (ofOptions options).prompt.shown = g.faults.size
      rw [shown_start, empty]
      rfl
    · obtain ⟨_, next', -⟩ := loop_of_after h
      cases next.symm.trans next'
  · intro g next
    have first : after options llvm (.ofSource file source) 0 =
        some ((ofOptions options).prompt, g) := by
      rw [after, next]
    obtain ⟨n, s, k, h, last, -⟩ := loop_generator first
    obtain ⟨tells, -, calm⟩ := last_tells h last next
    refine ⟨tells, fun whole => ?_, fun n s k h last => (last_tells h last next).2.1⟩
    rcases whole with none | none
    · exact calm none
    · cases none.symm.trans first

end

/-- A malformed numeral in front of a character that no source may hold: the numeral is
recorded and refused by the parser, but its own fault is not told. -/
theorem run_tells_of_foreign :
    let e := run {} .standard (.ofSource "<stdin>" (.ofString ". é"))
    (e.faults.size = 1 ∧ e.session.parseFaults.size = 1 ∧ e.fatal.isSome = true) ∧
      Tells (e.transcript.filter Event.isReport)
        { parses := e.session.parseFaults.toList, fatal := e.fatal } := by
  have tells := (run_tells {} .standard "<stdin>" (.ofString ". é")).1
  have shown : (run {} .standard (.ofSource "<stdin>" (.ofString ". é"))).session.shown = 0 := by
    decide +kernel
  have lowerings :
      (run {} .standard (.ofSource "<stdin>" (.ofString ". é"))).session.generator.faults.toList =
        [] := List.eq_nil_of_length_eq_zero (by decide +kernel)
  have none : failures {} .standard (.ofSource "<stdin>" (.ofString ". é")) = [] := by decide +kernel
  rw [Ended.records, shown, lowerings, none] at tells
  exact ⟨by decide +kernel, tells⟩

end Reckoner.Session
