import Reckoner.Proofs.Expr.Language
import Reckoner.Proofs.Session

/-! The moves of a session.

In each round a session passes a separator, carries out a statement or gives one up. Which of
these it does depends on its feed and its operators alone (`move?`), and no move changes the
operators. So the moves of a whole session are known before it starts (`moves`): its
constructs and the faults of its parses can be read off them (`carried_eq`,
`parseFaults_loop`), whatever the constructs come to. -/
namespace Reckoner.Session
open Reckoner.Expr

/-- What a session does in one round. -/
inductive Move where
  | separator
  | statement (e : Expr)
  | refusal (fault : Expr.Fault)

namespace Move

def statement? : Move → Option Expr
  | statement e => some e
  | _ => none

def fault? : Move → Option Expr.Fault
  | refusal x => some x
  | _ => none

/-- The move with all places changed. -/
def relocate (φ : Option Location → Option Location) : Move → Move
  | separator => separator
  | statement e => statement (e.relocate φ)
  | refusal x => refusal (x.relocate φ)

theorem relocate_id (m : Move) : m.relocate id = m := by
  cases m with
  | separator => rfl
  | statement e => rw [relocate, Expr.relocate_id]
  | refusal x => rw [relocate, Fault.relocate_id]

section
variable {ms ns : List Move}
  (same : ms.map (relocate fun _ => none) = ns.map (relocate fun _ => none))
include same

theorem statements_eq :
    (ms.filterMap statement?).map Expr.unplaced = (ns.filterMap statement?).map Expr.unplaced := by
  have statements (ms : List Move) : (ms.filterMap statement?).map Expr.unplaced =
      (ms.map (relocate fun _ => none)).filterMap statement? := by
    rw [List.map_filterMap, List.filterMap_map]
    refine congrArg (List.filterMap · ms) (funext fun m => ?_)
    cases m <;> rfl
  rw [statements ms, statements ns, same]

/-- What the faults of moves say does not depend on places. -/
theorem faults_eq :
    (ms.filterMap fault?).map (fun x => (x.code, x.message)) =
      (ns.filterMap fault?).map fun x => (x.code, x.message) := by
  have faults (ms : List Move) : (ms.filterMap fault?).map (fun x => (x.code, x.message)) =
      ((ms.map (relocate fun _ => none)).filterMap fault?).map fun x => (x.code, x.message) := by
    rw [List.filterMap_map, List.map_filterMap, List.map_filterMap]
    refine congrArg (List.filterMap · ms) (funext fun m => ?_)
    cases m with
    | separator => rfl
    | statement e => rfl
    | refusal x =>
      simp only [fault?, relocate, Function.comp_apply, Option.map_some, Fault.message_relocate]
      rfl
  rw [faults ms, faults ns, same]

end

end Move

/-- The next move on a feed, if a session goes on there, and what it leaves of the feed. -/
def move? (ops : Operators) (f : Feed) : Option (Move × Feed) :=
  if f.atEnd then none
  else if symbol? f ";" then
    match f.next with
    | (some _, _) => none
    | (none, g) => some (.separator, g)
  else
    match (Expr.statement ops f).outcome with
    | .found e g => some (.statement e, g)
    | .refused x g =>
      match g.next with
      | (some _, _) => none
      | (none, h) => some (.refusal x, h)
    | .stopped _ _ => none

/-- What a move makes of a session. -/
def make (llvm : Llvm) (s : Session) : Move → Session
  | .separator => s.prompt
  | .statement e => s.perform llvm e
  | .refusal x => s.refuse x

section
variable {llvm : Llvm} {s t : Session} {f g : Feed} {ops : Operators}

theorem round?_eq (llvm : Llvm) (s : Session) (f : Feed) :
    round? llvm s f =
      (move? s.operators f).map fun (m, g) => ((s.make llvm m).report g.faults, g) := by
  unfold round? move?
  split
  · rfl
  · split
    · cases f.next with
      | mk fault g => cases fault <;> rfl
    · cases Expr.statement s.operators f with
      | found => rfl
      | stopped => rfl
      | refused x g =>
        dsimp only [Parse.outcome]
        cases g.next with
        | mk fault h => cases fault <;> rfl

theorem statement?_eq (s : Session) (f : Feed) :
    s.statement? f = (move? s.operators f).bind fun (m, _) => m.statement? := by
  unfold statement? move?
  by_cases ended : f.atEnd = true
  · simp [ended]
  · by_cases separator : symbol? f ";" = true
    · rw [if_pos (by simp [separator]), if_neg ended, if_pos separator]
      cases f.next with
      | mk fault g => cases fault <;> rfl
    · rw [if_neg (by simp [ended, separator]), if_neg ended, if_neg separator]
      cases Expr.statement s.operators f with
      | found => rfl
      | stopped => rfl
      | refused x g =>
        dsimp only [Parse.outcome]
        cases g.next with
        | mk fault h => cases fault <;> rfl

theorem size_of_move? {m : Move} (h : move? ops f = some (m, g)) : g.size < f.size := by
  have round := round?_eq .standard { ofOptions {} with operators := ops } f
  rw [h] at round
  exact size_of_round? round

/-- The moves of a session on a feed, one after the other. -/
def moves (ops : Operators) (f : Feed) : List Move :=
  match h : move? ops f with
  | none => []
  | some (m, g) =>
    have := size_of_move? h
    m :: moves ops g
termination_by f.size
decreasing_by exact this

theorem moves_of_none (h : move? ops f = none) : moves ops f = [] := by
  rw [moves]
  split
  · rfl
  · rename_i other
    cases h.symm.trans other

theorem moves_of_some {m : Move} (h : move? ops f = some (m, g)) :
    moves ops f = m :: moves ops g := by
  conv => lhs; rw [moves]
  split
  · rename_i other
    cases h.symm.trans other
  · rename_i other
    cases h.symm.trans other
    rfl

/-- The statements that a session carries out from a round on, in order. -/
def carried (llvm : Llvm) (s : Session) (f : Feed) : List Expr :=
  match h : round? llvm s f with
  | none => []
  | some (t, g) =>
    have := size_of_round? h
    (s.statement? f).toList ++ carried llvm t g
termination_by f.size
decreasing_by exact this

/-- The constructs that a whole session hands on to be lowered. -/
def constructs (options : Options) (llvm : Llvm) (f : Feed) : List Expr :=
  match f.next with
  | (some _, _) => []
  | (none, g) => carried llvm (ofOptions options).prompt g

/-! ### What moves leave alone -/

/-- A session that has gone on from another with its options and operators, the same faults of
parses and as many faults of numerals shown, and perhaps more results. -/
structure Keeps (s t : Session) : Prop where
  options : t.options = s.options
  operators : t.operators = s.operators
  parseFaults : t.parseFaults = s.parseFaults
  shown : t.shown = s.shown
  results : s.results.toList <+: t.results.toList

namespace Keeps

theorem of_eq (options : t.options = s.options) (operators : t.operators = s.operators)
    (parseFaults : t.parseFaults = s.parseFaults) (shown : t.shown = s.shown)
    (results : t.results = s.results) : Keeps s t :=
  ⟨options, operators, parseFaults, shown, results ▸ List.prefix_rfl⟩

theorem trans {u : Session} (first : Keeps s t) (second : Keeps t u) : Keeps s u :=
  ⟨second.options.trans first.options, second.operators.trans first.operators,
    second.parseFaults.trans first.parseFaults, second.shown.trans first.shown,
    first.results.trans second.results⟩

theorem prompt (s : Session) : Keeps s s.prompt := by
  unfold Session.prompt
  split <;> exact of_eq rfl rfl rfl rfl rfl

theorem showParse (s : Session) (what : String) (e : Expr) : Keeps s (s.showParse what e) := by
  unfold Session.showParse
  split <;> exact of_eq rfl rfl rfl rfl rfl

theorem lower (s : Session) (e : Expr) : Keeps s (s.lower e).2 :=
  of_eq rfl rfl rfl rfl rfl

theorem showIR (s : Session) (what name : String) : Keeps s (s.showIR what name) := by
  unfold Session.showIR
  split
  · split <;> exact of_eq rfl rfl rfl rfl rfl
  · exact of_eq rfl rfl rfl rfl rfl

theorem evaluate (s : Session) (llvm : Llvm) : Keeps s (s.evaluate llvm) := by
  unfold Session.evaluate
  dsimp only
  cases Evaluation.run llvm s.started s.options.level s.generator.printed.module anonymousName with
  | error fault => exact of_eq rfl rfl rfl rfl rfl
  | ok result =>
    dsimp only [write, emit]
    cases result.output.isEmpty with
    | true => exact ⟨rfl, rfl, rfl, rfl, by simp⟩
    | false => exact ⟨rfl, rfl, rfl, rfl, by simp⟩

theorem extend (s : Session) (parsed lowered name : String) (e : Expr) :
    Keeps s (s.extend parsed lowered name e) := by
  have first := (showParse s parsed e).trans (lower _ e)
  rcases extend_eq_or s parsed lowered name e with same | same
  · exact same ▸ first
  · exact same ▸ first.trans (showIR _ lowered name)

theorem perform (s : Session) (llvm : Llvm) (e : Expr) : Keeps s (s.perform llvm e) := by
  unfold Session.perform
  split
  · exact extend s _ _ _ _
  · rename_i p body l
    split
    · have first := (showParse s "Parsed a top-level expression" body).trans
        (lower _ (.function p body l))
      split
      · rename_i run
        rwa [run] at first
      · rename_i run
        rw [run] at first
        exact (first.trans (showIR _ _ _)).trans (evaluate _ llvm)
    · exact extend s _ _ _ _
  · exact of_eq rfl rfl rfl rfl rfl

end Keeps

theorem options_make (llvm : Llvm) (s : Session) (m : Move) :
    (s.make llvm m).options = s.options := by
  cases m with
  | separator => exact (Keeps.prompt s).options
  | statement e => exact (Keeps.perform s llvm e).options
  | refusal x => rfl

theorem operators_make (llvm : Llvm) (s : Session) (m : Move) :
    (s.make llvm m).operators = s.operators := by
  cases m with
  | separator => exact (Keeps.prompt s).operators
  | statement e => exact (Keeps.perform s llvm e).operators
  | refusal x => rfl

theorem parseFaults_make (llvm : Llvm) (s : Session) (m : Move) :
    (s.make llvm m).parseFaults.toList = s.parseFaults.toList ++ m.fault?.toList := by
  cases m with
  | separator => simp [make, (Keeps.prompt s).parseFaults, Move.fault?]
  | statement e => simp [make, (Keeps.perform s llvm e).parseFaults, Move.fault?]
  | refusal x => exact Array.toList_push

theorem shown_make (llvm : Llvm) (s : Session) (m : Move) : (s.make llvm m).shown = s.shown := by
  cases m with
  | separator => exact (Keeps.prompt s).shown
  | statement e => exact (Keeps.perform s llvm e).shown
  | refusal x => rfl

theorem results_make (llvm : Llvm) (s : Session) (m : Move) :
    s.results.toList <+: (s.make llvm m).results.toList := by
  cases m with
  | separator => exact (Keeps.prompt s).results
  | statement e => exact (Keeps.perform s llvm e).results
  | refusal x => exact List.prefix_rfl

/-! ### Moves on feeds that go together -/

/-- Sessions on feeds that move on together make the same moves, up to places. -/
theorem move?_alike {φ : Option Location → Option Location} {R T : Feed → Feed → Prop}
    (lock : Lockstep φ ops R) (related : R f g) (more : f.atEnd = false)
    (behind : ∀ {f g}, R f g → T f g)
    (step : ∀ {f g}, R f g → ∃ f' g', f.next = (none, f') ∧ g.next = (none, g') ∧ T f' g') :
    ∃ m m' f' g', move? ops f = some (m, f') ∧ move? ops g = some (m', g') ∧
      m.relocate φ = m'.relocate φ ∧ T f' g' := by
  have more' : g.atEnd = false := (lock.any_eq related fun _ => rfl).symm.trans more
  unfold move?
  rw [more, more', ← lock.symbol?_eq related]
  simp only [Bool.false_eq_true, if_false]
  split
  · obtain ⟨f', g', next, next', related⟩ := step related
    exact ⟨.separator, .separator, f', g', by rw [next], by rw [next'], rfl, related⟩
  · have alike := statement_alike lock related
    generalize (Expr.statement ops f).outcome = x at alike
    generalize (Expr.statement ops g).outcome = y at alike
    cases alike with
    | found same related =>
      exact ⟨_, _, _, _, rfl, rfl, congrArg Move.statement same, behind related⟩
    | refused same related =>
      obtain ⟨f', g', next, next', related⟩ := step related
      simp only [next, next']
      exact ⟨_, _, f', g', rfl, rfl, congrArg Move.refusal same, related⟩
    | stopped broken => exact broken.elim

/-- On a stream of tokens a session goes on to the end. -/
theorem exists_move? (ops : Operators) (stream : f.IsStream) (more : f.atEnd = false) :
    ∃ m g, move? ops f = some (m, g) ∧ g.IsStream := by
  obtain ⟨m, m', g, g', move, -, -, -, stream⟩ :=
    move?_alike (T := fun f g => f = g ∧ f.IsStream) (lockstep_eq : Lockstep id ops _) ⟨rfl, stream⟩
      more (fun h => h) fun {f _} h => by
        obtain ⟨k, next, stream⟩ := h.2.next
        exact ⟨k, k, next, h.1 ▸ next, rfl, stream⟩
  exact ⟨m, g, move, stream⟩

theorem found_of_move? {e : Expr} (h : move? ops f = some (.statement e, g)) :
    (Expr.statement ops f).outcome = .found e g := by
  unfold move? at h
  split at h
  · cases h
  · split at h
    · split at h <;> cases h
    · split at h
      · rename_i found
        cases h
        exact found
      · split at h <;> cases h
      · cases h

/-- A statement that a move carries out is one. -/
theorem isStatement_of_move? {m : Move} (spelled : f.Spelled) (h : move? ops f = some (m, g)) :
    ∀ e, m = .statement e → e.IsStatement := by
  rintro e rfl
  have gives := Expr.statement_gives ops f spelled
  have given := found_of_move? h
  cases parsed : Expr.statement ops f with
  | found e' g' _ =>
    rw [parsed] at gives given
    cases given
    exact gives.1
  | refused _ _ _ =>
    rw [parsed] at given
    cases given
  | stopped _ _ =>
    rw [parsed] at given
    cases given

theorem move?_of_atEnd (h : f.atEnd = true) : move? ops f = none := by
  rw [move?, if_pos h]

theorem loop_of_atEnd (h : f.atEnd = true) (llvm : Llvm) (s : Session) :
    loop llvm s f = { session := s, faults := f.faults } := by
  rw [loop_eq, if_pos h]

theorem loop_of_move? {m : Move} (h : move? s.operators f = some (m, g)) :
    loop llvm s f = loop llvm ((s.make llvm m).report g.faults) g := by
  refine loop_of_round? ?_
  rw [round?_eq, h]
  rfl

/-- The session behind a move, in front of the next one. -/
theorem operators_report_make (llvm : Llvm) (s : Session) (m : Move) (faults : Array Token.Fault) :
    ((s.make llvm m).report faults).operators = s.operators :=
  operators_make llvm s m

/-- **The constructs of a session are those of its moves.** -/
theorem carried_eq (llvm : Llvm) (s : Session) (f : Feed) :
    carried llvm s f = (moves s.operators f).filterMap Move.statement? := by
  fun_induction carried llvm s f with
  | case1 s f none =>
    rw [round?_eq, Option.map_eq_none_iff] at none
    rw [moves_of_none none]
    rfl
  | case2 s f t g round _ ih =>
    rw [round?_eq] at round
    obtain ⟨⟨m, h⟩, move, same⟩ := Option.map_eq_some_iff.mp round
    cases same
    rw [ih, statement?_eq, move, moves_of_some move, operators_report_make, List.filterMap_cons]
    cases m <;> rfl

/-- What holds of a session at its end, and of each move in front of it, holds of its loop. -/
theorem loop_induction {P : Session → Feed → Session → Prop}
    (last : ∀ s f, f.atEnd = true → P s f s)
    (next : ∀ s f m g t, move? s.operators f = some (m, g) →
      P ((s.make llvm m).report g.faults) g t → P s f t)
    (s : Session) {f : Feed} (stream : f.IsStream) : P s f (loop llvm s f).session := by
  induction f using Feed.size_induction generalizing s with
  | smaller f ih =>
    cases ended : f.atEnd with
    | true =>
      rw [loop_of_atEnd ended]
      exact last s f ended
    | false =>
      obtain ⟨m, g, move, stream⟩ := exists_move? s.operators stream ended
      rw [loop_of_move? move]
      exact next s f m g _ move (ih g (size_of_move? move) _ stream)

/-- **The faults of the parses of a session are those of its moves**, behind those that it had. -/
theorem parseFaults_loop (llvm : Llvm) (s : Session) (stream : f.IsStream) :
    (loop llvm s f).session.parseFaults.toList =
      s.parseFaults.toList ++ (moves s.operators f).filterMap Move.fault? := by
  refine loop_induction (P := fun s f t => t.parseFaults.toList =
    s.parseFaults.toList ++ (moves s.operators f).filterMap Move.fault?) ?_ ?_ s stream
  · intro s f ended
    rw [moves_of_none (move?_of_atEnd ended), List.filterMap_nil, List.append_nil]
  · intro s f m g t move rest
    have here : ((s.make llvm m).report g.faults).parseFaults.toList =
        s.parseFaults.toList ++ m.fault?.toList := parseFaults_make llvm s m
    rw [rest, operators_report_make, moves_of_some move, here, List.append_assoc,
      List.filterMap_cons]
    cases m <;> rfl

/-- A session keeps the results that it has. -/
theorem results_loop (llvm : Llvm) (s : Session) (stream : f.IsStream) :
    s.results.toList <+: (loop llvm s f).session.results.toList := by
  refine loop_induction (P := fun s _ t => s.results.toList <+: t.results.toList) ?_ ?_ s stream
  · exact fun _ _ _ => List.prefix_rfl
  · exact fun s _ m _ _ _ rest => (results_make llvm s m).trans rest

/-! ### Whole sessions -/

theorem operators_start (options : Options) : (ofOptions options).prompt.operators = .standard :=
  (Keeps.prompt (ofOptions options)).operators

theorem constructs_of_next (options : Options) (h : f.next = (none, g)) :
    constructs options llvm f = (moves .standard g).filterMap Move.statement? := by
  rw [constructs, h]
  dsimp only
  rw [carried_eq, operators_start]

theorem results_run (options : Options) (h : f.next = (none, g)) :
    (run options llvm f).session.results =
      (loop llvm (ofOptions options).prompt g).session.results := by
  unfold run
  rw [h]
  dsimp only
  split <;> rfl

theorem parseFaults_run (options : Options) (h : f.next = (none, g)) (stream : f.IsStream) :
    (run options llvm f).session.parseFaults.toList = (moves .standard g).filterMap Move.fault? := by
  have same : (run options llvm f).session.parseFaults =
      (loop llvm (ofOptions options).prompt g).session.parseFaults := by
    unfold run
    rw [h]
    dsimp only
    split <;> rfl
  rw [same, parseFaults_loop llvm _ (stream.behind h), operators_start,
    (Keeps.prompt (ofOptions options)).parseFaults]
  rfl

end

end Reckoner.Session
