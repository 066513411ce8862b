import Reckoner.Llvm.Standard
import Reckoner.Proofs.Expr.Onward
import Reckoner.Proofs.Expr.Statement
import Reckoner.Proofs.Lowering.Program
import Reckoner.Session

/-! Sessions as statements.

A session goes on in rounds (`Session.round?`), each of which carries out one
statement, or gives one up, or passes a separator; a whole session does nothing but
rounds (`run_generator`), and ends with its feed or at a fault of the source
(`loop_ends`). A statement is carried out in one of three ways (`performs`): a
definition or declaration is lowered and shown, a bare expression is refused, or it is
evaluated. Whatever a source holds, the generator of a session is one that statements lead
to, with the definitions that it has taken (`after_reaches`). -/
namespace Reckoner.Session
open Lowering

/-- One round of a session, if it goes on. -/
def round? (llvm : Llvm) (s : Session) (f : Feed) : Option (Session × Feed) :=
  if f.atEnd then none
  else if Expr.symbol? f ";" then
    match f.next with
    | (some _, _) => none
    | (none, g) => some (s.prompt.report g.faults, g)
  else
    match Expr.statement s.operators f with
    | .found e g _ => some ((s.perform llvm e).report g.faults, g)
    | .refused fault g _ =>
      match g.next with
      | (some _, _) => none
      | (none, h) => some ((s.refuse fault).report h.faults, h)
    | .stopped _ _ => none

/-- The session on a feed and what is left of the feed, after so many rounds. -/
def after (options : Options) (llvm : Llvm) (f : Feed) : Nat → Option (Session × Feed)
  | 0 =>
    match f.next with
    | (some _, _) => none
    | (none, g) => some ((ofOptions options).prompt, g)
  | n + 1 => (after options llvm f n).bind fun (s, g) => round? llvm s g

/-- A session in which a bare expression is going to be evaluated. -/
def begun? (s : Session) : Expr → Option Session
  | .function p body l =>
    if p.isAnonymous then
      match (s.showParse "Parsed a top-level expression" body).lower (.function p body l) with
      | (none, _) => none
      | (some _, s) => some (s.showIR "Read top-level expression" p.name)
    else none
  | _ => none

/-- The statement that the next round carries out, if it does so. -/
def statement? (s : Session) (f : Feed) : Option Expr :=
  if f.atEnd || Expr.symbol? f ";" then none
  else
    match Expr.statement s.operators f with
    | .found e _ _ => some e
    | _ => none

/-- The module that is run in the next round, if one is. -/
def nextRun? (s : Session) (f : Feed) : Option IR.Module :=
  ((s.statement? f).bind s.begun?).map fun t => t.generator.printed.module

/-- The definitions once a statement has been carried out. A bare expression is gone then. -/
def taken (s : Session) (P : Program) (e : Expr) : Program :=
  if (s.begun? e).isSome then (P.after s.generator e).without anonymousName
  else P.after s.generator e

/-- The definitions that a session has taken after so many rounds. -/
def definitions (options : Options) (llvm : Llvm) (f : Feed) : Nat → Program
  | 0 => []
  | n + 1 =>
    let P := definitions options llvm f n
    ((after options llvm f n).bind fun (s, g) => (s.statement? g).map (s.taken P)).getD P

section
variable {options : Options} {llvm : Llvm} {s t : Session} {f g : Feed}

@[simp]
theorem generator_prompt (s : Session) : s.prompt.generator = s.generator := by
  unfold prompt
  split <;> rfl

/-- What a bare expression is run with is what the session has before it. -/
theorem settings_of_begun? {e : Expr} (h : s.begun? e = some t) :
    t.options = s.options ∧ t.started = s.started := by
  have parse (what : String) (e : Expr) :
      (s.showParse what e).options = s.options ∧ (s.showParse what e).started = s.started := by
    unfold showParse
    split <;> exact ⟨rfl, rfl⟩
  have ir (s : Session) (what name : String) :
      (s.showIR what name).options = s.options ∧ (s.showIR what name).started = s.started := by
    unfold showIR
    split
    · split <;> exact ⟨rfl, rfl⟩
    · exact ⟨rfl, rfl⟩
  unfold begun? at h
  split at h
  · rename_i p body l
    split at h
    · split at h
      · cases h
      · rename_i v u run
        cases h
        have lowered : _ = u := congrArg Prod.snd run
        rw [(ir u _ _).1, (ir u _ _).2, ← lowered]
        exact parse _ body
    · cases h
  · cases h

theorem perform_of_begun? {e : Expr} (h : s.begun? e = some t) :
    s.perform llvm e = t.evaluate llvm := by
  unfold begun? at h
  split at h
  · rename_i p body l
    split at h
    · rename_i anonymous
      simp only [perform, anonymous, if_true]
      cases run : (s.showParse "Parsed a top-level expression" body).lower (.function p body l) with
      | mk value u =>
        rw [run] at h
        cases value with
        | none => cases h
        | some v =>
          cases h
          rfl
    · cases h
  · cases h

/-- The loop in terms of what parses come to. -/
theorem loop_eq (llvm : Llvm) (s : Session) (f : Feed) :
    loop llvm s f =
      if f.atEnd then { session := s, faults := f.faults }
      else if Expr.symbol? f ";" then
        match f.next with
        | (some fault, g) => s.prompt.halt fault g
        | (none, g) => loop llvm (s.prompt.report g.faults) g
      else
        match (Expr.statement s.operators f).outcome with
        | .found e g => loop llvm ((s.perform llvm e).report g.faults) g
        | .refused x g =>
          match g.next with
          | (some fault, h) => (s.refuse x).halt fault h
          | (none, h) => loop llvm ((s.refuse x).report h.faults) h
        | .stopped (.source fault) g => s.halt fault g
        | .stopped (.noToken _) g => { session := s, faults := g.faults } := by
  conv => lhs; rw [loop]
  split
  · rfl
  · dsimp only
    split
    · split
      · rename_i next
        rw [next]
      · rename_i next
        rw [next]
    · cases Expr.statement s.operators f with
      | found => rfl
      | refused x k =>
        dsimp only [Expr.Parse.outcome]
        split
        · rename_i next
          rw [next]
        · rename_i next
          rw [next]
      | stopped why k => cases why <;> rfl

/-- A session that goes on is as after one round. -/
theorem loop_of_round? (h : round? llvm s f = some (t, g)) : loop llvm s f = loop llvm t g := by
  unfold round? at h
  rw [loop_eq]
  split at h
  · cases h
  · rename_i more
    rw [if_neg more]
    split at h
    · rename_i separator
      rw [if_pos separator]
      split at h
      · cases h
      · cases h
        rfl
    · rename_i other
      rw [if_neg other]
      split at h
      · rename_i found
        cases h
        rw [found]
        rfl
      · rename_i refused
        rw [refused]
        split at h
        · cases h
        · rename_i next
          cases h
          simp only [Expr.Parse.outcome, next]
      · cases h

/-- How a session ends that does not go on: it is finished, or a fault of the source
breaks the round off, which has perhaps asked for a statement or refused one. -/
inductive Ends (s : Session) (f : Feed) : Ended → Prop where
  | finished : f.atEnd = true → Ends s f { session := s, faults := f.faults }
  | broken {t : Session} {g : Feed} (fault : Token.Fault) :
    t = s ∨ t = s.prompt ∨ (∃ x, t = s.refuse x) → f.faults.toList <+: g.faults.toList →
    Ends s f (t.halt fault g)

theorem loop_ends (h : round? llvm s f = none) : Ends s f (loop llvm s f) := by
  unfold round? at h
  rw [loop_eq]
  split at h
  · rename_i ended
    rw [if_pos ended]
    exact .finished ended
  · rename_i more
    rw [if_neg more]
    split at h
    · rename_i separator
      rw [if_pos separator]
      split at h
      · rename_i next
        exact .broken _ (.inr (.inl rfl)) (Feed.faults_of_fault next ▸ List.prefix_rfl)
      · cases h
    · rename_i other
      rw [if_neg other]
      have onward := Expr.statement_onward s.operators f
      split at h
      · cases h
      · rename_i x g _ refused
        rw [refused] at onward ⊢
        split at h
        · rename_i next
          cases onward with
          | refused onward =>
            simp only [Expr.Parse.outcome, next]
            exact .broken _ (.inr (.inr ⟨x, rfl⟩)) (Feed.faults_of_fault next ▸ onward.faults)
        · cases h
      · rename_i stopped
        rw [stopped] at onward ⊢
        cases onward with
        | stopped onward next =>
          exact .broken _ (.inl rfl) (Feed.faults_of_fault next ▸ onward.faults)

theorem Ends.atEnd {e : Ended} (ends : Ends s f e) (calm : e.fatal = none) :
    f.atEnd = true ∧ e.faults = f.faults := by
  cases ends with
  | finished ended => exact ⟨ended, rfl⟩
  | broken _ _ _ => cases calm

/-- A session that does not go on keeps its generator. -/
theorem generator_of_round? (h : round? llvm s f = none) :
    (loop llvm s f).session.generator = s.generator := by
  have ends := loop_ends h
  generalize loop llvm s f = e at ends ⊢
  cases ends with
  | finished _ => rfl
  | broken fault before _ =>
    rcases before with rfl | rfl | ⟨x, rfl⟩
    · rfl
    · exact generator_prompt s
    · rfl

/-- What a round leaves of a feed is smaller. -/
theorem size_of_round? (h : round? llvm s f = some (t, g)) : g.size < f.size := by
  unfold round? at h
  by_cases ended : f.atEnd = true
  · rw [if_pos ended] at h
    cases h
  · have more : f.atEnd = false := by simpa using ended
    rw [if_neg ended] at h
    split at h
    · split at h
      · cases h
      · rename_i hn
        cases h
        exact Feed.size_next_lt hn more
    · split at h
      · rename_i less _
        cases h
        exact less
      · split at h
        · cases h
        · rename_i le _ _ _ hn
          cases h
          -- A statement that is refused may not have moved on, but the round does.
          have pos := Feed.size_pos more
          rcases Feed.size_next_lt_or hn with lt | none
          · exact Nat.lt_of_lt_of_le lt le
          · rwa [none]
      · cases h

/-- From any round on, a session goes on in rounds to its end. -/
theorem loop_generator {n : Nat} (h : after options llvm f n = some (s, g)) :
    ∃ k t u, after options llvm f k = some (t, u) ∧ round? llvm t u = none ∧
      (loop llvm s g).session.generator = t.generator := by
  induction bound : g.size using Nat.strongRecOn generalizing s g n with
  | ind b ih =>
    subst bound
    cases round : round? llvm s g with
    | none => exact ⟨n, s, g, h, round, generator_of_round? round⟩
    | some next =>
      obtain ⟨s', g'⟩ := next
      have later : after options llvm f (n + 1) = some (s', g') := by
        rw [after, h]
        exact round
      obtain ⟨k, t, u, there, last, generator⟩ := ih _ (size_of_round? round) later rfl
      rw [loop_of_round? round]
      exact ⟨k, t, u, there, last, generator⟩

/-- All rounds belong to one session. -/
theorem loop_of_after (h : after options llvm f n = some (s, g)) :
    ∃ k, f.next = (none, k) ∧ loop llvm (ofOptions options).prompt k = loop llvm s g := by
  induction n generalizing s g with
  | zero =>
    unfold after at h
    split at h
    · cases h
    · rename_i next
      cases h
      exact ⟨_, next, rfl⟩
  | succ n ih =>
    obtain ⟨⟨r, k⟩, before, round⟩ := Option.bind_eq_some_iff.mp h
    obtain ⟨start, next, same⟩ := ih before
    exact ⟨start, next, same.trans (loop_of_round? round)⟩

/-- A session is its rounds, or the fault that keeps it from starting, and a last line. -/
@[elab_as_elim]
theorem run_cases {motive : Ended → Prop} (options : Options) (llvm : Llvm) (f : Feed)
    (line : ∀ e : Ended, motive e → motive { e with session := e.session.write "" })
    (broken : ∀ fault g, f.next = (some fault, g) →
      motive ((ofOptions options).prompt.halt fault g))
    (rounds : ∀ g, f.next = (none, g) → motive (loop llvm (ofOptions options).prompt g)) :
    motive (run options llvm f) := by
  cases next : f.next with
  | mk fault g =>
    cases fault with
    | some fault =>
      have ended := broken fault g next
      unfold run
      rw [next]
      dsimp only
      split
      · exact line _ ended
      · exact ended
    | none =>
      have ended := rounds g next
      unfold run
      rw [next]
      dsimp only
      split
      · exact line _ ended
      · exact ended

/-- **A whole session is one of rounds**: what it leaves in its generator is what its
last round does, or it ends before the first one. -/
theorem run_generator (options : Options) (llvm : Llvm) (f : Feed) :
    (run options llvm f).session.generator = .ofName options.moduleName ∨
      ∃ n s g, after options llvm f n = some (s, g) ∧ round? llvm s g = none ∧
        (run options llvm f).session.generator = s.generator := by
  refine run_cases options llvm f (fun _ whole => whole) (fun _ _ _ => ?_) fun g next => ?_
  · exact .inl (generator_prompt _)
  · have first : after options llvm f 0 = some ((ofOptions options).prompt, g) := by
      rw [after, next]
    exact .inr (loop_generator first)

/-! ### The generator of a session -/

@[simp]
theorem generator_report (s : Session) (faults : Array Token.Fault) :
    (s.report faults).generator = s.generator := rfl

@[simp]
theorem generator_showParse (s : Session) (what : String) (e : Expr) :
    (s.showParse what e).generator = s.generator := by
  unfold showParse
  split <;> rfl

@[simp]
theorem generator_lower (s : Session) (e : Expr) :
    (s.lower e).2.generator = (s.generator.generate e).2 := rfl

theorem generator_evaluate (s : Session) (llvm : Llvm) :
    (s.evaluate llvm).generator = (s.generator.printed.remove anonymousName).2 := by
  unfold evaluate
  dsimp only
  cases Evaluation.run llvm s.started s.options.level s.generator.printed.module anonymousName with
  | error fault => rfl
  | ok result =>
    dsimp only [write, emit]
    cases result.output.isEmpty <;> rfl

/-- A construct that has been lowered is shown, unless a fault has been found. -/
theorem extend_eq_or (s : Session) (parsed lowered name : String) (e : Expr) :
    s.extend parsed lowered name e = ((s.showParse parsed e).lower e).2 ∨
      s.extend parsed lowered name e =
        ((s.showParse parsed e).lower e).2.showIR lowered name := by
  unfold extend
  split
  · rename_i run
    exact .inl (congrArg Prod.snd run).symm
  · rename_i run
    exact .inr (by rw [run])

/-! ### Statements carried out -/

/-- The session in which a bare expression has been lowered, with or without success. -/
def lowered (s : Session) (body : Expr) : Session :=
  ((s.showParse "Parsed a top-level expression" body).lower (.anonymous body)).2

/-- All that carrying out a statement can come to. -/
inductive Performs (llvm : Llvm) (s : Session) : Expr → Session → Prop where
  | extend {e : Expr} (parsed lowered name : String) : s.begun? e = none →
    e.isAnonymous? = some false → Performs llvm s e (s.extend parsed lowered name e)
  | refuse {body : Expr} {stop : Stop} : s.begun? (.anonymous body) = none →
    (s.generator.generate (.anonymous body)).1 = .error stop →
    Performs llvm s (.anonymous body) (s.lowered body)
  | evaluate {body : Expr} {t : Session} : s.begun? (.anonymous body) = some t →
    t = (s.lowered body).showIR "Read top-level expression" anonymousName →
    Performs llvm s (.anonymous body) (t.evaluate llvm)

/-- **What carrying out a statement comes to.** -/
theorem performs {e : Expr} (he : e.IsStatement) (s : Session) (llvm : Llvm) :
    Performs llvm s e (s.perform llvm e) := by
  cases he with
  | @declaration p signature =>
    exact .extend _ _ p.name rfl (congrArg some (decide_eq_false signature.name.ne_anonymous))
  | @definition p body l signature _ =>
    have named : p.isAnonymous = false := decide_eq_false signature.name.ne_anonymous
    simp only [perform, named, Bool.false_eq_true, if_false]
    refine .extend _ _ p.name ?_ (congrArg some named)
    simp [begun?, named]
  | @bare body _ =>
    cases run : (s.showParse "Parsed a top-level expression" body).lower (.anonymous body) with
    | mk value u =>
      have here : s.lowered body = u := congrArg Prod.snd run
      cases value with
      | some v =>
        have begun : s.begun? (.anonymous body) =
            some (u.showIR "Read top-level expression" anonymousName) := by
          simp only [begun?, Expr.anonymous, Prototype.isAnonymous, decide_true, if_true]
          rw [← Expr.anonymous, run]
        rw [perform_of_begun? begun]
        exact .evaluate begun (by rw [here])
      | none =>
        have begun : s.begun? (.anonymous body) = none := by
          simp only [begun?, Expr.anonymous, Prototype.isAnonymous, decide_true, if_true]
          rw [← Expr.anonymous, run]
        have same : s.perform llvm (.anonymous body) = s.lowered body := by
          simp only [perform, Expr.anonymous, Prototype.isAnonymous, decide_true, if_true]
          rw [← Expr.anonymous, run, here]
        have value := congrArg Prod.fst run
        simp only [lower, generator_showParse] at value
        cases generated : (s.generator.generate (.anonymous body)).1 with
        | error stop => exact same ▸ .refuse begun generated
        | ok v =>
          rw [generated] at value
          cases value

theorem generator_lowered (s : Session) (body : Expr) :
    (s.lowered body).generator = (s.generator.generate (.anonymous body)).2 := by
  rw [lowered, generator_lower, generator_showParse]

section Reaches
variable {moduleName : String} {P : Program}

theorem reaches_showIR (h : Reaches moduleName P s.generator) (what name : String) :
    Reaches moduleName P (s.showIR what name).generator := by
  unfold showIR
  split
  · split
    · exact h.printFunction name
    · exact h
  · exact h

theorem reaches_lower (h : Reaches moduleName P s.generator) {e : Expr} (he : e.IsStatement)
    (what : String) (shown : Expr) :
    Reaches moduleName (P.after s.generator e) ((s.showParse what shown).lower e).2.generator := by
  have next := h.generate he
  rwa [generator_lower, generator_showParse]

theorem reaches_extend (h : Reaches moduleName P s.generator) {e : Expr} (he : e.IsStatement)
    (parsed lowered name : String) :
    Reaches moduleName (P.after s.generator e) (s.extend parsed lowered name e).generator := by
  have next := reaches_lower h he parsed e
  rcases extend_eq_or s parsed lowered name e with same | same
  · exact same ▸ next
  · exact same ▸ reaches_showIR next lowered name

/-- The session that evaluates a bare expression has taken it as a definition. -/
theorem reaches_begun? (h : Reaches moduleName P s.generator) {e : Expr} (he : e.IsStatement)
    (begun : s.begun? e = some t) : Reaches moduleName (P.after s.generator e) t.generator := by
  unfold begun? at begun
  split at begun
  · rename_i p body l
    have next := reaches_lower h he "Parsed a top-level expression" body
    split at begun
    · split at begun
      · cases begun
      · rename_i run
        rw [run] at next
        cases begun
        exact reaches_showIR next _ _
    · cases begun
  · cases begun

theorem reaches_perform (h : Reaches moduleName P s.generator) {e : Expr} (he : e.IsStatement) :
    Reaches moduleName (s.taken P e) (s.perform llvm e).generator := by
  have done := performs he s llvm
  generalize s.perform llvm e = u at done ⊢
  cases done with
  | extend parsed lowered name begun _ =>
    rw [taken, begun, Option.isSome_none, if_neg (by decide)]
    exact reaches_extend h he parsed lowered name
  | refuse begun _ =>
    rw [taken, begun, Option.isSome_none, if_neg (by decide)]
    exact reaches_lower h he _ _
  | evaluate begun _ =>
    rw [taken, begun, Option.isSome_some, if_pos rfl, generator_evaluate]
    exact (reaches_begun? h he begun).print.remove

/-- The statement of a round is one. -/
theorem isStatement_of_statement? (spelled : f.Spelled) {e : Expr} (h : s.statement? f = some e) :
    e.IsStatement := by
  have gives := Expr.statement_gives s.operators f spelled
  unfold statement? at h
  split at h
  · cases h
  · split at h
    · rename_i found
      rw [found] at gives
      cases h
      exact gives.1
    · cases h

/-- A round leads on, whatever it meets. -/
theorem reaches_round? (spelled : f.Spelled) (h : Reaches moduleName P s.generator)
    (round : round? llvm s f = some (t, g)) :
    g.Spelled ∧ Reaches moduleName (((s.statement? f).map (s.taken P)).getD P) t.generator := by
  unfold round? at round
  unfold statement?
  by_cases ended : f.atEnd = true
  · rw [if_pos ended] at round
    cases round
  · rw [if_neg ended] at round
    by_cases separator : Expr.symbol? f ";" = true
    · rw [if_pos separator] at round
      rw [if_pos (by rw [separator, Bool.or_true])]
      split at round
      · cases round
      · rename_i hn
        cases round
        refine ⟨Expr.spelled_of_next spelled hn, ?_⟩
        rwa [generator_report, generator_prompt]
    · have gives := Expr.statement_gives s.operators f spelled
      rw [if_neg separator] at round
      rw [if_neg (by simp [ended, separator])]
      split at round
      · rename_i found
        rw [found] at gives ⊢
        cases round
        exact ⟨gives.2, reaches_perform h gives.1⟩
      · rename_i refused
        rw [refused] at gives ⊢
        split at round
        · cases round
        · rename_i hn
          cases round
          exact ⟨Expr.spelled_of_next gives hn, h⟩
      · cases round

/-- **The generator of a session is one that statements lead to**, whatever the source. -/
theorem after_reaches {n : Nat} (spelled : f.Spelled)
    (h : after options llvm f n = some (s, g)) :
    g.Spelled ∧ Reaches options.moduleName (definitions options llvm f n) s.generator := by
  induction n generalizing s g with
  | zero =>
    unfold after at h
    split at h
    · cases h
    · rename_i hn
      cases h
      refine ⟨Expr.spelled_of_next spelled hn, ?_⟩
      rw [generator_prompt]
      exact .start
  | succ n ih =>
    obtain ⟨⟨s', f'⟩, before, round⟩ := Option.bind_eq_some_iff.mp h
    obtain ⟨spelled', reaches⟩ := ih before
    rw [definitions, before]
    exact reaches_round? spelled' reaches round

theorem reaches_run (options : Options) (llvm : Llvm) (spelled : f.Spelled) :
    ∃ P, Reaches options.moduleName P (run options llvm f).session.generator := by
  rcases run_generator options llvm f with start | ⟨n, s, g, h, -, last⟩
  · rw [start]
    exact ⟨[], .start⟩
  · rw [last]
    exact ⟨_, (after_reaches spelled h).2⟩

end Reaches

end

end Reckoner.Session
