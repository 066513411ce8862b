import Reckoner.Proofs.Llvm.Standard
import Reckoner.Proofs.Session.Rounds

/-! When a session asks for a statement.

A session asks once at its start, and once at each separator that it comes to between
statements, before it requests the token behind it. A separator at which a parse fails is
dropped without being asked behind. So a session asks once more than there are separators, less
the parses that failed at one: each round keeps this account (`account_make`), and the rounds
together do so up to any point and at the end (`prompts_at_separators`). -/
namespace Reckoner.Session
open Reckoner.Expr Lowering

def Event.isPrompt : Event → Bool
  | prompt => true
  | _ => false

/-- How often a session has asked for a statement. -/
def asked (s : Session) : Nat := s.events.toList.countP Event.isPrompt

/-- How many parses have failed at a separator. -/
def dropped (s : Session) : Nat :=
  s.parseFaults.toList.countP fun x => x.found.any (·.isSymbol ";")

/-! ### What is written between prompts -/

section
variable {s t : Session}

theorem asked_eq (s : Session) : s.asked = (s.eventsOf Event.isPrompt).length :=
  List.countP_eq_length_filter

theorem filter_diagnostics_prompt {α : Type} (d : α → Diagnostic) (xs : List α) :
    (xs.map fun x => Event.diagnostic (d x)).filter Event.isPrompt = [] := by
  refine List.filter_eq_nil_iff.mpr fun event mem => ?_
  obtain ⟨x, -, rfl⟩ := List.mem_map.mp mem
  exact Bool.false_ne_true

theorem filter_outcomeEvents_prompt (s : Session) (llvm : Llvm) (module : IR.Module) :
    (s.outcomeEvents llvm module).filter Event.isPrompt = [] := by
  unfold outcomeEvents
  split
  · rfl
  · split <;> rfl

theorem events_asking (on : s.options.prompts = true) :
    s.prompt.events.toList = s.events.toList ++ [.prompt] := by
  rw [prompt, if_pos on, emit, Array.toList_push]

theorem asked_prompt (on : s.options.prompts = true) : s.prompt.asked = s.asked + 1 := by
  rw [asked, events_asking on, List.countP_append]
  rfl

theorem asked_report (s : Session) (faults : Array Token.Fault) :
    (s.report faults).asked = s.asked := by
  rw [asked_eq, eventsOf_report, filter_diagnostics_prompt, List.append_nil, asked_eq]

theorem asked_refuse (s : Session) (x : Expr.Fault) : (s.refuse x).asked = s.asked := by
  rw [asked_eq, eventsOf_refuse, asked_eq]
  exact congrArg List.length (List.append_nil _)

theorem asked_perform {e : Expr} (he : e.IsStatement) (s : Session) (llvm : Llvm) :
    (s.perform llvm e).asked = s.asked := by
  have ran : ((s.runOf? e).elim [] (s.outcomeEvents llvm)).filter Event.isPrompt = [] := by
    cases s.runOf? e with
    | none => rfl
    | some module => exact filter_outcomeEvents_prompt s llvm module
  rw [asked_eq, eventsOf_perform (fun _ => rfl) he, filter_diagnostics_prompt, ran,
    List.append_nil, List.append_nil, asked_eq]

theorem asked_halt (s : Session) (fault : Token.Fault) (f : Feed) :
    (s.halt fault f).session.asked = s.asked := by
  rw [asked_eq, halt, eventsOf_emit, asked_eq]
  exact congrArg List.length (List.append_nil _)

theorem dropped_of_parseFaults (same : t.parseFaults = s.parseFaults) : t.dropped = s.dropped := by
  rw [dropped, same, dropped]

theorem dropped_eq_zero_iff : s.dropped = 0 ↔
    ∀ x ∈ s.parseFaults, ∀ t, x.found = some t → t.isSymbol ";" = false := by
  rw [dropped, List.countP_eq_zero]
  refine forall_congr' fun x => ?_
  rw [Array.mem_toList_iff]
  cases x.found <;> simp

theorem dropped_refuse {x : Expr.Fault} {u : Token} (s : Session) (found : x.found = some u) :
    (s.refuse x).dropped = s.dropped + [u].countP (·.isSymbol ";") := by
  rw [dropped, show (s.refuse x).parseFaults = s.parseFaults.push x from rfl, Array.toList_push,
    List.countP_append, List.countP_singleton, List.countP_singleton, found]
  rfl

end

/-! ### The account of separators -/

section
variable {ts : List Token} {ops : Operators} {f g : Feed}

/-- No token that the grammar knows is a separator. -/
theorem countP_of_passable (free : ops.lookup ";" = none) (passable : ∀ t ∈ ts, t.IsPassable ops) :
    ts.countP (·.isSymbol ";") = 0 :=
  List.countP_eq_zero.mpr fun t mem separator =>
    Token.not_isPassable_of_separator free separator (passable t mem)

/-- The end of the input is no separator. -/
theorem countP_filter_more (ts : List Token) :
    (ts.filter (·.kind ≠ .endOfInput)).countP (·.isSymbol ";") = ts.countP (·.isSymbol ";") := by
  rw [List.countP_filter]
  refine List.countP_congr fun t _ =>
    ⟨fun both => (Bool.and_eq_true_iff.mp both).1, fun separator => ?_⟩
  have more : t.kind ≠ .endOfInput := by rw [Token.kind_of_isSymbol separator]; decide
  exact Bool.and_eq_true_iff.mpr ⟨separator, decide_eq_true more⟩

/-- In front of a fault only the current token can be a separator. -/
theorem countP_supply_of_fault {t : Token} {fault : Token.Fault} (current : f.current = some t)
    (next : f.next = (some fault, g)) :
    f.supply.countP (·.isSymbol ";") = [t].countP (·.isSymbol ";") := by
  by_cases more : t.kind = .endOfInput
  · have ended : f.atEnd = true := by
      rw [Feed.atEnd, current]
      exact decide_eq_true more
    rw [Feed.supply_of_atEnd ended, ← countP_filter_more [t], List.filter_cons_of_neg (by simp [more])]
    rfl
  · rw [Feed.supply_of_fault current more next]

end

section
variable {options : Options} {llvm : Llvm} {n : Nat} {s t : Session} {f g : Feed} {ops : Operators}
variable {m : Move} {ts : List Token} {P : Program} {moduleName : String}

/-- **Each move keeps the account**: a separator that it passes is asked behind or is one that a
parse failed at. -/
theorem account_make (on : s.options.prompts = true) (free : ops.lookup ";" = none)
    (passing : Passing ops f g m ts) (he : ∀ e, m = .statement e → e.IsStatement) (llvm : Llvm) :
    (s.make llvm m).asked + (s.make llvm m).dropped =
      s.asked + s.dropped + ts.countP (·.isSymbol ";") := by
  cases passing with
  | @separator t _ separator =>
    rw [make, asked_prompt on, dropped_of_parseFaults (Keeps.prompt s).parseFaults,
      List.countP_singleton, if_pos separator]
    exact Nat.add_right_comm _ _ _
  | @statement e ts _ _ passable =>
    rw [make, asked_perform (he e rfl), dropped_of_parseFaults (Keeps.perform s llvm e).parseFaults,
      countP_of_passable free passable, Nat.add_zero]
  | @refusal x ts t _ passable found _ =>
    rw [make, asked_refuse, dropped_refuse s found, List.countP_append,
      countP_of_passable free passable, Nat.zero_add, Nat.add_assoc]

/-- What each round does to the account: it takes separators from the supply. -/
theorem account_round? (on : s.options.prompts = true) (free : s.operators.lookup ";" = none)
    (spelled : f.Spelled) (closes : f.Closes) (current : f.current.isSome = true)
    (round : round? llvm s f = some (t, g)) :
    t.asked + t.dropped + g.supply.countP (·.isSymbol ";") =
      s.asked + s.dropped + f.supply.countP (·.isSymbol ";") := by
  obtain ⟨m, move, rfl⟩ := move?_of_round? round
  obtain ⟨ts, passing⟩ := exists_passing current move
  have made := account_make on free passing (isStatement_of_move? spelled move) llvm
  have shown : ((s.make llvm m).report g.faults).dropped = (s.make llvm m).dropped :=
    dropped_of_parseFaults rfl
  rw [asked_report, shown, made,
    closes.supply_of_passes passing.passes, List.countP_append, countP_filter_more, Nat.add_assoc]

/-- A fault of the source leaves no separator unaccounted for. -/
theorem account_halts (on : s.options.prompts = true) (free : s.operators.lookup ";" = none)
    (halts : Halts llvm s f) :
    (loop llvm s f).session.asked + (loop llvm s f).session.dropped =
      s.asked + s.dropped + f.supply.countP (·.isSymbol ";") := by
  have more {ts : List Token} (passable : ∀ t ∈ ts, t.IsPassable s.operators) :
      ∀ t ∈ ts, t.kind ≠ .endOfInput := fun t mem => (passable t mem).more
  have halted (t : Session) (fault : Token.Fault) (g : Feed) :
      (t.halt fault g).session.dropped = t.dropped := dropped_of_parseFaults rfl
  cases halts with
  | @separator t fault g current separator next same =>
    rw [same, asked_halt, halted, asked_prompt on,
      dropped_of_parseFaults (Keeps.prompt s).parseFaults, countP_supply_of_fault current next,
      List.countP_singleton, if_pos separator]
    exact Nat.add_right_comm _ _ _
  | refusal passes passable current found next same =>
    rw [same, asked_halt, halted, asked_refuse, dropped_refuse s found,
      Feed.supply_of_passes passes (more passable), List.countP_append,
      countP_of_passable free passable, countP_supply_of_fault current next, Nat.zero_add,
      Nat.add_assoc]
  | @statement ts t fault g h passes passable current known next same =>
    have last : [t].countP (·.isSymbol ";") = 0 :=
      countP_of_passable free (List.forall_mem_singleton.mpr known)
    rw [same, asked_halt, halted, Feed.supply_of_passes passes (more passable), List.countP_append,
      countP_of_passable free passable, countP_supply_of_fault current next, last]
    rfl

/-- At its end a session has asked behind all separators but those that a parse failed at. -/
theorem account_loop (on : s.options.prompts = true) (free : s.operators.lookup ";" = none)
    (spelled : f.Spelled) (reaches : Reaches moduleName P s.generator) (closes : f.Closes)
    (current : f.current.isSome = true) :
    (loop llvm s f).session.asked + (loop llvm s f).session.dropped =
      s.asked + s.dropped + f.supply.countP (·.isSymbol ";") := by
  induction f using Feed.size_induction generalizing s P with
  | smaller f ih =>
    cases ended : f.atEnd with
    | true =>
      rw [loop_of_atEnd ended, Feed.supply_of_atEnd ended]
      rfl
    | false =>
      cases round : round? llvm s f with
      | none =>
        rw [round?_eq, Option.map_eq_none_iff] at round
        exact account_halts on free (halts_of_move? llvm current ended round)
      | some next =>
        obtain ⟨t, g⟩ := next
        obtain ⟨m, move, same⟩ := move?_of_round? round
        obtain ⟨spelled', reaches'⟩ := reaches_round? spelled reaches round
        obtain ⟨closes', current', -⟩ := supply_of_move? closes current move
        have on' : t.options.prompts = true := by
          rw [same]
          exact options_make llvm s m ▸ on
        have free' : t.operators.lookup ";" = none := by rwa [same, operators_report_make]
        rw [loop_of_round? round,
          ih g (size_of_round? round) on' free' spelled' reaches' closes' current']
        exact account_round? on free spelled closes current round

/-- A session keeps the options that it starts with. -/
theorem options_after (h : after options llvm f n = some (s, g)) : s.options = options := by
  induction n generalizing s g with
  | zero =>
    unfold after at h
    split at h
    · cases h
    · cases h
      exact (Keeps.prompt _).options
  | succ n ih =>
    obtain ⟨r, k, m, before, -, rfl⟩ := exists_move_of_after h
    exact (options_make llvm r m).trans (ih before)

/-- After every round, what has been asked and dropped is what has been passed. -/
theorem account_after (on : options.prompts = true) (spelled : f.Spelled) (closes : f.Closes)
    (h : after options llvm f n = some (s, g)) :
    g.Closes ∧ g.current.isSome = true ∧
      s.asked + s.dropped + g.supply.countP (·.isSymbol ";") =
        1 + (Feed.tokensOf f.ahead).countP (·.isSymbol ";") := by
  induction n generalizing s g with
  | zero =>
    unfold after at h
    split at h
    · cases h
    · rename_i next
      cases h
      refine ⟨closes.next next, Feed.current_of_next next, ?_⟩
      rw [asked_prompt on, dropped_of_parseFaults (Keeps.prompt _).parseFaults,
        Feed.tokensOf_of_next next]
      rfl
  | succ n ih =>
    obtain ⟨⟨r, k⟩, before, round⟩ := Option.bind_eq_some_iff.mp h
    obtain ⟨closes, current, account⟩ := ih before
    obtain ⟨m, move, -⟩ := move?_of_round? round
    obtain ⟨closes', current', -⟩ := supply_of_move? closes current move
    have on' : r.options.prompts = true := by rwa [options_after before]
    refine ⟨closes', current', ?_⟩
    rw [← account]
    exact account_round? on' (not_operator_after before) (after_reaches spelled before).1 closes
      current round

/-! ### Where it is asked -/

/-- Whatever comes behind a separator, it is asked for first. -/
theorem prefix_of_separator (on : s.options.prompts = true) (separator : symbol? f ";" = true)
    (spelled : f.Spelled) (reaches : Reaches moduleName P s.generator) :
    s.events.toList ++ [.prompt] <+: (loop llvm s f).transcript := by
  obtain ⟨t, current, symbol⟩ := symbol?_iff.mp separator
  have more : f.atEnd = false :=
    Feed.atEnd_of_kind current (by rw [Token.kind_of_isSymbol symbol]; decide)
  rw [← events_asking on, Ended.transcript, loop_eq, more, if_neg Bool.false_ne_true,
    if_pos separator]
  cases next : f.next with
  | mk fault g =>
    cases fault with
    | some fault => exact events_emit s.prompt _
    | none =>
      have reaches : Reaches moduleName P (s.prompt.report g.faults).generator := by
        rwa [generator_report, generator_prompt]
      exact (events_report s.prompt g.faults).trans
        (retains_loop (spelled_of_next spelled next) reaches).events

/-- Away from separators a round asks for nothing. -/
theorem asked_of_round? (other : symbol? f ";" = false) (spelled : f.Spelled)
    (current : f.current.isSome = true) (round : round? llvm s f = some (t, g)) :
    t.asked = s.asked := by
  obtain ⟨m, move, rfl⟩ := move?_of_round? round
  obtain ⟨ts, passing⟩ := exists_passing current move
  rw [asked_report]
  cases passing with
  | separator passes symbol =>
    obtain ⟨here, -⟩ := Feed.passes_singleton_iff.mp passes
    rw [symbol?_iff.mpr ⟨_, here, symbol⟩] at other
    cases other
  | statement _ _ _ => exact asked_perform (isStatement_of_move? spelled move _ rfl) s llvm
  | refusal _ _ _ _ => exact asked_refuse s _

/-! ### Whole sessions -/

theorem reaches_start (options : Options) :
    Reaches options.moduleName [] (ofOptions options).prompt.generator := by
  rw [generator_prompt]
  exact .start

theorem prefix_run (on : options.prompts = true) (llvm : Llvm) (spelled : f.Spelled) :
    [.prompt] <+: (run options llvm f).transcript := by
  have first : [Event.prompt] <+: (ofOptions options).prompt.events.toList := by
    rw [events_asking on]
    exact List.prefix_rfl
  refine run_cases options llvm f (fun e whole => ?_) (fun fault g _ => ?_) fun g next => ?_
  · exact whole.trans (events_emit e.session _)
  · exact first.trans (events_emit _ _)
  · exact first.trans (retains_loop (spelled_of_next spelled next) (reaches_start options)).events

theorem account_run (on : options.prompts = true) (llvm : Llvm) (spelled : f.Spelled)
    (closes : f.Closes) :
    (run options llvm f).session.asked + (run options llvm f).session.dropped =
      1 + (Feed.tokensOf f.ahead).countP (·.isSymbol ";") := by
  have first : (ofOptions options).prompt.asked + (ofOptions options).prompt.dropped = 1 := by
    rw [asked_prompt on, dropped_of_parseFaults (Keeps.prompt _).parseFaults]
    rfl
  refine run_cases options llvm f (fun e whole => ?_) (fun fault g next => ?_) fun g next => ?_
  · have same : (e.session.write "").asked = e.session.asked := by
      rw [asked_eq, eventsOf_write (fun _ => rfl), asked_eq]
    rw [same]
    exact whole
  · have halted : ((ofOptions options).prompt.halt fault g).session.dropped =
        (ofOptions options).prompt.dropped := dropped_of_parseFaults rfl
    rw [asked_halt, halted, first, Feed.tokensOf_of_fault next]
    rfl
  · have free : (ofOptions options).prompt.operators.lookup ";" = none := by
      rw [operators_start]
      decide
    rw [account_loop ((Keeps.prompt (ofOptions options)).options ▸ on) free
      (spelled_of_next spelled next) (reaches_start options) (closes.next next) (Feed.current_of_next next), first,
      Feed.tokensOf_of_next next]

end

/-- **A session asks once at its start and once behind each separator that no parse fails at.**
It starts with asking. After each round, and at the end, however that comes about, it has asked
once more than it has passed separators, less the parses that have failed at one. At a separator
it asks before it requests the token behind it: whatever this request meets, the next thing
written is the prompt. Any other round asks for nothing, also if it drops a separator. So it has
asked behind all the separators of its source if and only if no parse has failed at one. -/
theorem prompts_at_separators (options : Options) (on : options.prompts = true) (llvm : Llvm)
    (file : String) (source : Source) :
    let f := Feed.ofSource file source
    let e := run options llvm f
    (Lexer.ofSource file source).Delivers f.supply ∧ [.prompt] <+: e.transcript ∧
      (∀ n s g, after options llvm f n = some (s, g) →
        s.asked + s.dropped + g.supply.countP (·.isSymbol ";") =
            1 + f.supply.countP (·.isSymbol ";") ∧
          (symbol? g ";" = true → ∀ h : Feed, h.Spelled → h.current = g.current →
            s.events.toList ++ [.prompt] <+: (loop llvm s h).transcript) ∧
          (symbol? g ";" = false → ∀ t h, round? llvm s g = some (t, h) → t.asked = s.asked)) ∧
      e.session.asked + e.session.dropped = 1 + f.supply.countP (·.isSymbol ";") ∧
      (e.session.asked = 1 + f.supply.countP (·.isSymbol ";") ↔
        ∀ x ∈ e.session.parseFaults, ∀ t, x.found = some t → t.isSymbol ";" = false) := by
  intro f e
  have spelled : f.Spelled := Feed.spelled_ofSource file source
  have closes : f.Closes := Feed.closes_ofSource file source
  have account : e.session.asked + e.session.dropped = 1 + f.supply.countP (·.isSymbol ";") :=
    account_run on llvm spelled closes
  refine ⟨Feed.delivers_supply file source, prefix_run on llvm spelled, fun n s g reached => ?_,
    account, ?_⟩
  · obtain ⟨spelled', reaches⟩ := after_reaches spelled reached
    obtain ⟨-, current, account⟩ := account_after on spelled closes reached
    have on' : s.options.prompts = true := by rwa [options_after reached]
    refine ⟨account, fun separator h spelled same => ?_, fun other t h round => ?_⟩
    · exact prefix_of_separator on' (by rwa [symbol?, same]) spelled reaches
    · exact asked_of_round? other spelled' current round
  · rw [← dropped_eq_zero_iff]
    omega

/-- Of two separators the first is dropped, as it stands for the name of a definition. -/
theorem prompts_at_separators_of_def :
    ({} : Options).prompts = true ∧
      (Feed.ofSource "<stdin>" (.ofString "def ; 1;")).supply.countP (·.isSymbol ";") = 2 ∧
      (run {} (.within 9) (.ofSource "<stdin>" (.ofString "def ; 1;"))).session.asked = 2 ∧
      ∃ s g, after {} (.within 9) (.ofSource "<stdin>" (.ofString "def ; 1;")) 1 = some (s, g) ∧
        s.dropped = 1 ∧ s.asked = 1 := by
  obtain ⟨-, -, rounds, account, -⟩ :=
    prompts_at_separators {} rfl (.within 9) "<stdin>" (.ofString "def ; 1;")
  have separators :
      (Feed.ofSource "<stdin>" (.ofString "def ; 1;")).supply.countP (·.isSymbol ";") = 2 := by
    decide +kernel
  have dropped :
      (run {} (.within 9) (.ofSource "<stdin>" (.ofString "def ; 1;"))).session.dropped = 1 := by
    decide +kernel
  have first : (after {} (.within 9) (.ofSource "<stdin>" (.ofString "def ; 1;")) 1).any (fun here =>
      here.1.dropped = 1 ∧ here.2.supply.countP (·.isSymbol ";") = 1) = true := by
    decide +kernel
  obtain ⟨⟨s, g⟩, reached, here⟩ := (Option.any_eq_true _ _).mp first
  obtain ⟨left, rest⟩ : s.dropped = 1 ∧ g.supply.countP (·.isSymbol ";") = 1 :=
    of_decide_eq_true here
  obtain ⟨passed, -⟩ := rounds 1 s g reached
  rw [separators] at account passed
  exact ⟨rfl, separators, by omega, s, g, reached, left, by omega⟩

end Reckoner.Session
