import Reckoner.Proofs.Expr.Budget
import Reckoner.Proofs.Session.Interruption
import Reckoner.Proofs.Token.Reads

/-! How many rounds a session has.

A round passes a separator, the tokens of a statement, or those of one that is given up together
with the token at fault (`exists_passing`); if a fault of the source breaks it off, it has come
to the last token in front of the fault (`halts_of_move?`). Either way a token is used up that
is not the end of the input, since a round does not begin there. So a session has no more rounds
than its source has tokens, whatever its operators and whatever its statements come to
(`length_rounds_le`), and with a budget of so many it reads its source to the end: the budget
bounds both the rounds and the requests that the parser makes in each (`loopWithin_eq`). With
the scanner, whose scans end because each read uses up a character, all reading comes to an
end (`reading_comes_to_end`). -/
namespace Reckoner.Session
open Reckoner.Expr

/-! ### What a round passes -/

/-- The tokens that a move passes: a statement is made of tokens that the grammar knows, and one
that is given up is made of these and the token at fault, which is dropped. -/
inductive Passing (ops : Operators) (f g : Feed) : Move → List Token → Prop where
  | separator {t} : f.Passes [t] g → t.isSymbol ";" = true → Passing ops f g .separator [t]
  | statement {e ts} : f.Passes ts g → ts ≠ [] → (∀ t ∈ ts, t.IsPassable ops) →
    Passing ops f g (.statement e) ts
  | refusal {x ts t} : f.Passes (ts ++ [t]) g → (∀ u ∈ ts, u.IsPassable ops) → x.found = some t →
    (ts = [] → t.kind ≠ .endOfInput) → Passing ops f g (.refusal x) (ts ++ [t])

/-- How a fault of the source breaks a session off: behind a separator, behind the token that a
statement is given up for, or behind one that the grammar knows. -/
inductive Halts (llvm : Llvm) (s : Session) (f : Feed) : Prop where
  | separator {t fault g} : f.current = some t → t.isSymbol ";" = true →
    f.next = (some fault, g) → loop llvm s f = s.prompt.halt fault g → Halts llvm s f
  | refusal {x ts t fault g h} : f.Passes ts g → (∀ u ∈ ts, u.IsPassable s.operators) →
    g.current = some t → x.found = some t → g.next = (some fault, h) →
    loop llvm s f = (s.refuse x).halt fault h → Halts llvm s f
  | statement {ts t fault g h} : f.Passes ts g → (∀ u ∈ ts, u.IsPassable s.operators) →
    g.current = some t → t.IsPassable s.operators → g.next = (some fault, h) →
    loop llvm s f = s.halt fault h → Halts llvm s f

section
variable {llvm : Llvm} {s : Session} {f g : Feed} {ops : Operators} {m : Move} {ts : List Token}

theorem Passing.passes (h : Passing ops f g m ts) : f.Passes ts g := by
  cases h with
  | separator passes _ => exact passes
  | statement passes _ _ => exact passes
  | refusal passes _ _ _ => exact passes

/-- Every move passes a token that is not the end of the input. -/
theorem Passing.exists_more (h : Passing ops f g m ts) : ∃ t ∈ ts, t.kind ≠ .endOfInput := by
  cases h with
  | @separator t _ separator =>
    exact ⟨t, List.mem_cons_self, by rw [Token.kind_of_isSymbol separator]; decide⟩
  | statement _ some passable =>
    obtain ⟨t, rest, rfl⟩ := List.exists_cons_of_ne_nil some
    exact ⟨t, List.mem_cons_self, (passable t List.mem_cons_self).more⟩
  | @refusal x ts t _ passable _ first =>
    cases ts with
    | nil => exact ⟨t, List.mem_cons_self, first rfl⟩
    | cons u ts => exact ⟨u, List.mem_cons_self, (passable u List.mem_cons_self).more⟩

/-- There is a current token as long as there was one. -/
theorem current_of_passes (passes : f.Passes ts g) (current : f.current.isSome = true) :
    g.current.isSome = true := by
  induction passes with
  | nil => exact current
  | cons _ next _ ih => exact ih (Feed.current_of_next next)

/-- **What a move passes.** -/
theorem exists_passing (current : f.current.isSome = true) (move : move? ops f = some (m, g)) :
    ∃ ts, Passing ops f g m ts := by
  unfold move? at move
  cases ended : f.atEnd with
  | true =>
    rw [ended, if_pos rfl] at move
    cases move
  | false =>
    rw [ended, if_neg Bool.false_ne_true] at move
    cases separator : symbol? f ";" with
    | true =>
      rw [separator, if_pos rfl] at move
      obtain ⟨t, here, symbol⟩ := symbol?_iff.mp separator
      split at move
      · cases move
      · rename_i next
        cases move
        exact ⟨[t], .separator (Feed.passes_singleton_iff.mpr ⟨here, next⟩) symbol⟩
    | false =>
      rw [separator, if_neg Bool.false_ne_true] at move
      have through := statement_through ops f
      cases given : Expr.statement ops f with
      | found e k less =>
        rw [given] at move through
        cases move
        cases through with
        | found through =>
          obtain ⟨ts, passes, passable⟩ := through.exists_passes
          refine ⟨ts, .statement passes ?_ passable⟩
          rintro rfl
          rw [Feed.passes_nil_iff.mp passes] at less
          exact absurd less (Nat.lt_irrefl _)
      | refused x k le =>
        rw [given] at move through
        dsimp only [Parse.outcome] at move
        split at move
        · cases move
        · rename_i next
          cases move
          cases through with
          | refused through fault =>
            obtain ⟨ts, passes, passable⟩ := through.exists_passes
            have some := current_of_passes passes current
            obtain ⟨t, here⟩ := Option.isSome_iff_exists.mp some
            have whole : f.Passes (ts ++ [t]) g :=
              Feed.passes_append_iff.mpr ⟨k, passes, Feed.passes_singleton_iff.mpr ⟨here, next⟩⟩
            refine ⟨_, .refusal whole passable (fault.trans here) ?_⟩
            rintro rfl
            rw [← Feed.passes_nil_iff.mp passes] at here
            exact Feed.kind_of_atEnd here ended
      | stopped why k =>
        rw [given] at move
        cases move

/-- A session that does not go on has come to the end of the input or is broken off. -/
theorem halts_of_move? (llvm : Llvm) (current : f.current.isSome = true) (more : f.atEnd = false)
    (none : move? s.operators f = none) : Halts llvm s f := by
  unfold move? at none
  rw [more, if_neg Bool.false_ne_true] at none
  cases separator : symbol? f ";" with
  | true =>
    rw [separator, if_pos rfl] at none
    obtain ⟨t, here, symbol⟩ := symbol?_iff.mp separator
    split at none
    · rename_i next
      exact .separator here symbol next (loop_of_separator more separator next)
    · cases none
  | false =>
    rw [separator, if_neg Bool.false_ne_true] at none
    have through := statement_through s.operators f
    cases given : (Expr.statement s.operators f).outcome with
    | found e k =>
      rw [given] at none
      cases none
    | refused x k =>
      rw [given] at none through
      dsimp only at none
      split at none
      · rename_i next
        cases through with
        | refused through fault =>
          obtain ⟨ts, passes, passable⟩ := through.exists_passes
          obtain ⟨t, here⟩ := Option.isSome_iff_exists.mp (current_of_passes passes current)
          exact .refusal passes passable here (fault.trans here) next
            (loop_of_refused more separator given next)
      · cases none
    | stopped why k =>
      rw [given] at through
      cases through with
      | stopped through here next =>
        obtain ⟨ts, passes, passable⟩ := through.exists_passes
        obtain ⟨t, current, known⟩ := here
        exact .statement passes passable current known next (loop_of_stopped more separator given)

/-- **Every round uses up a token**, so it leaves fewer than there were. -/
theorem supply_of_move? (closes : f.Closes) (current : f.current.isSome = true)
    (move : move? ops f = some (m, g)) :
    g.Closes ∧ g.current.isSome = true ∧ g.supply.length < f.supply.length := by
  obtain ⟨ts, passing⟩ := exists_passing current move
  obtain ⟨t, mem, more⟩ := passing.exists_more
  have passes := passing.passes
  refine ⟨closes.passes passes, current_of_passes passes current, ?_⟩
  have used : 0 < (ts.filter (·.kind ≠ .endOfInput)).length :=
    List.length_pos_of_mem (List.mem_filter.mpr ⟨mem, decide_eq_true more⟩)
  rw [closes.supply_of_passes passes, List.length_append]
  omega

end

/-! ### Rounds from a feed on -/

/-- The session and what is left of its feed after so many rounds. -/
def rounds (llvm : Llvm) (s : Session) (f : Feed) : Nat → Option (Session × Feed)
  | 0 => some (s, f)
  | n + 1 => (rounds llvm s f n).bind fun (t, g) => round? llvm t g

/-- The loop of a session that stops when it has had `n` rounds and needs one more, or in a round
in which the parser makes more requests than there are rounds left. -/
def loopWithin (llvm : Llvm) : Nat → Session → Feed → Option Ended
  | 0, s, f => if f.atEnd then some { session := s, faults := f.faults } else none
  | n + 1, s, f =>
    if f.atEnd then some { session := s, faults := f.faults }
    else if symbol? f ";" then
      match f.next with
      | (some fault, g) => some (s.prompt.halt fault g)
      | (none, g) => loopWithin llvm n (s.prompt.report g.faults) g
    else
      match statementWithin s.operators (n + 1) f with
      | none => none
      | some (.found e g) => loopWithin llvm n ((s.perform llvm e).report g.faults) g
      | some (.refused x g) =>
        match g.next with
        | (some fault, h) => some ((s.refuse x).halt fault h)
        | (none, h) => loopWithin llvm n ((s.refuse x).report h.faults) h
      | some (.stopped (.source fault) g) => some (s.halt fault g)
      | some (.stopped (.noToken _) g) => some { session := s, faults := g.faults }

/-- A whole session with a bound on its rounds. -/
def runWithin (options : Options) (llvm : Llvm) (n : Nat) (f : Feed) : Option Ended :=
  let s := (ofOptions options).prompt
  let ended := match f.next with
    | (some fault, g) => some (s.halt fault g)
    | (none, g) => loopWithin llvm n s g
  ended.map fun ended =>
    if options.prompts then { ended with session := ended.session.write "" } else ended

section
variable {llvm : Llvm} {n : Nat} {s t : Session} {f g : Feed}

theorem move?_of_round? (round : round? llvm s f = some (t, g)) :
    ∃ m, move? s.operators f = some (m, g) ∧ t = (s.make llvm m).report g.faults := by
  rw [round?_eq] at round
  obtain ⟨⟨m, k⟩, move, same⟩ := Option.map_eq_some_iff.mp round
  cases same
  exact ⟨m, move, rfl⟩

/-- The rounds of a session and the tokens that are left are no more than there were tokens. -/
theorem length_rounds_le (closes : f.Closes) (current : f.current.isSome = true)
    (h : rounds llvm s f n = some (t, g)) :
    g.Closes ∧ g.current.isSome = true ∧ n + g.supply.length ≤ f.supply.length := by
  induction n generalizing t g with
  | zero =>
    cases h
    exact ⟨closes, current, Nat.le_of_eq (Nat.zero_add _)⟩
  | succ n ih =>
    obtain ⟨⟨r, k⟩, before, round⟩ := Option.bind_eq_some_iff.mp h
    obtain ⟨closes, current, le⟩ := ih before
    obtain ⟨m, move, -⟩ := move?_of_round? round
    obtain ⟨closes, current, less⟩ := supply_of_move? closes current move
    exact ⟨closes, current, by omega⟩

/-- What is not at the end has a token. -/
theorem supply_pos (current : f.current.isSome = true) (more : f.atEnd = false) :
    0 < f.supply.length := by
  obtain ⟨t, here⟩ := Option.isSome_iff_exists.mp current
  rw [Feed.supply_of_current here (Feed.kind_of_atEnd here more)]
  exact Nat.succ_pos _

/-- **A budget of as many rounds as there are tokens is enough for the loop.** -/
theorem loopWithin_eq (closes : f.Closes) (current : f.current.isSome = true)
    (enough : f.supply.length ≤ n) : loopWithin llvm n s f = some (loop llvm s f) := by
  induction n generalizing s f with
  | zero =>
    cases ended : f.atEnd with
    | true => rw [loopWithin, loop_eq, ended, if_pos rfl, if_pos rfl]
    | false => exact absurd (supply_pos current ended) (Nat.not_lt.mpr enough)
  | succ n ih =>
    cases ended : f.atEnd with
    | true => rw [loopWithin, loop_eq, ended, if_pos rfl, if_pos rfl]
    | false =>
      have moved {m : Move} {g : Feed} (t : Session) (move : move? s.operators f = some (m, g)) :
          loopWithin llvm n t g = some (loop llvm t g) := by
        obtain ⟨closes, current, less⟩ := supply_of_move? closes current move
        exact ih closes current (by omega)
      rw [loopWithin, loop_eq, statementWithin_eq enough]
      unfold move? at moved
      rw [ended] at moved ⊢
      cases separator : symbol? f ";" with
      | true =>
        simp only [separator, Bool.false_eq_true, if_false, if_true] at moved ⊢
        cases next : f.next with
        | mk fault g =>
          cases fault with
          | some fault => rfl
          | none => exact moved _ (by rw [next])
      | false =>
        simp only [separator, Bool.false_eq_true, if_false] at moved ⊢
        cases given : (Expr.statement s.operators f).outcome with
        | found e g => exact moved _ (by rw [given])
        | refused x g =>
          dsimp only
          cases next : g.next with
          | mk fault h =>
            cases fault with
            | some fault => rfl
            | none => exact moved _ (by rw [given]; dsimp only; rw [next])
        | stopped why g => cases why <;> rfl

end

/-! ### Whole sessions -/

section
variable {file : String} {source : Source} {f : Feed}

/-- Behind the first request on a source the whole supply is there. -/
theorem supply_of_first (next : (Feed.ofSource file source).next = (none, f)) :
    f.Closes ∧ f.current.isSome = true ∧ f.supply = (Feed.ofSource file source).supply :=
  ⟨(Feed.closes_ofSource file source).next next, Feed.current_of_next next,
    (Feed.tokensOf_of_next next).symm⟩

/-- A budget of as many rounds as there are tokens is enough for a whole session. -/
theorem runWithin_eq (options : Options) (llvm : Llvm) {n : Nat}
    (enough : (Feed.ofSource file source).supply.length ≤ n) :
    runWithin options llvm n (.ofSource file source) =
      some (run options llvm (.ofSource file source)) := by
  unfold runWithin run
  cases next : (Feed.ofSource file source).next with
  | mk fault f =>
    cases fault with
    | some fault => rfl
    | none =>
      obtain ⟨closes, current, supply⟩ := supply_of_first next
      dsimp only
      rw [loopWithin_eq closes current (supply ▸ enough)]
      rfl

end

/-- **All reading comes to an end.** The lexer of a source, whatever is wrong with the source,
delivers the tokens of its supply.

* A scan reads at most once for each character that is left.
* A parse moves past tokens other than the end of the input, no more than there are, whatever
  the operators; and a budget of so many requests is enough for it.
* Each round of a session passes such a token; so the rounds that are finished, and the one that
  is begun, are together no more than the tokens of the source, whatever the operators of the
  session and whatever its statements come to; and a budget of so many is enough for the loop.
-/
theorem reading_comes_to_end (file : String) (source : Source) :
    (Lexer.ofSource file source).Delivers (Feed.ofSource file source).supply ∧
    (∀ s : Scanner, ∃ n ≤ s.remaining, Scanner.after s.next = s.readTimes n) ∧
    (∀ (ops : Operators) (f : Feed),
      (∃ ts g, f.Passes ts g ∧ (∀ t ∈ ts, t.kind ≠ .endOfInput) ∧ ts.length ≤ f.supply.length ∧
        ((statement ops f).outcome.rest = g ∨ ∃ t fault, g.current = some t ∧
          t.kind ≠ .endOfInput ∧ g.next = (some fault, (statement ops f).outcome.rest))) ∧
      ∀ n, f.supply.length ≤ n → statementWithin ops n f = some (statement ops f).outcome) ∧
    (∀ f, (Feed.ofSource file source).next = (none, f) → ∀ llvm s,
      (∀ n t g, rounds llvm s f n = some (t, g) →
        n + (!g.atEnd).toNat ≤ (Feed.ofSource file source).supply.length ∧
        ∀ u h, round? llvm t g = some (u, h) →
          ∃ ts, g.Passes ts h ∧ ∃ t ∈ ts, t.kind ≠ .endOfInput) ∧
      ∀ n, (Feed.ofSource file source).supply.length ≤ n →
        loopWithin llvm n s f = some (loop llvm s f)) ∧
    ∀ options llvm n, (Feed.ofSource file source).supply.length ≤ n →
      runWithin options llvm n (.ofSource file source) =
        some (run options llvm (.ofSource file source)) := by
  refine ⟨Feed.delivers_supply file source, Scanner.exists_reads_next,
    fun ops f => ⟨statement_passes ops f, fun n enough => statementWithin_eq enough⟩,
    fun f next llvm s => ⟨fun n t g reached => ?_, fun n enough => ?_⟩,
    fun options llvm n enough => runWithin_eq options llvm enough⟩
  · obtain ⟨closes, current, supply⟩ := supply_of_first next
    obtain ⟨closes, current, le⟩ := length_rounds_le closes current reached
    rw [supply] at le
    refine ⟨?_, fun u h round => ?_⟩
    · cases ended : g.atEnd with
      | true => exact Nat.le_trans (Nat.le_add_right n _) le
      | false =>
        have pos := supply_pos current ended
        rw [Bool.not_false, Bool.toNat_true]
        omega
    · obtain ⟨m, move, -⟩ := move?_of_round? round
      obtain ⟨ts, passing⟩ := exists_passing current move
      exact ⟨ts, passing.passes, passing.exists_more⟩
  · obtain ⟨closes, current, supply⟩ := supply_of_first next
    exact loopWithin_eq closes current (supply ▸ enough)

/-- Two tokens stand in front of a foreign character: the first round passes one of them, and the
second one is broken off at the other. -/
theorem reading_comes_to_end_of_foreign :
    ∃ f t g, (Feed.ofSource "<stdin>" (.ofString "1; é")).next = (none, f) ∧
      f.supply.length = 2 ∧ statementWithin .standard 2 f = some (statement .standard f).outcome ∧
      round? .standard (ofOptions {}).prompt f = some (t, g) ∧
      g.atEnd = false ∧ 1 + (!g.atEnd).toNat ≤ 2 ∧
      (∃ ts, f.Passes ts g ∧ ∃ t ∈ ts, t.kind ≠ .endOfInput) ∧
      loopWithin .standard 2 (ofOptions {}).prompt f =
        some (loop .standard (ofOptions {}).prompt f) ∧
      runWithin {} .standard 2 (.ofSource "<stdin>" (.ofString "1; é")) =
        some (run {} .standard (.ofSource "<stdin>" (.ofString "1; é"))) := by
  obtain ⟨-, -, parses, loops, runs⟩ := reading_comes_to_end "<stdin>" (.ofString "1; é")
  have supply : (Feed.ofSource "<stdin>" (.ofString "1; é")).supply.length = 2 := by
    decide +kernel
  have first : (Feed.ofSource "<stdin>" (.ofString "1; é")).next =
      (none, (Feed.ofSource "<stdin>" (.ofString "1; é")).next.2) :=
    Prod.ext (by decide +kernel) rfl
  have evaluated : (round? .standard (ofOptions {}).prompt
      (Feed.ofSource "<stdin>" (.ofString "1; é")).next.2).any (fun here => !here.2.atEnd) = true := by
    decide +kernel
  generalize (Feed.ofSource "<stdin>" (.ofString "1; é")).next.2 = f at first evaluated
  obtain ⟨⟨t, g⟩, round, more⟩ := (Option.any_eq_true _ _).mp evaluated
  obtain ⟨counted, budget⟩ := loops f first .standard (ofOptions {}).prompt
  obtain ⟨le, -⟩ := counted 1 t g round
  obtain ⟨-, passed⟩ := counted 0 (ofOptions {}).prompt f rfl
  have whole : f.supply.length = 2 := by rw [(supply_of_first first).2.2, supply]
  have enough := Nat.le_of_eq supply
  exact ⟨f, t, g, first, whole, (parses .standard f).2 2 (Nat.le_of_eq whole), round,
    (Bool.not_eq_true' _).mp more, Nat.le_trans le enough, passed t g round, budget 2 enough,
    runs {} .standard 2 enough⟩

end Reckoner.Session
