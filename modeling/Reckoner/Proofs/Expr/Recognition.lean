import Reckoner.Proofs.Expr.Climbing

/-! What the parser accepts.

The parser finds a construct if and only if the tokens that it passes derive it, and the
token behind them does not go on with it. One direction follows the recursion of the parser:
what is found for smaller feeds derives what it should (`ReadsPrimaries`), and every function
of the parser calls the others on smaller feeds only. The other direction follows the
derivation. It needs a table that leaves the symbols of the grammar alone: a comma that was
an operator would never end an argument. -/
namespace Reckoner.Expr

open Outcome Feed

/-! ### The current token -/

section
variable {ε : Type} {f : Feed ε}

theorem symbol?_iff {s : String} :
    symbol? f s = true ↔ ∃ t, f.current = some t ∧ t.isSymbol s = true := by
  unfold symbol?
  cases f.current <;> simp

theorem at?_iff {k : Token.Kind} : at? f k = true ↔ ∃ t, f.current = some t ∧ t.kind = k := by
  unfold at?
  cases f.current <;> simp

theorem start?_eq_some_iff {s : Start} :
    start? f = some s ↔ ∃ t, f.current = some t ∧ Starts t s := by
  unfold start?
  rw [Option.bind_eq_some_iff]
  refine exists_congr fun t => and_congr_right fun _ => ⟨fun h => ?_, ?_⟩
  · split at h
    · cases h
      exact .number ‹_›
    · cases h
      exact .name ‹_›
    · split at h
      · cases h
        exact .condition ‹_›
      · split at h
        · cases h
          exact .opening ‹_›
        · cases h
  · rintro (number | name | condition | opening)
    · simp [number]
    · simp [Token.number?, Token.kind_of_name? name, name]
    · simp [Token.number?, Token.name?, condition]
    · simp [Token.number?, Token.name?, Token.kind_of_isSymbol opening, opening]

theorem place_eq {t : Token} (current : f.current = some t) : place f = t.location := by
  rw [place, current]
  rfl

end

variable {ops : Operators} {f g : Feed} {e : Expr} {ts us : List Token} {chain : List Link}

/-! ### Where there is no operator -/

/-- A precedence is negative where there is no operator. -/
theorem level_neg_iff :
    level ops f < 0 ↔ ∀ t s p, f.current = some t → ¬IsOperator ops t s p := by
  constructor
  · intro low t s p current operator
    rw [level_eq current operator] at low
    omega
  · intro none
    by_contra high
    obtain ⟨t, s, p, current, operator⟩ := exists_operator (Int.not_lt.mp high)
    exact none t s p current operator

theorem level_neg_of_symbol {s : String} (h : symbol? f s = true) (free : ops.lookup s = none) :
    level ops f < 0 := by
  refine level_neg_iff.mpr fun t r p current operator => ?_
  obtain ⟨t, current', symbol⟩ := symbol?_iff.mp h
  cases current.symm.trans current'
  have symbol : t.symbol? = some s := of_decide_eq_true symbol
  cases symbol.symm.trans operator.symbol
  cases free.symm.trans operator.level

theorem symbol?_eq_false_of_level {s : String} (goes : 0 ≤ level ops f) (free : ops.lookup s = none) :
    symbol? f s = false := by
  by_contra some
  have := level_neg_of_symbol (Bool.not_eq_false _ |>.mp some) free
  omega

theorem level_neg_of_at {k : Token.Kind} (h : at? f k = true) (ne : k ≠ .symbol) :
    level ops f < 0 := by
  refine level_neg_iff.mpr fun t r p current operator => ?_
  obtain ⟨t, current', kind⟩ := at?_iff.mp h
  cases current.symm.trans current'
  exact ne (kind ▸ Token.kind_of_symbol? operator.symbol)

theorem symbol?_eq_false_of_at {k : Token.Kind} (h : at? f k = true) (ne : k ≠ .symbol) (s : String) :
    symbol? f s = false := by
  obtain ⟨t, current, kind⟩ := at?_iff.mp h
  rw [symbol?, current]
  exact Token.isSymbol_eq_false (kind ▸ ne) s

theorem symbol?_eq_false_of_ne {r s : String} (h : symbol? f r = true) (ne : r ≠ s) :
    symbol? f s = false := by
  obtain ⟨t, current, symbol⟩ := symbol?_iff.mp h
  rw [symbol?, current]
  exact Token.isSymbol_eq_false_of_ne symbol ne

/-! ### Ends -/

theorem ends_iff :
    Ends ops ts g ↔ level ops g < 0 ∧ (IsBare ts → symbol? g "(" = false) := by
  rw [level_neg_iff]
  exact ⟨fun h => ⟨h.operator, h.bare⟩, fun h => ⟨h.1, h.2⟩⟩

/-- An expression ends where a symbol of the grammar closes it. -/
theorem ends_of_symbol {s : String} (h : symbol? g s = true) (free : ops.lookup s = none)
    (ne : s ≠ "(") : Ends ops ts g :=
  ends_iff.mpr ⟨level_neg_of_symbol h free, fun _ => symbol?_eq_false_of_ne h ne⟩

/-- An expression ends at a keyword. -/
theorem ends_of_at {w : Token.Keyword} (h : at? g (.keyword w) = true) : Ends ops ts g :=
  ends_iff.mpr ⟨level_neg_of_at h nofun, fun _ => symbol?_eq_false_of_at h nofun _⟩

/-- What ends somewhere ends its last part there. -/
theorem Ends.behind (ts : List Token) (h : Ends ops (ts ++ us) g) : Ends ops us g := by
  refine ⟨h.operator, fun bare => h.bare ((isBare_append ts ?_).mpr bare)⟩
  rintro rfl
  exact not_isBare_nil bare

variable (ops) in
/-- At `g` a primary with the tokens `ts` is at its end, and may be an operand of a chain. -/
structure OperandEnds (ts : List Token) (g : Feed) : Prop where
  operator : IsOpen ts → level ops g < 0
  bare : IsBare ts → symbol? g "(" = false

/-- Behind a name at the end of the first of two parts, or of the second. -/
theorem bare_append (passes : f.Passes us g) (first : IsBare ts → symbol? f "(" = false)
    (last : IsBare us → symbol? g "(" = false) (bare : IsBare (ts ++ us)) :
    symbol? g "(" = false := by
  by_cases none : us = []
  · subst none
    rw [List.append_nil] at bare
    exact passes_nil_iff.mp passes ▸ first bare
  · exact last ((isBare_append ts none).mp bare)

/-! ### What is found is derived -/

variable (ops) in
/-- What is found for feeds smaller than `n` is derived by the tokens passed. -/
def ReadsPrimaries (n : Nat) : Prop :=
  ∀ {f : Feed} {e : Expr} {g : Feed}, f.size < n → (primary ops f).outcome = .found e g →
    ∃ ts, f.Passes ts g ∧ DerivesPrimary ops ts e ∧ OperandEnds ops ts g

section
variable {n : Nat}

theorem derives_of_chained (reads : ReadsPrimaries ops n) (small : f.size ≤ n)
    (chained : Chained ops f chain g) (stops : level ops g < 0) :
    ∃ us, f.Passes us g ∧ DerivesChain ops us chain ∧ (IsBare us → symbol? g "(" = false) := by
  induction chained with
  | nil => exact ⟨[], .nil, .nil, fun bare => absurd bare not_isBare_nil⟩
  | cons current operator next operand rest ih =>
    have moved := Feed.size_next_lt next (operator.atEnd current)
    have went := Parse.size_of_found operand
    obtain ⟨ts, passes, primary, ends⟩ := reads (by omega) operand
    obtain ⟨us, passes', derives, bare⟩ := ih (by omega) stops
    refine ⟨_ :: (ts ++ us), .cons current next (passes_append_iff.mpr ⟨_, passes, passes'⟩),
      .cons operator primary ?_ derives, ?_⟩
    · exact fun opened => derives.eq_nil_iff.mpr (rest.eq_nil_of_level (ends.operator opened))
    · rw [← List.cons_append]
      exact bare_append passes' (fun h => ends.bare ((isBare_cons _ primary.ne_nil).mp h)) bare

theorem derives_of_expression (reads : ReadsPrimaries ops n) (small : f.size < n)
    (h : (expression ops f).outcome = .found e g) :
    ∃ ts, f.Passes ts g ∧ DerivesExpression ops ts e ∧ Ends ops ts g := by
  obtain ⟨first, k, chain, found, chained, stops, rfl⟩ := expression_found_iff.mp h
  have went := Parse.size_of_found found
  obtain ⟨ts, passes, primary, ends⟩ := reads small found
  obtain ⟨us, passes', derives, bare⟩ := derives_of_chained reads (by omega) chained stops
  refine ⟨ts ++ us, passes_append_iff.mpr ⟨k, passes, passes'⟩, .chain primary ?_ derives,
    ends_iff.mpr ⟨stops, bare_append passes' ends.bare bare⟩⟩
  exact fun opened => derives.eq_nil_iff.mpr (chained.eq_nil_of_level (ends.operator opened))

theorem derives_of_arguments (reads : ReadsPrimaries ops n) {name : String} {l : Option Location}
    {before : List Expr} (small : f.size < n)
    (h : (arguments ops name l before f).outcome = .found e g) :
    ∃ ts args c, f.Passes (ts ++ [c]) g ∧ DerivesArguments ops ts args ∧ c.isSymbol ")" = true ∧
      e = .call name (before.reverse ++ args) l := by
  induction f using Feed.size_induction generalizing before with
  | smaller f ih =>
    rw [outcome_arguments] at h
    obtain ⟨arg, k, first, h⟩ := andThen_eq_found_iff.mp h
    obtain ⟨ts, passes, derives, -⟩ := derives_of_expression reads small first
    have went := Parse.size_of_found first
    split at h
    · rename_i closing
      obtain ⟨c, current, closing⟩ := symbol?_iff.mp closing
      obtain ⟨m, next, h⟩ := past_eq_found_iff.mp h
      cases h
      have last := passes_singleton_iff.mpr ⟨current, next⟩
      exact ⟨ts, [arg], c, passes_append_iff.mpr ⟨k, passes, last⟩, .last derives, closing,
        by simp⟩
    · obtain ⟨comma, m, next, h⟩ := require_eq_found_iff.mp h
      obtain ⟨c, current, comma⟩ := symbol?_iff.mp comma
      have moved := Feed.size_next_le next
      obtain ⟨us, args, d, passes', derives', closing, rfl⟩ :=
        ih m (by omega) (by omega) h
      refine ⟨ts ++ c :: us, arg :: args, d, ?_, .more derives comma derives', closing, by simp⟩
      rw [List.append_assoc, List.cons_append]
      exact passes_append_iff.mpr ⟨k, passes, .cons current next passes'⟩

theorem derives_of_afterName (reads : ReadsPrimaries ops n) {t : Token} {name : String}
    (named : t.name? = some name) (small : f.size < n)
    (h : (afterName ops name t.location f).outcome = .found e g) :
    ∃ ts, f.Passes ts g ∧ DerivesPrimary ops (t :: ts) e ∧
      (IsBare (t :: ts) → symbol? g "(" = false) := by
  rw [outcome_afterName] at h
  split at h
  · rename_i opening
    obtain ⟨o, current, opening⟩ := symbol?_iff.mp opening
    obtain ⟨k, next, h⟩ := past_eq_found_iff.mp h
    have moved := Feed.size_next_le next
    split at h
    · rename_i closing
      obtain ⟨c, current', closing⟩ := symbol?_iff.mp closing
      obtain ⟨m, next', h⟩ := past_eq_found_iff.mp h
      cases h
      exact ⟨[o, c], .cons current next (passes_singleton_iff.mpr ⟨current', next'⟩),
        .call named opening closing,
        fun bare => absurd bare (not_isBare_of_symbol [t, o] closing)⟩
    · obtain ⟨ts, args, c, passes, derives, closing, rfl⟩ :=
        derives_of_arguments reads (by omega) h
      exact ⟨o :: (ts ++ [c]), .cons current next passes, .callWith named opening derives closing,
        fun bare => absurd bare (not_isBare_of_symbol (t :: o :: ts) closing)⟩
  · rename_i closed
    cases h
    exact ⟨[], .nil, .var named, fun _ => Bool.eq_false_iff.mpr closed⟩

theorem derives_of_afterOpening (reads : ReadsPrimaries ops n) {o : Token}
    (opening : o.isSymbol "(" = true) (small : f.size < n)
    (h : (afterOpening ops f).outcome = .found e g) :
    ∃ ts, f.Passes ts g ∧ DerivesPrimary ops (o :: ts) e ∧ ¬IsBare (o :: ts) := by
  rw [outcome_afterOpening] at h
  obtain ⟨a, k, inner, h⟩ := andThen_eq_found_iff.mp h
  obtain ⟨ts, passes, derives, -⟩ := derives_of_expression reads small inner
  obtain ⟨closing, m, next, h⟩ := require_eq_found_iff.mp h
  obtain ⟨c, current, closing⟩ := symbol?_iff.mp closing
  cases h
  exact ⟨ts ++ [c], passes_append_iff.mpr ⟨k, passes, passes_singleton_iff.mpr ⟨current, next⟩⟩,
    .parentheses opening derives closing, not_isBare_of_symbol (o :: ts) closing⟩

theorem derives_of_afterCondition (reads : ReadsPrimaries ops n) {i : Token}
    (condition : i.kind = .keyword .condition) (small : f.size < n)
    (h : (afterCondition ops i.location f).outcome = .found e g) :
    ∃ ts, f.Passes ts g ∧ DerivesPrimary ops (i :: ts) e ∧ OperandEnds ops (i :: ts) g := by
  rw [outcome_afterCondition] at h
  obtain ⟨x, k, first, h⟩ := andThen_eq_found_iff.mp h
  obtain ⟨is, passes, derives, -⟩ := derives_of_expression reads small first
  have went := Parse.size_of_found first
  obtain ⟨consequence, k', next, h⟩ := require_eq_found_iff.mp h
  obtain ⟨t, current, consequence⟩ := at?_iff.mp consequence
  have moved := Feed.size_next_le next
  obtain ⟨y, m, second, h⟩ := andThen_eq_found_iff.mp h
  obtain ⟨ts, passes', derives', -⟩ := derives_of_expression reads (by omega) second
  have went' := Parse.size_of_found second
  obtain ⟨alternative, m', next', h⟩ := require_eq_found_iff.mp h
  obtain ⟨a, current', alternative⟩ := at?_iff.mp alternative
  have moved' := Feed.size_next_le next'
  obtain ⟨z, q, third, h⟩ := andThen_eq_found_iff.mp h
  obtain ⟨es, passes'', derives'', ends⟩ := derives_of_expression reads (by omega) third
  cases h
  obtain ⟨low, bare⟩ := ends_iff.mp ends
  refine ⟨is ++ t :: (ts ++ a :: es), ?_,
    .conditional condition derives consequence derives' alternative derives'', fun _ => low, ?_⟩
  · have last := passes_append_iff.mpr ⟨m, passes', .cons current' next' passes''⟩
    exact passes_append_iff.mpr ⟨k, passes, .cons current next last⟩
  · intro h
    refine bare ((isBare_append (i :: (is ++ t :: (ts ++ [a]))) derives''.ne_nil).mp ?_)
    simpa using h

end

theorem readsPrimaries (n : Nat) : ReadsPrimaries ops n := by
  induction n with
  | zero =>
    intro _ _ _ small
    exact absurd small (Nat.not_lt_zero _)
  | succ n reads =>
    intro f e g small h
    rw [outcome_primary] at h
    split at h
    · cases h
    · rename_i start begins
      obtain ⟨t, current, starts⟩ := start?_eq_some_iff.mp begins
      obtain ⟨k, next, h⟩ := past_eq_found_iff.mp h
      have moved := Feed.size_next_lt next (atEnd_of_start begins)
      rw [place_eq current] at h
      cases starts with
      | number number =>
        cases h
        have kind := Token.kind_of_number? number
        refine ⟨[t], passes_singleton_iff.mpr ⟨current, next⟩, .number number, ?_, ?_⟩
        · rw [isOpen_cons_iff, kind]
          exact nofun
        · rintro ⟨_, last, name⟩
          cases last
          obtain ⟨m, name⟩ := Option.isSome_iff_exists.mp name
          cases kind.symm.trans (Token.kind_of_name? name)
      | name named =>
        obtain ⟨ts, passes, derives, bare⟩ := derives_of_afterName reads named (by omega) h
        refine ⟨t :: ts, .cons current next passes, derives, ?_, bare⟩
        rw [isOpen_cons_iff, Token.kind_of_name? named]
        exact nofun
      | condition condition =>
        obtain ⟨ts, passes, derives, ends⟩ :=
          derives_of_afterCondition reads condition (by omega) h
        exact ⟨t :: ts, .cons current next passes, derives, ends⟩
      | opening opening =>
        obtain ⟨ts, passes, derives, closed⟩ := derives_of_afterOpening reads opening (by omega) h
        refine ⟨t :: ts, .cons current next passes, derives, ?_, fun bare => absurd bare closed⟩
        rw [isOpen_cons_iff, Token.kind_of_isSymbol opening]
        exact nofun

theorem derives_of_found (h : (expression ops f).outcome = .found e g) :
    ∃ ts, f.Passes ts g ∧ DerivesExpression ops ts e ∧ Ends ops ts g :=
  derives_of_expression (readsPrimaries _) (Nat.lt_succ_self f.size) h

/-! ### What is derived is found -/

section
variable (plain : ops.IsPlain)
include plain

/-- An operand is at its end where the rest of its chain starts. -/
theorem operandEnds (last : IsOpen ts → us = []) (derives : DerivesChain ops us chain)
    (passes : f.Passes us g) (ends : Ends ops (ts ++ us) g) : OperandEnds ops ts f := by
  obtain ⟨low, bare⟩ := ends_iff.mp ends
  constructor
  · intro opened
    cases last opened
    rwa [passes_nil_iff.mp passes]
  · intro h
    cases derives with
    | nil =>
      rw [List.append_nil] at bare
      exact passes_nil_iff.mp passes ▸ bare h
    | cons operator _ _ _ =>
      obtain ⟨current, -⟩ := passes_cons_iff.mp passes
      rw [symbol?, current]
      exact operator.isSymbol_eq_false plain.opening

mutual

theorem primary_of_derives {ts : List Token} {e : Expr} {f g : Feed} :
    DerivesPrimary ops ts e → f.Passes ts g → OperandEnds ops ts g →
      (primary ops f).outcome = .found e g
  | .number value, passes, _ => by
    obtain ⟨current, next⟩ := passes_singleton_iff.mp passes
    rw [outcome_primary, start?_eq_some_iff.mpr ⟨_, current, .number value⟩]
    simp only [past_of_next next, place_eq current]
  | .var named, passes, ends => by
    obtain ⟨current, next⟩ := passes_singleton_iff.mp passes
    have bare := ends.bare ⟨_, rfl, Option.isSome_of_eq_some named⟩
    rw [outcome_primary, start?_eq_some_iff.mpr ⟨_, current, .name named⟩]
    simp only [past_of_next next, place_eq current, outcome_afterName, bare, Bool.false_eq_true,
      if_false]
  | .call named opening closing, passes, _ => by
    obtain ⟨current, k, next, passes⟩ := passes_cons_iff.mp passes
    obtain ⟨current', k', next', passes⟩ := passes_cons_iff.mp passes
    obtain ⟨current'', next''⟩ := passes_singleton_iff.mp passes
    rw [outcome_primary, start?_eq_some_iff.mpr ⟨_, current, .name named⟩]
    simp only [past_of_next next, place_eq current, outcome_afterName,
      symbol?_iff.mpr ⟨_, current', opening⟩, past_of_next next',
      symbol?_iff.mpr ⟨_, current'', closing⟩, past_of_next next'', if_true]
  | .callWith named opening args closing, passes, _ => by
    obtain ⟨current, k, next, passes⟩ := passes_cons_iff.mp passes
    obtain ⟨current', k', next', passes⟩ := passes_cons_iff.mp passes
    have more : symbol? k' ")" = false := by
      obtain ⟨t, s, us, rfl, starts⟩ := args.exists_starts
      obtain ⟨current, -⟩ := passes_cons_iff.mp passes
      rw [symbol?, current]
      exact starts.isSymbol_closing
    rw [outcome_primary, start?_eq_some_iff.mpr ⟨_, current, .name named⟩]
    simp only [past_of_next next, place_eq current, outcome_afterName,
      symbol?_iff.mpr ⟨_, current', opening⟩, past_of_next next', more, if_true,
      Bool.false_eq_true, if_false]
    exact arguments_of_derives args closing passes
  | .parentheses opening inner closing, passes, _ => by
    obtain ⟨current, k, next, passes⟩ := passes_cons_iff.mp passes
    obtain ⟨k', passes, last⟩ := passes_append_iff.mp passes
    obtain ⟨current', next'⟩ := passes_singleton_iff.mp last
    have closed := symbol?_iff.mpr ⟨_, current', closing⟩
    have found := expression_of_derives inner passes
      (ends_of_symbol closed plain.closing (by decide))
    rw [outcome_primary, start?_eq_some_iff.mpr ⟨_, current, .opening opening⟩]
    simp only [past_of_next next, outcome_afterOpening, found, found_andThen, require, closed,
      past_of_next next', if_true]
  | .conditional condition first consequence second alternative third, passes, ends => by
    obtain ⟨current, k, next, passes⟩ := passes_cons_iff.mp passes
    obtain ⟨k', passes₁, passes⟩ := passes_append_iff.mp passes
    obtain ⟨current', m, next', passes⟩ := passes_cons_iff.mp passes
    obtain ⟨m', passes₂, passes⟩ := passes_append_iff.mp passes
    obtain ⟨current'', q, next'', passes₃⟩ := passes_cons_iff.mp passes
    have between := at?_iff.mpr ⟨_, current', consequence⟩
    have between' := at?_iff.mpr ⟨_, current'', alternative⟩
    have found₁ := expression_of_derives first passes₁ (ends_of_at between)
    have found₂ := expression_of_derives second passes₂ (ends_of_at between')
    have found₃ := expression_of_derives third passes₃ (ends_iff.mpr
      ⟨ends.operator (isOpen_cons_iff.mpr condition), fun bare => ends.bare ?_⟩)
    · rw [outcome_primary, start?_eq_some_iff.mpr ⟨_, current, .condition condition⟩]
      simp only [past_of_next next, place_eq current, outcome_afterCondition, found₁, found₂,
        found₃, found_andThen, require, between, between', past_of_next next', past_of_next next'',
        if_true]
    · rw [isBare_cons _ (by simp), isBare_append _ (by simp), isBare_cons _ (by simp),
        isBare_append _ (by simp), isBare_cons _ third.ne_nil]
      exact bare

theorem arguments_of_derives {ts : List Token} {args before : List Expr} {c : Token} {n : String}
    {l : Option Location} {f g : Feed} :
    DerivesArguments ops ts args → c.isSymbol ")" = true → f.Passes (ts ++ [c]) g →
      (arguments ops n l before f).outcome = .found (.call n (before.reverse ++ args) l) g
  | .last only, closing, passes => by
    obtain ⟨k, passes, last⟩ := passes_append_iff.mp passes
    obtain ⟨current, next⟩ := passes_singleton_iff.mp last
    have closed := symbol?_iff.mpr ⟨_, current, closing⟩
    have found := expression_of_derives only passes
      (ends_of_symbol closed plain.closing (by decide))
    rw [outcome_arguments, found]
    simp only [found_andThen, closed, past_of_next next, List.reverse_cons, if_true]
  | .more first comma others, closing, passes => by
    rw [List.append_assoc, List.cons_append] at passes
    obtain ⟨k, passes, rest⟩ := passes_append_iff.mp passes
    obtain ⟨current, k', next, rest⟩ := passes_cons_iff.mp rest
    have between := symbol?_iff.mpr ⟨_, current, comma⟩
    have found := expression_of_derives first passes
      (ends_of_symbol between plain.comma (by decide))
    have more := symbol?_eq_false_of_ne between (by decide : "," ≠ ")")
    rw [outcome_arguments, found]
    simp only [found_andThen, require, more, between, past_of_next next, Bool.false_eq_true,
      if_false, if_true]
    rw [arguments_of_derives others closing rest]
    simp

theorem chained_of_derives {us : List Token} {chain : List Link} {f g : Feed} :
    DerivesChain ops us chain → f.Passes us g → Ends ops us g → Chained ops f chain g
  | .nil, passes, _ => by
    cases passes_nil_iff.mp passes
    exact .nil
  | .cons operator operand last others, passes, ends => by
    obtain ⟨current, k, next, passes⟩ := passes_cons_iff.mp passes
    obtain ⟨m, passes, rest⟩ := passes_append_iff.mp passes
    have ends := ends.behind [_]
    have found := primary_of_derives operand passes (operandEnds plain last others rest ends)
    exact .cons current operator next found (chained_of_derives others rest (ends.behind _))

theorem expression_of_derives {ts : List Token} {e : Expr} {f g : Feed} :
    DerivesExpression ops ts e → f.Passes ts g → Ends ops ts g →
      (expression ops f).outcome = .found e g
  | .chain first last others, passes, ends => by
    obtain ⟨k, passes, rest⟩ := passes_append_iff.mp passes
    have found := primary_of_derives first passes (operandEnds plain last others rest ends)
    have chained := chained_of_derives others rest (ends.behind _)
    exact expression_found_iff.mpr ⟨_, k, _, found, chained, (ends_iff.mp ends).1, rfl⟩

end

/-- A chain is read up to an operator that goes on with it, whatever stands behind that. -/
theorem chained_of_closed (closed : DerivesClosed ops us chain) (passes : f.Passes us g)
    (goes : 0 ≤ level ops g) : Chained ops f chain g := by
  induction closed generalizing f with
  | nil =>
    cases passes_nil_iff.mp passes
    exact .nil
  | cons operator operand shut _ ih =>
    obtain ⟨current, k, next, passes⟩ := passes_cons_iff.mp passes
    obtain ⟨m, passes, rest⟩ := passes_append_iff.mp passes
    have chained := ih rest
    have ends : OperandEnds ops _ m := ⟨fun opened => absurd opened shut, fun _ =>
      symbol?_eq_false_of_level (chained.level_nonneg goes) plain.opening⟩
    exact .cons current operator next (primary_of_derives plain operand passes ends) chained

end

end Reckoner.Expr
