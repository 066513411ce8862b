import Reckoner.Proofs.Expr.Places
import Reckoner.Proofs.Expr.Recognition

/-! The language of the parser.

Statements are recognized as expressions are (`derives_of_statement`,
`statement_of_derives`), and a parse on a finite stream of tokens is never stopped: it is
found or refused (`found_or_refused`). So the parser accepts the grammar, neither more nor
less, and a chain of operators comes to its group. -/
namespace Reckoner.Expr

open Outcome Feed

variable {ops : Operators} {f g : Feed} {e : Expr} {ts us : List Token} {chain : List Link}

theorem derives_of_parameters {before ps : List String}
    (h : (parameters before f).outcome = .found ps g) :
    ∃ ts qs, f.Passes ts g ∧ DerivesParameters ts qs ∧ ps = before.reverse ++ qs := by
  induction f using Feed.size_induction generalizing before with
  | smaller f ih =>
    rw [outcome_parameters] at h
    split at h
    · cases h
      exact ⟨[], [], .nil, .none, (List.append_nil _).symm⟩
    · rename_i p name
      obtain ⟨t, current, named⟩ := Option.bind_eq_some_iff.mp name
      obtain ⟨k, next, h⟩ := past_eq_found_iff.mp h
      have moved := Feed.size_next_lt next (atEnd_of_name name)
      split at h
      · rename_i comma
        obtain ⟨c, current', comma⟩ := symbol?_iff.mp comma
        obtain ⟨m, next', h⟩ := past_eq_found_iff.mp h
        have moved' := Feed.size_next_le next'
        obtain ⟨ts, qs, passes, derives, rfl⟩ := ih m (by omega) h
        exact ⟨t :: c :: ts, p :: qs, .cons current next (.cons current' next' passes),
          .more named comma derives, by simp⟩
      · cases h
        exact ⟨[t], [p], passes_singleton_iff.mpr ⟨current, next⟩, .last named, by simp⟩

theorem name?_eq_none_of_symbol {s : String} (h : symbol? f s = true) : name? f = none := by
  obtain ⟨t, current, symbol⟩ := symbol?_iff.mp h
  rw [name?, current, Option.bind_some]
  cases name : t.name? with
  | none => rfl
  | some n => cases (Token.kind_of_name? name).symm.trans (Token.kind_of_isSymbol symbol)

theorem parameters_of_derives {before qs : List String} (derives : DerivesParameters ts qs)
    (passes : f.Passes ts g) (closed : symbol? g ")" = true) :
    (parameters before f).outcome = .found (before.reverse ++ qs) g := by
  induction derives generalizing f before with
  | none =>
    cases passes_nil_iff.mp passes
    rw [outcome_parameters, name?_eq_none_of_symbol closed, List.append_nil]
  | last named =>
    obtain ⟨current, next⟩ := passes_singleton_iff.mp passes
    rw [outcome_parameters, name?, current, Option.bind_some, named]
    simp only [past_of_next next, symbol?_eq_false_of_ne closed (by decide : ")" ≠ ","),
      List.reverse_cons, Bool.false_eq_true, if_false]
  | more named comma _ ih =>
    obtain ⟨current, k, next, passes⟩ := passes_cons_iff.mp passes
    obtain ⟨current', m, next', passes⟩ := passes_cons_iff.mp passes
    rw [outcome_parameters, name?, current, Option.bind_some, named]
    simp only [past_of_next next, symbol?_iff.mpr ⟨_, current', comma⟩, past_of_next next', if_true]
    rw [ih passes]
    simp

theorem signature_found_iff {p : Prototype} :
    (signature f).outcome = .found p g ↔ ∃ ts, f.Passes ts g ∧ DerivesSignature ts p := by
  rw [outcome_signature]
  constructor
  · intro h
    split at h
    · cases h
    · rename_i n name
      obtain ⟨t, current, named⟩ := Option.bind_eq_some_iff.mp name
      obtain ⟨k, next, h⟩ := past_eq_found_iff.mp h
      obtain ⟨opening, m, next', h⟩ := require_eq_found_iff.mp h
      obtain ⟨o, current', opening⟩ := symbol?_iff.mp opening
      obtain ⟨ps, q, params, h⟩ := andThen_eq_found_iff.mp h
      obtain ⟨ts, qs, passes, derives, rfl⟩ := derives_of_parameters params
      obtain ⟨closing, r, next'', h⟩ := require_eq_found_iff.mp h
      obtain ⟨c, current'', closing⟩ := symbol?_iff.mp closing
      cases h
      rw [place_eq current]
      refine ⟨t :: o :: (ts ++ [c]), .cons current next (.cons current' next' ?_),
        .parameters named opening derives closing⟩
      exact passes_append_iff.mpr ⟨q, passes, passes_singleton_iff.mpr ⟨current'', next''⟩⟩
  · rintro ⟨_, passes, ⟨named, opening, derives, closing⟩⟩
    obtain ⟨current, k, next, passes⟩ := passes_cons_iff.mp passes
    obtain ⟨current', m, next', passes⟩ := passes_cons_iff.mp passes
    obtain ⟨q, passes, last⟩ := passes_append_iff.mp passes
    obtain ⟨current'', next''⟩ := passes_singleton_iff.mp last
    have closed := symbol?_iff.mpr ⟨_, current'', closing⟩
    have name : name? f = some _ := Option.bind_eq_some_iff.mpr ⟨_, current, named⟩
    rw [name]
    simp only [past_of_next next, require, symbol?_iff.mpr ⟨_, current', opening⟩,
      past_of_next next', parameters_of_derives derives passes closed, found_andThen, closed,
      past_of_next next'', place_eq current, List.reverse_nil, List.nil_append, if_true]

/-- What starts an expression is no keyword of a statement. -/
theorem at?_eq_false_of_derives {w : Token.Keyword} (derives : DerivesExpression ops ts e)
    (passes : f.Passes ts g) (statement : w ≠ .condition) : at? f (.keyword w) = false := by
  obtain ⟨t, s, us, rfl, starts⟩ := derives.exists_starts
  obtain ⟨current, -⟩ := passes_cons_iff.mp passes
  rw [at?, current, Option.any_some]
  cases starts with
  | number value => simp [Token.kind_of_number? value]
  | name name => simp [Token.kind_of_name? name]
  | condition kind => simp [kind, statement.symm]
  | opening symbol => simp [Token.kind_of_isSymbol symbol]

theorem derives_of_statement (h : (statement ops f).outcome = .found e g) :
    ∃ ts, f.Passes ts g ∧ DerivesStatement ops ts e ∧ StatementEnds ops e ts g := by
  rw [outcome_statement] at h
  split at h
  · rw [outcome_definition] at h
    obtain ⟨define, k, next, h⟩ := require_eq_found_iff.mp h
    obtain ⟨d, current, define⟩ := at?_iff.mp define
    obtain ⟨p, m, signature, h⟩ := andThen_eq_found_iff.mp h
    obtain ⟨ts, passes, head⟩ := signature_found_iff.mp signature
    obtain ⟨body, q, found, h⟩ := andThen_eq_found_iff.mp h
    obtain ⟨us, passes', derives, ends⟩ := derives_of_found found
    cases h
    rw [place_eq current]
    refine ⟨d :: (ts ++ us), .cons current next (passes_append_iff.mpr ⟨m, passes, passes'⟩),
      .definition define head derives, ?_⟩
    exact ⟨ends.operator, fun bare => ends.bare ((isBare_append (d :: ts) derives.ne_nil).mp bare)⟩
  · split at h
    · rw [outcome_declaration] at h
      obtain ⟨declare, k, next, h⟩ := require_eq_found_iff.mp h
      obtain ⟨d, current, declare⟩ := at?_iff.mp declare
      rw [outcome_prototypeAlone] at h
      obtain ⟨p, m, signature, h⟩ := andThen_eq_found_iff.mp h
      obtain ⟨ts, passes, head⟩ := signature_found_iff.mp signature
      cases h
      exact ⟨d :: ts, .cons current next passes, .declaration declare head, trivial⟩
    · rw [outcome_bareExpression] at h
      obtain ⟨body, k, found, h⟩ := andThen_eq_found_iff.mp h
      obtain ⟨ts, passes, derives, ends⟩ := derives_of_found found
      cases h
      exact ⟨ts, passes, .bare derives, ends⟩

theorem statement_of_derives (plain : ops.IsPlain) (derives : DerivesStatement ops ts e)
    (passes : f.Passes ts g) (ends : StatementEnds ops e ts g) :
    (statement ops f).outcome = .found e g := by
  rw [outcome_statement]
  cases derives with
  | definition define head body =>
    obtain ⟨current, k, next, passes⟩ := passes_cons_iff.mp passes
    obtain ⟨m, passes, rest⟩ := passes_append_iff.mp passes
    have here := at?_iff.mpr ⟨_, current, define⟩
    have found := expression_of_derives plain body rest (Ends.behind (_ :: _) ends)
    rw [if_pos here, outcome_definition]
    simp only [require, here, past_of_next next, signature_found_iff.mpr ⟨_, passes, head⟩,
      found_andThen, found, place_eq current, if_true]
  | declaration declare head =>
    obtain ⟨current, k, next, passes⟩ := passes_cons_iff.mp passes
    have here := at?_iff.mpr ⟨_, current, declare⟩
    have other : at? f (.keyword .define) = false := by
      simp [at?, current, declare]
    rw [if_neg (by simp [other]), if_pos here, outcome_declaration]
    simp only [require, here, past_of_next next, outcome_prototypeAlone,
      signature_found_iff.mpr ⟨_, passes, head⟩, found_andThen, if_true]
  | bare body =>
    have define := at?_eq_false_of_derives body passes (by decide : Token.Keyword.define ≠ _)
    have declare := at?_eq_false_of_derives body passes (by decide : Token.Keyword.declare ≠ _)
    rw [if_neg (by simp [define]), if_neg (by simp [declare]), outcome_bareExpression]
    rw [expression_of_derives plain body passes ends, found_andThen]

/-! ### The whole parser -/

theorem isPlain_standard : Operators.standard.IsPlain :=
  ⟨by decide, by decide, by decide⟩

theorem lockstep_eq : Lockstep id ops fun f g => f = g ∧ f.IsStream where
  current := by
    rintro f _ ⟨rfl, -⟩
    rfl
  next := by
    rintro f _ t ⟨rfl, stream⟩ - -
    obtain ⟨g, next, stream⟩ := stream.next
    exact .inl ⟨g, g, next, next, rfl, stream⟩

/-- On a stream of tokens a parse comes to an end of its own. -/
theorem found_or_refused (ops : Operators) (stream : f.IsStream) :
    (∃ e g, (statement ops f).outcome = .found e g) ∨
      ∃ fault g, (statement ops f).outcome = .refused fault g := by
  have alike := statement_alike (lockstep_eq : Lockstep id ops _) ⟨rfl, stream⟩
  generalize (statement ops f).outcome = x at alike
  cases alike with
  | found => exact .inl ⟨_, _, rfl⟩
  | refused => exact .inr ⟨_, _, rfl⟩
  | stopped broken => exact broken.elim

/-- **The parser accepts its grammar**, neither more nor less. On a stream of tokens a
statement is found if and only if the tokens that are passed derive it, and it ends behind
them. If there are no such tokens, the parse is refused. -/
theorem statement_recognizes (plain : ops.IsPlain) (stream : f.IsStream) :
    (∀ e g, (statement ops f).outcome = .found e g ↔
      ∃ ts, f.Passes ts g ∧ DerivesStatement ops ts e ∧ StatementEnds ops e ts g) ∧
    ((∃ fault g, (statement ops f).outcome = .refused fault g) ↔
      ∀ ts e g, f.Passes ts g → DerivesStatement ops ts e → ¬StatementEnds ops e ts g) := by
  refine ⟨fun e g => ⟨derives_of_statement, ?_⟩, ?_, fun none => ?_⟩
  · rintro ⟨ts, passes, derives, ends⟩
    exact statement_of_derives plain derives passes ends
  · rintro ⟨fault, h, refused⟩ ts e g passes derives ends
    cases refused.symm.trans (statement_of_derives plain derives passes ends)
  · rcases found_or_refused ops stream with ⟨e, g, found⟩ | refused
    · obtain ⟨ts, passes, derives, ends⟩ := derives_of_statement found
      exact absurd ends (none ts e g passes derives)
    · exact refused

/-- The stream of a name, an operator and another name. -/
def sum : Feed where
  current := some ⟨.identifier, "a", some (.text "a"), none⟩
  ahead := [.ok ⟨.symbol, "+", some (.text "+"), none⟩, .ok ⟨.identifier, "b", some (.text "b"), none⟩]

theorem isStream_sum : sum.IsStream :=
  ⟨by simp [sum], none, rfl⟩

/-- A sum of two names is accepted. -/
theorem statement_recognizes_sum : Operators.standard.IsPlain ∧ sum.IsStream ∧
    ∃ e g, (statement .standard sum).outcome = .found e g := by
  refine ⟨isPlain_standard, isStream_sum, _, _,
    ((statement_recognizes isPlain_standard isStream_sum).1 _ _).mpr
      ⟨_, .cons rfl rfl (.cons rfl rfl (.cons rfl rfl .nil)),
        .bare (.chain (.var rfl) ?_ (.cons ⟨rfl, rfl⟩ (.var rfl) ?_ .nil)), ?_, ?_⟩⟩
  · exact fun opened => absurd (isOpen_cons_iff.mp opened) (by decide)
  · exact fun _ => rfl
  · rintro t s p ⟨⟩ operator
    cases operator.symbol
  · exact fun _ => rfl

section
variable (plain : ops.IsPlain) (m : Nat) (lhs : Expr) (above : ∀ x ∈ chain, m ≤ x.level)
  (passes : f.Passes us g)
include plain above passes

theorem operations_of_derives (derives : DerivesChain ops us chain) (ends : Ends ops us g) :
    (operations ops m lhs f).outcome = .found (group lhs chain) g := by
  refine operations_of_chained (Int.natCast_nonneg m) lhs
    (chained_of_derives plain derives passes ends) (fun x hx => Int.ofNat_le.mpr (above x hx)) ?_
  have low := (ends_iff.mp ends).1
  omega

/-- An operator that binds more loosely ends a chain, whatever stands behind it. -/
theorem operations_of_closed {t : Token} {s : String} {p : Nat} (closed : DerivesClosed ops us chain)
    (current : g.current = some t) (operator : IsOperator ops t s p) (loose : p < m) :
    (operations ops m lhs f).outcome = .found (group lhs chain) g := by
  have here := level_eq current operator
  refine operations_of_chained (Int.natCast_nonneg m) lhs
    (chained_of_closed plain closed passes (by omega)) (fun x hx => Int.ofNat_le.mpr (above x hx)) ?_
  omega

end

/-- **A chain is grouped as a whole.** An expression is the group of its first operand and
its chain. From a level on, the parser takes the links up to the first operator that binds
more loosely, or all of them, and groups what it takes. It does so whatever stands behind
such an operator. -/
theorem chain_grouped (plain : ops.IsPlain) :
    (∀ {ts us first chain f g}, DerivesPrimary ops ts first → (IsOpen ts → us = []) →
      DerivesChain ops us chain → f.Passes (ts ++ us) g → Ends ops (ts ++ us) g →
      (expression ops f).outcome = .found (group first chain) g) ∧
    (∀ (m : Nat) (lhs : Expr) {us chain f g}, DerivesChain ops us chain → f.Passes us g →
      Ends ops us g →
      ∃ ts vs h, us = ts ++ vs ∧ f.Passes ts h ∧ h.Passes vs g ∧
        DerivesChain ops ts (chain.takeWhile (m ≤ ·.level)) ∧
        DerivesChain ops vs (chain.dropWhile (m ≤ ·.level)) ∧
        (operations ops m lhs f).outcome =
          .found (group lhs (chain.takeWhile (m ≤ ·.level))) h) ∧
    ∀ (m : Nat) (lhs : Expr) {us chain f g t s p}, DerivesClosed ops us chain →
      (∀ x ∈ chain, m ≤ x.level) → f.Passes us g → g.current = some t → IsOperator ops t s p →
      p < m → (operations ops m lhs f).outcome = .found (group lhs chain) g := by
  refine ⟨fun first last others passes ends => ?_, fun m lhs us chain f g derives passes ends => ?_,
    fun m lhs us chain f g t s p closed above passes current operator loose => ?_⟩
  · exact expression_of_derives plain (.chain first last others) passes ends
  · have above : ∀ x ∈ chain.takeWhile (m ≤ ·.level), m ≤ x.level :=
      fun x hx => by simpa using List.mem_takeWhile_imp hx
    have parts : chain.takeWhile (m ≤ ·.level) ++ chain.dropWhile (m ≤ ·.level) = chain :=
      List.takeWhile_append_dropWhile
    cases loose : chain.dropWhile (m ≤ ·.level) with
    | nil =>
      rw [loose, List.append_nil] at parts
      rw [parts] at above ⊢
      exact ⟨us, [], g, (List.append_nil _).symm, passes, .nil, derives, .nil,
        operations_of_derives plain m lhs above passes derives ends⟩
    | cons x others =>
      rw [loose] at parts
      rw [← parts] at derives
      obtain ⟨ts, vs, rfl, closed, rest⟩ := derives.split
      obtain ⟨h, first, second⟩ := passes_append_iff.mp passes
      refine ⟨ts, vs, h, rfl, first, second, closed.derives, rest, ?_⟩
      have head := List.head?_dropWhile_not (m ≤ ·.level) chain
      rw [loose] at head
      cases rest with
      | cons operator _ _ _ =>
        obtain ⟨current, -⟩ := passes_cons_iff.mp second
        exact operations_of_closed plain m lhs above first closed current operator
          (by simpa using head)
  · exact operations_of_closed plain m lhs above passes closed current operator loose

/-- The stream of a sum's last two tokens, of an operator that binds more loosely, and of a
parenthesis that closes nothing. -/
def loose : Feed where
  current := some ⟨.symbol, "+", some (.text "+"), none⟩
  ahead := [.ok ⟨.identifier, "b", some (.text "b"), none⟩,
    .ok ⟨.symbol, "<", some (.text "<"), none⟩, .ok ⟨.symbol, ")", some (.text ")"), none⟩]

/-- A sum is the group of its names, nothing is taken from above its level on, and what is
wrong behind a comparison does not matter at its own level. -/
theorem chain_grouped_sum : Operators.standard.IsPlain ∧ ∃ k g h l, sum.next = (none, k) ∧
    (expression .standard sum).outcome =
      .found (group (.var "a" none) [⟨"+", 20, none, .var "b" none⟩]) g ∧
    (operations .standard 21 (.var "a" none) k).outcome = .found (group (.var "a" none) []) h ∧
    (operations .standard 20 (.var "a" none) loose).outcome =
      .found (group (.var "a" none) [⟨"+", 20, none, .var "b" none⟩]) l := by
  have first : DerivesPrimary .standard [⟨.identifier, "a", some (.text "a"), none⟩]
      (.var "a" none) := .var rfl
  have closed : DerivesClosed .standard
      [⟨.symbol, "+", some (.text "+"), none⟩, ⟨.identifier, "b", some (.text "b"), none⟩]
      [⟨"+", 20, none, .var "b" none⟩] :=
    .cons ⟨rfl, rfl⟩ (.var rfl) (fun opened => absurd (isOpen_cons_iff.mp opened) (by decide)) .nil
  have ends {ts : List Token} : Ends .standard ts { current := some (.finish none) } := by
    refine ⟨?_, fun _ => rfl⟩
    rintro t s p ⟨⟩ operator
    cases operator.symbol
  have whole := (chain_grouped isPlain_standard).1 first
    (fun opened => absurd (isOpen_cons_iff.mp opened) (by decide)) closed.derives
    (.cons rfl rfl (.cons rfl rfl (.cons rfl rfl .nil)) : sum.Passes _ _) ends
  obtain ⟨_, _, h, -, -, -, -, -, above⟩ := (chain_grouped isPlain_standard).2.1 21 (.var "a" none)
    closed.derives (.cons rfl rfl (.cons rfl rfl .nil) : sum.next.2.Passes _ _) ends
  have before := (chain_grouped isPlain_standard).2.2 20 (.var "a" none) closed (by decide)
    (.cons rfl rfl (.cons rfl rfl .nil) : loose.Passes _ _) rfl
    (⟨rfl, rfl⟩ : IsOperator .standard _ "<" 10) (by decide)
  exact ⟨isPlain_standard, _, _, h, _, rfl, whole, above, before⟩

end Reckoner.Expr
