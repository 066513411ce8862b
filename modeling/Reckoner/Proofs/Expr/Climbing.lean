import Mathlib.Data.List.TakeWhile
import Reckoner.Proofs.Expr.Grammar
import Reckoner.Proofs.Expr.Outcome

/-! Chains as the parser climbs them.

`operations` reads a chain from left to right and calls itself for the part that binds
tighter than the operator it is at. What it comes to does not show that: it takes the
links up to the first operator below its level, and groups them (`operations_found_iff`).
A recursion at the level above an operator stops where the next one binds no tighter than
that operator, and there the loop outside goes on, so the inner part and what follows fit
together by `group_cons`. -/
namespace Reckoner.Expr

section
variable {ε : Type} {ops : Operators}

theorem IsOperator.operator_eq {t : Token} {s : String} {p : Nat} (h : IsOperator ops t s p) :
    t.operator = s := by
  rw [Token.operator, h.symbol, Option.getD_some]

theorem level_eq {f : Feed ε} {t : Token} {s : String} {p : Nat} (current : f.current = some t)
    (h : IsOperator ops t s p) : level ops f = p := by
  simp only [level, current, Option.bind_some, h.symbol, Operators.precedence, h.level]

/-- A precedence that is not negative is that of an operator. -/
theorem exists_operator {f : Feed ε} (h : 0 ≤ level ops f) :
    ∃ t s p, f.current = some t ∧ IsOperator ops t s p := by
  unfold level at h
  split at h
  · rename_i s symbol
    obtain ⟨t, current, symbol⟩ := Option.bind_eq_some_iff.mp symbol
    unfold Operators.precedence at h
    split at h
    · rename_i p found
      exact ⟨t, s, p, current, symbol, found⟩
    · omega
  · omega

theorem IsOperator.atEnd {f : Feed ε} {t : Token} {s : String} {p : Nat}
    (current : f.current = some t) (h : IsOperator ops t s p) : f.atEnd = false := by
  refine atEnd_of_symbol (s := s) ?_
  simp [symbol?, current, Token.isSymbol, h.symbol]

variable (ops) in
/-- Operators and primaries in turn, from one feed to another. -/
inductive Chained : Feed → List Link → Feed → Prop where
  | nil {f} : Chained f [] f
  | cons {f g h k t s p e chain} : f.current = some t → IsOperator ops t s p → f.next = (none, g) →
    (primary ops g).outcome = .found e h → Chained h chain k →
    Chained f (⟨s, p, t.location, e⟩ :: chain) k

namespace Chained
variable {f g h : Feed} {before behind chain : List Link} {x : Link}

theorem append (first : Chained ops f before g) (second : Chained ops g behind h) :
    Chained ops f (before ++ behind) h := by
  induction first with
  | nil => exact second
  | cons current operator next operand _ ih => exact .cons current operator next operand (ih second)

theorem split (whole : Chained ops f (before ++ behind) h) :
    ∃ g, Chained ops f before g ∧ Chained ops g behind h := by
  induction before generalizing f with
  | nil => exact ⟨f, .nil, whole⟩
  | cons x rest ih =>
    cases whole with
    | cons current operator next operand others =>
      obtain ⟨g, first, second⟩ := ih others
      exact ⟨g, .cons current operator next operand first, second⟩

theorem eq_of_nil (none : Chained ops f [] g) : f = g := by
  cases none
  rfl

/-- The precedence that is met is that of the first link. -/
theorem level_eq (some : Chained ops f (x :: chain) g) : level ops f = x.level := by
  cases some with
  | cons current operator _ _ _ => exact Expr.level_eq current operator

/-- Where there is no operator, there are no links. -/
theorem eq_nil_of_level (whole : Chained ops f chain g) (low : level ops f < 0) : chain = [] := by
  cases chain with
  | nil => rfl
  | cons x rest =>
    rw [whole.level_eq] at low
    omega

/-- In front of links there is an operator if there is one behind them. -/
theorem level_nonneg (whole : Chained ops f chain g) (goes : 0 ≤ level ops g) :
    0 ≤ level ops f := by
  cases chain with
  | nil => rwa [whole.eq_of_nil]
  | cons x rest =>
    rw [whole.level_eq]
    exact Int.natCast_nonneg _

/-- A chain has two parts: first the links that bind tighter than a level, and then those
from the first other one on. -/
theorem part (p : Nat) (whole : Chained ops f chain g) (stops : level ops g ≤ p) :
    ∃ inner outer m, inner ++ outer = chain ∧ Chained ops f inner m ∧ Chained ops m outer g ∧
      (∀ x ∈ inner, p < x.level) ∧ (∀ x ∈ outer.head?, x.level ≤ p) ∧ level ops m ≤ p := by
  have parts : chain.takeWhile (p < ·.level) ++ chain.dropWhile (p < ·.level) = chain :=
    List.takeWhile_append_dropWhile
  have tight : ∀ x ∈ chain.takeWhile (p < ·.level), p < x.level := fun x hx => by
    simpa using List.mem_takeWhile_imp hx
  have loose : ∀ x ∈ (chain.dropWhile (p < ·.level)).head?, x.level ≤ p := fun x hx => by
    have := List.head?_dropWhile_not (p < ·.level) chain
    rw [Option.mem_def.mp hx] at this
    simpa using this
  rw [← parts] at whole
  obtain ⟨m, inner, outer⟩ := whole.split
  refine ⟨_, _, m, parts, inner, outer, tight, loose, ?_⟩
  cases outside : chain.dropWhile (p < ·.level) with
  | nil =>
    rw [outside] at outer
    rwa [outer.eq_of_nil]
  | cons y others =>
    rw [outside] at outer loose
    rw [outer.level_eq]
    exact Int.ofNat_le.mpr (loose y rfl)

theorem level_of_mem_head? (whole : Chained ops f chain g) (first : x ∈ chain.head?) :
    level ops f = x.level := by
  cases chain with
  | nil => cases first
  | cons y rest =>
    cases first
    exact whole.level_eq

end Chained

/-- The part that binds tighter than the operator in front of it. -/
theorem tighter_of_chained {f g : Feed} {here : Int} {rhs : Expr} {inner : List Link}
    (chained : Chained ops f inner g) (above : ∀ x ∈ inner, here < x.level)
    (climbs : (operations ops (here + 1) rhs f).outcome = .found (group rhs inner) g) :
    (tighter ops here rhs f).outcome = .found (group rhs inner) g := by
  rw [outcome_tighter]
  split
  · exact climbs
  · rename_i low
    cases inner with
    | nil => rw [chained.eq_of_nil, group_nil]
    | cons x rest =>
      have := above x List.mem_cons_self
      rw [chained.level_eq] at low
      exact absurd this low

theorem operations_of_chained {f g : Feed} {lowest : Int} (nonneg : 0 ≤ lowest) (lhs : Expr)
    {chain : List Link} (chained : Chained ops f chain g) (above : ∀ x ∈ chain, lowest ≤ x.level)
    (stops : level ops g < lowest) :
    (operations ops lowest lhs f).outcome = .found (group lhs chain) g := by
  induction bound : chain.length using Nat.strongRecOn generalizing f g lowest lhs chain with
  | ind n ih =>
    subst bound
    cases chained with
    | nil => rw [outcome_operations, if_pos stops, group_nil]
    | @cons _ g' h _ t s p e rest current operator next operand others =>
      have here := level_eq current operator
      obtain ⟨first, later⟩ := List.forall_mem_cons.mp above
      have first : lowest ≤ p := first
      -- The loop goes on behind the links that bind tighter than the first one.
      obtain ⟨inner, outer, m, rfl, chained, behind, tight, loose, met⟩ :=
        others.part p (by omega)
      obtain ⟨-, later⟩ := List.forall_mem_append.mp later
      rw [List.length_cons, List.length_append] at ih
      have right : (tighter ops p e h).outcome = .found (group e inner) m := by
        have above : ∀ x ∈ inner, (p : Int) < x.level := fun x hx => Int.ofNat_lt.mpr (tight x hx)
        exact tighter_of_chained chained above
          (ih inner.length (by omega) (by omega) e chained above (by omega) rfl)
      have onward := ih outer.length (by omega) nonneg
        (.binary s lhs (group e inner) t.location) behind later stops rfl
      rw [outcome_operations, here, if_neg (by omega), Outcome.past_of_next next, operand]
      simp only [Outcome.found_andThen, right, current, operator.operator_eq]
      have grouped := group_cons lhs ⟨s, p, t.location, e⟩ inner outer tight loose
      exact onward.trans (congrArg (Outcome.found · g) grouped)

/-- What binds tighter than an operator is a chain, if that is so for what is climbed. -/
theorem chained_of_tighter {f g : Feed} {p : Nat} {rhs e : Expr}
    (h : (tighter ops p rhs f).outcome = .found e g)
    (climbs : (operations ops (p + 1) rhs f).outcome = .found e g →
      ∃ inner, Chained ops f inner g ∧ (∀ x ∈ inner, (p + 1 : Int) ≤ x.level) ∧
        level ops g < p + 1 ∧ e = group rhs inner) :
    ∃ inner, Chained ops f inner g ∧ (∀ x ∈ inner, p < x.level) ∧ level ops g ≤ p ∧
      e = group rhs inner := by
  rw [outcome_tighter] at h
  split at h
  · obtain ⟨inner, chained, above, met, rfl⟩ := climbs h
    exact ⟨inner, chained, fun x hx => Int.ofNat_lt.mp (above x hx), Int.lt_add_one_iff.mp met, rfl⟩
  · rename_i low
    cases h
    exact ⟨[], .nil, List.forall_mem_nil _, Int.not_lt.mp low, (group_nil _).symm⟩

theorem chained_of_operations {f g : Feed} {lowest : Int} (nonneg : 0 ≤ lowest) {lhs e : Expr}
    (h : (operations ops lowest lhs f).outcome = .found e g) :
    ∃ chain, Chained ops f chain g ∧ (∀ x ∈ chain, lowest ≤ x.level) ∧ level ops g < lowest ∧
      e = group lhs chain := by
  induction f using Feed.size_induction generalizing g lowest lhs e with
  | smaller f ih =>
    rw [outcome_operations] at h
    split at h
    · rename_i stops
      cases h
      exact ⟨[], .nil, List.forall_mem_nil _, stops, group_nil _ |>.symm⟩
    · rename_i goes
      obtain ⟨t, s, p, current, operator⟩ := exists_operator (by omega : 0 ≤ level ops f)
      have here := level_eq current operator
      obtain ⟨g', next, h⟩ := Outcome.past_eq_found_iff.mp h
      obtain ⟨rhs, k, operand, h⟩ := Outcome.andThen_eq_found_iff.mp h
      obtain ⟨rhs', m, right, h⟩ := Outcome.andThen_eq_found_iff.mp h
      rw [here] at right goes
      simp only [current, operator.operator_eq] at h
      have moved := Feed.size_next_lt next (operator.atEnd current)
      have read := Parse.size_of_found operand
      have went := Parse.size_of_found right
      obtain ⟨inner, chained, tight, met, rfl⟩ :=
        chained_of_tighter right fun climbs => ih k (by omega) (by omega) climbs
      obtain ⟨outer, later, above, stops, rfl⟩ := ih m (by omega) nonneg h
      refine ⟨⟨s, p, t.location, rhs⟩ :: (inner ++ outer),
        .cons current operator next operand (chained.append later), ?_, stops, ?_⟩
      · refine List.forall_mem_cons.mpr ⟨by simpa using goes, List.forall_mem_append.mpr ⟨?_, above⟩⟩
        intro x hx
        have := tight x hx
        omega
      · refine group_cons lhs ⟨s, p, t.location, rhs⟩ inner outer tight fun y hy => ?_
        rw [later.level_of_mem_head? hy] at met
        exact Int.ofNat_le.mp met

/-- **Climbing groups what it takes**, and takes the links up to the first operator below
its level, or to what is no operator. -/
theorem operations_found_iff {f g : Feed} {lowest : Int} (nonneg : 0 ≤ lowest) {lhs e : Expr} :
    (operations ops lowest lhs f).outcome = .found e g ↔
      ∃ chain, Chained ops f chain g ∧ (∀ x ∈ chain, lowest ≤ x.level) ∧ level ops g < lowest ∧
        e = group lhs chain := by
  refine ⟨chained_of_operations nonneg, ?_⟩
  rintro ⟨chain, chained, above, stops, rfl⟩
  exact operations_of_chained nonneg lhs chained above stops

/-- An expression is a primary and the whole chain behind it. -/
theorem expression_found_iff {f g : Feed} {e : Expr} :
    (expression ops f).outcome = .found e g ↔
      ∃ first h chain, (primary ops f).outcome = .found first h ∧ Chained ops h chain g ∧
        level ops g < 0 ∧ e = group first chain := by
  rw [outcome_expression, Outcome.andThen_eq_found_iff]
  simp only [operations_found_iff (Int.le_refl 0)]
  constructor
  · rintro ⟨first, h, primary, chain, chained, -, stops, rfl⟩
    exact ⟨first, h, chain, primary, chained, stops, rfl⟩
  · rintro ⟨first, h, chain, primary, chained, stops, rfl⟩
    exact ⟨first, h, primary, chain, chained, fun x _ => Int.natCast_nonneg _, stops, rfl⟩

end

end Reckoner.Expr
