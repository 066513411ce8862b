import Mathlib.Logic.Relation
import Reckoner.Proofs.Expr.Places

/-! Which tokens a parse passes.

The parser asks for the next token only where the current one belongs to what it reads: a
number, a name, a keyword, a symbol of the grammar or an operator of its table. So the feed
behind a construct, found or refused, is one that such requests lead to from the feed in front
(`Feed.Through`); what is refused is refused for the token that is then current; and a parse
that stops does so where such a request meets a fault of the source (`statement_through`). The
end of the input is none of these tokens, whatever the table holds, so the parser never asks
for more behind it. -/
namespace Reckoner

namespace Feed
variable {ops : Operators} {f g h : Feed}

/-- The current token is one that the grammar knows. -/
def IsPassable (ops : Operators) (f : Feed) : Prop :=
  ∃ t, f.current = some t ∧ t.IsPassable ops

/-- From one feed to another by requests for tokens, each behind one that the grammar knows. -/
def Through (ops : Operators) : Feed → Feed → Prop :=
  Relation.ReflTransGen fun f g => f.IsPassable ops ∧ f.next = (none, g)

theorem Through.refl (f : Feed) : f.Through ops f :=
  Relation.ReflTransGen.refl

theorem Through.trans (first : f.Through ops g) (rest : g.Through ops h) : f.Through ops h :=
  Relation.ReflTransGen.trans first rest

end Feed

/-- The end of the input is not passed, whatever the operators. -/
theorem Token.IsPassable.more {ops : Operators} {t : Token} (h : t.IsPassable ops) :
    t.kind ≠ .endOfInput := by
  intro ended
  rw [IsPassable, symbol?_eq_none (by rw [ended]; decide)] at h
  exact h ended

namespace Expr

/-! ### Where the parser goes on -/

section
variable {ops : Operators} {f : Feed}

theorem passable_of_symbol {s : String} (here : symbol? f s = true)
    (known : s = "(" ∨ s = ")" ∨ s = ",") : f.IsPassable ops := by
  obtain ⟨t, current, symbol⟩ := symbol?_iff.mp here
  exact ⟨t, current, Token.isPassable_of_isSymbol symbol known⟩

theorem passable_of_keyword {w : Token.Keyword} (here : at? f (.keyword w) = true) :
    f.IsPassable ops := by
  obtain ⟨t, current, kind⟩ := at?_iff.mp here
  exact ⟨t, current, Token.isPassable_of_kind (by simp [kind]) (by simp [kind])⟩

theorem passable_of_name {n : String} (here : name? f = some n) : f.IsPassable ops := by
  obtain ⟨t, current, name⟩ := Option.bind_eq_some_iff.mp here
  exact ⟨t, current, Token.isPassable_of_starts (.name name)⟩

theorem passable_of_start {s : Start} (here : start? f = some s) : f.IsPassable ops := by
  obtain ⟨t, current, starts⟩ := start?_eq_some_iff.mp here
  exact ⟨t, current, Token.isPassable_of_starts starts⟩

/-- No level is below zero, so what is at one is an operator and not the end of the input. -/
theorem passable_of_level (here : 0 ≤ level ops f) : f.IsPassable ops := by
  obtain ⟨t, s, p, current, operator⟩ := exists_operator here
  exact ⟨t, current, Token.isPassable_of_operator operator⟩

end

/-- What a parse that starts on a feed comes to: the feed behind it is reached past tokens that
the grammar knows, with the token at fault if it is refused, or it stops where the request
behind such a token meets a fault of the source. -/
inductive Outcome.Through {α : Type} (ops : Operators) (f : Feed) : Outcome α → Prop where
  | found {a g} : f.Through ops g → Through ops f (.found a g)
  | refused {x g} : f.Through ops g → x.found = g.current → Through ops f (.refused x g)
  | stopped {fault g h} : f.Through ops g → g.IsPassable ops → g.next = (some fault, h) →
    Through ops f (.stopped (.source fault) h)

open Outcome

section
variable {α β : Type} {ops : Operators} {f g : Feed}

theorem Outcome.Through.behind {x : Outcome α} (rest : Through ops g x)
    (through : f.Through ops g) : Through ops f x := by
  cases rest with
  | found rest => exact .found (through.trans rest)
  | refused rest fault => exact .refused (through.trans rest) fault
  | stopped rest passable next => exact .stopped (through.trans rest) passable next

theorem Outcome.Through.andThen {x : Outcome α} {follow : α → Feed → Outcome β}
    (first : Through ops f x) (rest : ∀ a g, x = .found a g → Through ops g (follow a g)) :
    Through ops f (x.andThen follow) := by
  cases first with
  | found through => exact (rest _ _ rfl).behind through
  | refused through fault => exact .refused through fault
  | stopped through passable next => exact .stopped through passable next

theorem through_past {follow : Feed → Outcome α} (passable : f.IsPassable ops)
    (rest : ∀ g, f.next = (none, g) → Through ops g (follow g)) :
    Through ops f (past f follow) := by
  unfold past
  split
  · rename_i next
    exact .stopped (.refl f) passable next
  · rename_i g next
    exact (rest g next).behind (.single ⟨passable, next⟩)

theorem through_require {holds : Bool} {expected : Expected} {follow : Feed → Outcome α}
    (passable : holds = true → f.IsPassable ops)
    (rest : ∀ g, f.next = (none, g) → Through ops g (follow g)) :
    Through ops f (require holds expected f follow) := by
  unfold require
  split
  · rename_i here
    exact through_past (passable here) rest
  · exact .refused (.refl f) rfl

end

/-! ### Expressions -/

section
variable {ops : Operators} {f : Feed} {n : Nat}

variable (ops n) in
/-- In feeds smaller than `n`, primaries pass what the grammar knows. -/
def PrimariesThrough : Prop :=
  ∀ {f : Feed}, f.size < n → Through ops f (primary ops f).outcome

variable (primaries : PrimariesThrough ops n)
include primaries

theorem operations_through (small : f.size ≤ n) {lowest : Int} (nonneg : 0 ≤ lowest) (lhs : Expr) :
    Through ops f (operations ops lowest lhs f).outcome := by
  induction f using Feed.size_induction generalizing lowest lhs with
  | smaller f ih =>
    rw [outcome_operations]
    split
    · exact .found (.refl f)
    · obtain ⟨t, s, p, current, operator⟩ := exists_operator (by omega : 0 ≤ level ops f)
      refine through_past (passable_of_level (by omega)) fun f₁ next => ?_
      have moved := Feed.size_next_lt next (operator.atEnd current)
      refine (primaries (by omega)).andThen fun rhs f₂ operand => ?_
      have read := Parse.size_of_found operand
      have right : Through ops f₂ (tighter ops (level ops f) rhs f₂).outcome := by
        rw [outcome_tighter]
        split
        · exact ih f₂ (by omega) (by omega) (by omega) rhs
        · exact .found (.refl f₂)
      refine right.andThen fun rhs f₃ found => ?_
      have went := Parse.size_of_found found
      simp only [current]
      exact ih f₃ (by omega) (by omega) nonneg _

theorem expression_through (small : f.size < n) : Through ops f (expression ops f).outcome := by
  rw [outcome_expression]
  refine (primaries small).andThen fun first g found => ?_
  have read := Parse.size_of_found found
  exact operations_through primaries (by omega) (Int.le_refl 0) first

theorem arguments_through (small : f.size < n) (name : String) (l : Option Location)
    (before : List Expr) : Through ops f (arguments ops name l before f).outcome := by
  induction f using Feed.size_induction generalizing before with
  | smaller f ih =>
    rw [outcome_arguments]
    refine (expression_through primaries small).andThen fun a g found => ?_
    have read := Parse.size_of_found found
    split
    · rename_i closing
      exact through_past (passable_of_symbol closing (.inr (.inl rfl))) fun h _ => .found (.refl h)
    · refine through_require (passable_of_symbol · (.inr (.inr rfl))) fun h next => ?_
      have moved := Feed.size_next_le next
      exact ih h (by omega) (by omega) (a :: before)

theorem afterName_through (small : f.size < n) (name : String) (l : Option Location) :
    Through ops f (afterName ops name l f).outcome := by
  rw [outcome_afterName]
  split
  · rename_i opening
    refine through_past (passable_of_symbol opening (.inl rfl)) fun g next => ?_
    have moved := Feed.size_next_le next
    split
    · rename_i closing
      exact through_past (passable_of_symbol closing (.inr (.inl rfl))) fun h _ => .found (.refl h)
    · exact arguments_through primaries (by omega) name l []
  · exact .found (.refl f)

theorem afterOpening_through (small : f.size < n) :
    Through ops f (afterOpening ops f).outcome := by
  rw [outcome_afterOpening]
  refine (expression_through primaries small).andThen fun e g _ => ?_
  exact through_require (passable_of_symbol · (.inr (.inl rfl))) fun h _ => .found (.refl h)

theorem afterCondition_through (small : f.size < n) (l : Option Location) :
    Through ops f (afterCondition ops l f).outcome := by
  rw [outcome_afterCondition]
  refine (expression_through primaries small).andThen fun c f₁ found₁ => ?_
  have read₁ := Parse.size_of_found found₁
  refine through_require passable_of_keyword fun f₂ next => ?_
  have moved₂ := Feed.size_next_le next
  refine (expression_through primaries (by omega)).andThen fun t f₃ found₃ => ?_
  have read₃ := Parse.size_of_found found₃
  refine through_require passable_of_keyword fun f₄ next => ?_
  have moved₄ := Feed.size_next_le next
  refine (expression_through primaries (by omega)).andThen fun e f₅ _ => ?_
  exact .found (.refl f₅)

omit primaries in
theorem primariesThrough (n : Nat) : PrimariesThrough ops n := by
  induction n with
  | zero =>
    intro _ small
    exact absurd small (Nat.not_lt_zero _)
  | succ n primaries =>
    intro f small
    rw [outcome_primary]
    split
    · exact .refused (.refl f) rfl
    · rename_i start begins
      refine through_past (passable_of_start begins) fun g next => ?_
      have moved := Feed.size_next_lt next (atEnd_of_start begins)
      cases start with
      | number x => exact .found (.refl g)
      | name name => exact afterName_through primaries (by omega) name _
      | condition => exact afterCondition_through primaries (by omega) _
      | opening => exact afterOpening_through primaries (by omega)

end

section
variable (ops : Operators)

theorem expression_passes (f : Feed) : Through ops f (expression ops f).outcome :=
  expression_through (primariesThrough _) (Nat.lt_succ_self f.size)

end

/-! ### Statements -/

section
variable (ops : Operators)

theorem parameters_through (before : List String) (f : Feed) :
    Through ops f (parameters before f).outcome := by
  induction f using Feed.size_induction generalizing before with
  | smaller f ih =>
    rw [outcome_parameters]
    split
    · exact .found (.refl f)
    · rename_i name named
      refine through_past (passable_of_name named) fun g next => ?_
      have moved := Feed.size_next_lt next (atEnd_of_name named)
      split
      · rename_i comma
        refine through_past (passable_of_symbol comma (.inr (.inr rfl))) fun h next => ?_
        have moved' := Feed.size_next_le next
        exact ih h (by omega) (name :: before)
      · exact .found (.refl g)

theorem signature_through (f : Feed) : Through ops f (signature f).outcome := by
  rw [outcome_signature]
  split
  · exact .refused (.refl f) rfl
  · rename_i name named
    refine through_past (passable_of_name named) fun g _ => ?_
    refine through_require (passable_of_symbol · (.inl rfl)) fun h _ => ?_
    refine (parameters_through ops [] h).andThen fun ps k _ => ?_
    exact through_require (passable_of_symbol · (.inr (.inl rfl))) fun p _ => .found (.refl p)

variable (f : Feed)

theorem definition_through : Through ops f (definition ops f).outcome := by
  rw [outcome_definition]
  refine through_require passable_of_keyword fun g _ => ?_
  refine (signature_through ops g).andThen fun p h _ => ?_
  exact (expression_passes ops h).andThen fun e k _ => .found (.refl k)

theorem declaration_through : Through ops f (declaration f).outcome := by
  rw [outcome_declaration]
  refine through_require passable_of_keyword fun g _ => ?_
  rw [outcome_prototypeAlone]
  exact (signature_through ops g).andThen fun p h _ => .found (.refl h)

theorem bareExpression_through : Through ops f (bareExpression ops f).outcome := by
  rw [outcome_bareExpression]
  exact (expression_passes ops f).andThen fun e g _ => .found (.refl g)

/-- **A statement passes only tokens that the grammar knows.** The parser leaves its feed behind
such tokens, or stops where the request behind one of them meets a fault of the source; it never
lacks a token. -/
theorem statement_through : Through ops f (statement ops f).outcome := by
  rw [outcome_statement]
  split
  · exact definition_through ops f
  · split
    · exact declaration_through ops f
    · exact bareExpression_through ops f

end

end Expr

end Reckoner
