import Reckoner.Proofs.Expr.Passage

/-! Parsing moves on.

The parser changes its feed only by asking for the next token. So the feed behind a
construct, found or refused, is one that such requests lead to from the feed in front
(`Feed.Onward`); what is refused is refused for the token that is then current; and a parse
that stops does so at a fault that the next request met (`statement_onward`). What every
request keeps, a whole parse keeps: a feed forgets none of the faults that it has recorded
(`Feed.Onward.faults`). -/
namespace Reckoner

namespace Feed
variable {f g h : Feed}

/-- From one feed to another by requests for tokens, none of which met a fault. -/
def Onward : Feed → Feed → Prop :=
  Relation.ReflTransGen fun f g => f.next = (none, g)

theorem Onward.refl (f : Feed) : f.Onward f :=
  Relation.ReflTransGen.refl

theorem Onward.trans (first : f.Onward g) (rest : g.Onward h) : f.Onward h :=
  Relation.ReflTransGen.trans first rest

theorem onward_of_next (next : f.next = (none, g)) : f.Onward g :=
  Relation.ReflTransGen.single next

theorem Onward.size (onward : f.Onward g) : g.size ≤ f.size := by
  induction onward with
  | refl => exact Nat.le_refl _
  | tail _ next ih => exact Nat.le_trans (size_next_le next) ih

/-- A request records the fault of the token that it makes current. -/
theorem faults_next (next : f.next = (none, g)) :
    g.faults.toList = f.faults.toList ++ (g.current.bind Token.fault?).toList := by
  unfold Feed.next at next
  split at next
  · cases next
    simp [take]
  · cases next
  · split at next
    · cases next
      simp [take]
    · cases next

theorem faults_of_atEnd (next : f.next = (none, g)) (ended : g.atEnd = true) :
    g.faults.toList = f.faults.toList := by
  obtain ⟨t, current, kind⟩ := (Option.any_eq_true _ _).mp ended
  have kind : t.kind = .endOfInput := of_decide_eq_true kind
  rw [faults_next next, current, Option.bind_some, Token.fault?, if_neg (by rw [kind]; decide)]
  exact List.append_nil _

/-- A request that meets a fault of the source records nothing. -/
theorem faults_of_fault {fault : Token.Fault} (next : f.next = (some fault, g)) :
    g.faults = f.faults := by
  unfold Feed.next at next
  split at next
  · cases next
  · cases next
    rfl
  · split at next
    · cases next
    · cases next
      rfl

theorem Onward.faults (onward : f.Onward g) : f.faults.toList <+: g.faults.toList := by
  induction onward with
  | refl => exact List.prefix_rfl
  | tail _ next ih =>
    rw [faults_next next]
    exact ih.trans (List.prefix_append _ _)

end Feed

namespace Expr

/-- What a parse that starts on a feed comes to: the feed behind it is further on, with the
token at fault if it is refused, or it stops where a request meets a fault of the source. -/
inductive Outcome.Onward {α : Type} (f : Feed) : Outcome α → Prop where
  | found {a g} : f.Onward g → Onward f (.found a g)
  | refused {x g} : f.Onward g → x.found = g.current → Onward f (.refused x g)
  | stopped {fault g h} : f.Onward g → g.next = (some fault, h) →
    Onward f (.stopped (.source fault) h)

end Expr

theorem Feed.Through.onward {ops : Operators} {f g : Feed} (through : f.Through ops g) :
    f.Onward g := by
  induction through with
  | refl => exact .refl f
  | tail _ step ih =>
    exact ih.trans (onward_of_next step.2)

namespace Expr

open Outcome

theorem Outcome.Through.onward {α : Type} {ops : Operators} {f : Feed} {x : Outcome α}
    (through : Through ops f x) : Onward f x := by
  cases through with
  | found through => exact .found through.onward
  | refused through fault => exact .refused through.onward fault
  | stopped through _ next => exact .stopped through.onward next

theorem signature_onward (f : Feed) : Onward f (signature f).outcome :=
  (signature_through .standard f).onward

theorem declaration_onward (f : Feed) : Onward f (declaration f).outcome :=
  (declaration_through .standard f).onward

section
variable (ops : Operators) (f : Feed)

theorem expression_moves_on : Onward f (expression ops f).outcome :=
  (expression_passes ops f).onward

theorem definition_onward : Onward f (definition ops f).outcome :=
  (definition_through ops f).onward

theorem bareExpression_onward : Onward f (bareExpression ops f).outcome :=
  (bareExpression_through ops f).onward

/-- **A statement moves on.** The parser leaves its feed further on, or stops at a fault
of the source that the next request meets; it never lacks a token. -/
theorem statement_onward : Onward f (statement ops f).outcome :=
  (statement_through ops f).onward

end

end Expr

end Reckoner
