import Reckoner.Expr

/-! How a chain of operators is grouped.

A chain is a first operand and links, each an operator with the operand to its right.
The operator that binds loosest is the outermost one, and of several that bind equally
the last: the chain is split there, and each of its sides is grouped in the same way
(`group_split`). So a part that binds tighter than all that follows may be grouped ahead
of the rest (`group_append`), which is what a parser from left to right relies on. -/
namespace Reckoner.Expr

/-- An operator of a chain, with its precedence and place, and its right operand. -/
structure Link where
  operator : String
  level : Nat
  place : Option Location
  operand : Expr

/-- The operation of a link on two operands. -/
def Link.join (x : Link) (lhs rhs : Expr) : Expr :=
  .binary x.operator lhs rhs x.place

/-- The last of the links that bind loosest, with those before and behind it. -/
def loosest? : List Link → Option (List Link × Link × List Link)
  | [] => none
  | x :: rest =>
    match loosest? rest with
    | none => some ([], x, [])
    | some (before, y, behind) =>
      if y.level ≤ x.level then some (x :: before, y, behind) else some ([], x, rest)

theorem eq_nil_of_loosest? {chain : List Link} (h : loosest? chain = none) : chain = [] := by
  cases chain with
  | nil => rfl
  | cons y rest =>
    unfold loosest? at h
    split at h
    · cases h
    · split at h <;> cases h

theorem eq_append_of_loosest? {chain before behind : List Link} {x : Link}
    (h : loosest? chain = some (before, x, behind)) : chain = before ++ x :: behind := by
  induction chain generalizing before x behind with
  | nil => cases h
  | cons y rest ih =>
    unfold loosest? at h
    split at h
    · rename_i none
      cases h
      rw [eq_nil_of_loosest? none, List.nil_append]
    · rename_i found
      split at h
      · cases h
        rw [ih found]
        rfl
      · cases h
        rfl

/-- The tree of a chain, split at the last of the operators that bind loosest. -/
def group (first : Expr) (chain : List Link) : Expr :=
  match h : loosest? chain with
  | none => first
  | some (before, x, behind) =>
    have := congrArg List.length (eq_append_of_loosest? h)
    x.join (group first before) (group x.operand behind)
termination_by chain.length
decreasing_by
  all_goals
    simp only [List.length_append, List.length_cons] at this
    omega

@[simp]
theorem group_nil (first : Expr) : group first [] = first := by
  simp [group, loosest?]

/-- The link that binds loosest is known by its neighbours. -/
theorem loosest?_append {before behind : List Link} {x : Link}
    (left : ∀ y ∈ before, x.level ≤ y.level) (right : ∀ y ∈ behind, x.level < y.level) :
    loosest? (before ++ x :: behind) = some (before, x, behind) := by
  induction before with
  | nil =>
    rw [List.nil_append, loosest?]
    split
    · rename_i none
      rw [eq_nil_of_loosest? none]
    · rename_i y _ found
      have later := right y (by rw [eq_append_of_loosest? found]; simp)
      rw [if_neg (Nat.not_le_of_lt later)]
  | cons y others ih =>
    obtain ⟨first, rest⟩ := List.forall_mem_cons.mp left
    rw [List.cons_append, loosest?, ih rest]
    exact if_pos first

/-- **A chain is split at the last of the operators that bind loosest.** -/
theorem group_split (first : Expr) {before behind : List Link} {x : Link}
    (left : ∀ y ∈ before, x.level ≤ y.level) (right : ∀ y ∈ behind, x.level < y.level) :
    group first (before ++ x :: behind) = x.join (group first before) (group x.operand behind) := by
  rw [group]
  split
  · rename_i none
    rw [loosest?_append left right] at none
    cases none
  · rename_i found
    rw [loosest?_append left right] at found
    cases found
    rfl

/-- Every chain with a link has one that binds loosest. -/
theorem exists_loosest {chain : List Link} (h : chain ≠ []) :
    ∃ before x behind, chain = before ++ x :: behind ∧
      (∀ y ∈ before, x.level ≤ y.level) ∧ ∀ y ∈ behind, x.level < y.level := by
  induction chain with
  | nil => exact absurd rfl h
  | cons y rest ih =>
    by_cases last : rest = []
    · exact ⟨[], y, [], by rw [last]; rfl, List.forall_mem_nil _, List.forall_mem_nil _⟩
    · obtain ⟨before, x, behind, rfl, left, right⟩ := ih last
      by_cases looser : x.level ≤ y.level
      · exact ⟨y :: before, x, behind, rfl, List.forall_mem_cons.mpr ⟨looser, left⟩, right⟩
      · refine ⟨[], y, _, rfl, List.forall_mem_nil _, ?_⟩
        intro z hz
        rcases List.mem_append.mp hz with h | h
        · have := left z h
          omega
        · rcases List.mem_cons.mp h with rfl | h
          · omega
          · have := right z h
            omega

/-- What binds at least as tightly as the operator behind it is grouped by itself first. -/
theorem group_append (first : Expr) (chain rest : List Link)
    (tighter : ∀ x ∈ rest.head?, ∀ y ∈ chain, x.level ≤ y.level) :
    group (group first chain) rest = group first (chain ++ rest) := by
  induction bound : rest.length using Nat.strongRecOn generalizing rest with
  | ind n ih =>
    subst bound
    by_cases none : rest = []
    · rw [none, group_nil, List.append_nil]
    · obtain ⟨before, x, behind, rfl, left, right⟩ := exists_loosest none
      have smaller : before.length < (before ++ x :: behind).length := by simp
      have outer : ∀ y ∈ chain, x.level ≤ y.level := by
        intro y hy
        cases before with
        | nil => exact tighter x rfl y hy
        | cons z others =>
          exact Nat.le_trans (left z List.mem_cons_self) (tighter z rfl y hy)
      have inner : ∀ z ∈ before.head?, ∀ y ∈ chain, z.level ≤ y.level := by
        intro z hz
        refine tighter z ?_
        rw [List.head?_append, Option.mem_def.mp hz]
        rfl
      rw [group_split _ left right, ih _ smaller before inner rfl, ← List.append_assoc,
        group_split _ (List.forall_mem_append.mpr ⟨outer, left⟩) right]

/-- The first operator of a chain takes the part that binds tighter, and then the rest follows. -/
theorem group_cons (first : Expr) (x : Link) (inner rest : List Link)
    (tighter : ∀ y ∈ inner, x.level < y.level) (looser : ∀ y ∈ rest.head?, y.level ≤ x.level) :
    group (x.join first (group x.operand inner)) rest = group first (x :: (inner ++ rest)) := by
  have head : group first (x :: inner) = x.join first (group x.operand inner) := by
    have split : group first ([] ++ x :: inner) = x.join (group first []) (group x.operand inner) :=
      group_split first (List.forall_mem_nil _) tighter
    rwa [List.nil_append, group_nil] at split
  rw [← head, ← List.cons_append]
  refine group_append first (x :: inner) rest fun y hy => List.forall_mem_cons.mpr ⟨looser y hy, ?_⟩
  exact fun z hz => Nat.le_trans (looser y hy) (Nat.le_of_lt (tighter z hz))

end Reckoner.Expr
