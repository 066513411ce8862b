import Reckoner.Proofs.IR.Names

/-! What parameters are named by a renaming.

Names are given one after the other by the scope of the function, which forgets none. So a
parameter gets the name that is asked for it if it has it already, or if the name is not in use
and is asked for here first; otherwise it gets that name with a number
(`Function.getElem?_renamed_iff`, `Function.renamed_or_numbered`). Whichever it is, the name
that is asked for is in use from then on (`Function.mem_used_renamed_iff`). -/
namespace Reckoner.IR

/-- A name without a number. -/
structure IsPlain (name : String) : Prop where
  nonempty : name ≠ ""
  point : '.' ∉ name.toList

namespace Scope
variable {s : Scope} {base x : String}

theorem fresh_eq_iff : (s.fresh base).1 = base ↔ base ∉ s.used := by
  refine ⟨fun same used => s.fresh_not_mem base ?_, fresh_of_not_mem⟩
  rwa [same]

theorem eq_of_fresh (plain : IsPlain x) (same : (s.fresh base).1 = x) : base = x := by
  rcases s.fresh_eq_or base with kept | ⟨n, numbered⟩
  · exact kept.symm.trans same
  · refine absurd ?_ plain.point
    rw [← same, numbered]
    exact point_mem_numbered base n

/-- Of the plain names the one that is asked for is new at most. -/
theorem mem_used_fresh_iff (plain : IsPlain x) :
    x ∈ (s.fresh base).2.used ↔ x = base ∨ x ∈ s.used := by
  rw [mem_used_fresh]
  constructor
  · exact Or.imp_left fun same => (eq_of_fresh plain same.symm).symm
  · rintro (rfl | used)
    · by_cases used : x ∈ s.used
      · exact .inr used
      · exact .inl (fresh_of_not_mem used).symm
    · exact .inr used

end Scope

theorem idxOf_cons_eq_succ_iff {x a : String} {l : List String} {i : Nat} :
    (a :: l).idxOf x = i + 1 ↔ a ≠ x ∧ l.idxOf x = i := by
  by_cases same : a = x
  · subst same
    simp
  · have other : (a == x) = false := beq_eq_false_iff_ne.mpr same
    rw [List.idxOf_cons, other, cond_false, Nat.succ_inj]
    exact (and_iff_right same).symm

namespace Function
variable {olds news : List String} {s : Scope} {x name : String} {i : Nat}

theorem renamed_cons_self (name : String) :
    renamed (name :: olds) (name :: news) s =
      (name :: (renamed olds news s).1, (renamed olds news s).2) := by
  rw [renamed, if_pos rfl]

theorem renamed_cons_of_ne {old new : String} (other : old ≠ new) :
    renamed (old :: olds) (new :: news) s =
      ((s.fresh new).1 :: (renamed olds news (s.fresh new).2).1,
        (renamed olds news (s.fresh new).2).2) := by
  rw [renamed, if_neg other]

/-- **A parameter gets the name that is asked for** if it has it, or if the name is not in use and
this is where it is asked for first. -/
theorem getElem?_renamed_iff (lengths : olds.length = news.length) (used : olds ⊆ s.used)
    (plain : IsPlain x) :
    (renamed olds news s).1[i]? = some x ↔
      news[i]? = some x ∧ (olds[i]? = some x ∨ x ∉ s.used ∧ news.idxOf x = i) := by
  induction olds generalizing news s i with
  | nil =>
    obtain rfl := List.eq_nil_of_length_eq_zero lengths.symm
    simp [renamed]
  | cons old olds ih =>
    cases news with
    | nil => cases lengths
    | cons new news =>
      replace lengths := Nat.succ.inj lengths
      obtain ⟨here, used⟩ := List.cons_subset.mp used
      by_cases same : old = new
      · subst same
        rw [renamed_cons_self]
        cases i with
        | zero => exact ⟨fun kept => ⟨kept, .inl kept⟩, And.left⟩
        | succ i =>
          rw [List.getElem?_cons_succ, List.getElem?_cons_succ, List.getElem?_cons_succ,
            ih lengths used, idxOf_cons_eq_succ_iff]
          refine and_congr_right fun _ => or_congr_right (and_congr_right fun free => ?_)
          have other : old ≠ x := fun same => free (same ▸ here)
          exact (and_iff_right other).symm
      · rw [renamed_cons_of_ne same]
        cases i with
        | zero =>
          simp only [List.getElem?_cons_zero, Option.some.injEq]
          constructor
          · intro given
            obtain rfl := Scope.eq_of_fresh plain given
            exact ⟨rfl, .inr ⟨Scope.fresh_eq_iff.mp given, List.idxOf_cons_self⟩⟩
          · rintro ⟨rfl, old | ⟨free, -⟩⟩
            · exact absurd old same
            · exact Scope.fresh_of_not_mem free
        | succ i =>
          have kept : olds ⊆ (s.fresh new).2.used := fun y hy => s.used_subset_fresh new (used hy)
          rw [List.getElem?_cons_succ, List.getElem?_cons_succ, List.getElem?_cons_succ,
            ih lengths kept, idxOf_cons_eq_succ_iff, Scope.mem_used_fresh_iff plain, not_or,
            and_assoc, and_left_comm, ne_comm]

/-- A parameter that does not get the name that is asked for gets it with a number. -/
theorem renamed_or_numbered (lengths : olds.length = news.length) (asked : news[i]? = some x) :
    (renamed olds news s).1[i]? = some x ∨
      ∃ n, (renamed olds news s).1[i]? = some (Scope.numbered x n) := by
  induction olds generalizing news s i with
  | nil =>
    obtain rfl := List.eq_nil_of_length_eq_zero lengths.symm
    cases asked
  | cons old olds ih =>
    cases news with
    | nil => cases lengths
    | cons new news =>
      by_cases same : old = new
      · subst same
        rw [renamed_cons_self]
        cases i with
        | zero => exact .inl asked
        | succ i => exact ih (Nat.succ.inj lengths) asked
      · rw [renamed_cons_of_ne same]
        cases i with
        | zero =>
          cases asked
          simp only [List.getElem?_cons_zero, Option.some.injEq]
          exact s.fresh_eq_or x
        | succ i => exact ih (Nat.succ.inj lengths) asked

/-- The plain names that are in use after a renaming are those asked for and those before. -/
theorem mem_used_renamed_iff (lengths : olds.length = news.length) (used : olds ⊆ s.used)
    (plain : IsPlain x) : x ∈ (renamed olds news s).2.used ↔ x ∈ news ∨ x ∈ s.used := by
  induction olds generalizing news s with
  | nil =>
    obtain rfl := List.eq_nil_of_length_eq_zero lengths.symm
    simp [renamed]
  | cons old olds ih =>
    cases news with
    | nil => cases lengths
    | cons new news =>
      replace lengths := Nat.succ.inj lengths
      obtain ⟨here, used⟩ := List.cons_subset.mp used
      by_cases same : old = new
      · subst same
        have known : x = old → x ∈ news ∨ x ∈ s.used := fun same => .inr (same ▸ here)
        rw [renamed_cons_self, ih lengths used, List.mem_cons, or_assoc, or_iff_right_of_imp known]
      · have kept : olds ⊆ (s.fresh new).2.used := fun y hy => s.used_subset_fresh new (used hy)
        rw [renamed_cons_of_ne same, ih lengths kept, Scope.mem_used_fresh_iff plain, List.mem_cons,
          or_assoc, or_left_comm]

theorem renamed_self (names : List String) (s : Scope) : renamed names names s = (names, s) := by
  induction names with
  | nil => rfl
  | cons name names ih => rw [renamed_cons_self, ih]

theorem rename_self (f : Function) : f.rename f.params = f := by
  rw [rename, renamed_self]

/-! ### New declarations -/

theorem mem_used_unnamed_iff (n : Nat) (plain : IsPlain x) :
    x ∈ (unnamed n s).2.used ↔ x ∈ s.used := by
  induction n generalizing s with
  | zero => rfl
  | succ n ih =>
    rw [unnamed, ih, Scope.mem_used_fresh_iff plain]
    exact or_iff_right plain.nonempty

/-- In a new declaration no plain name is in use. -/
theorem not_mem_used_declare (n : Nat) (plain : IsPlain x) : x ∉ (declare name n).scope.used := by
  intro used
  rw [declare, Scope.mem_used_fresh_iff plain, or_iff_right plain.nonempty,
    mem_used_unnamed_iff n plain] at used
  exact plain.nonempty (List.mem_singleton.mp used)

end Function

end Reckoner.IR
