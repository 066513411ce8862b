import Reckoner.IR.Function

/-! Names within a function never clash.

A scope gives out names that are new to it (`Scope.fresh_not_mem`), and it never
forgets one. So whatever is done to a function under construction, the names that
its text shows as local ones, those of parameters, blocks and results, stay
distinct and in use: that is `Function.Named`, and each operation keeps it. It does
not matter how often parameters were renamed before, nor under which of their
names they were printed. -/
namespace Reckoner.IR

namespace Scope

theorem toList_numbered (base : String) (n : Nat) :
    (numbered base n).toList = base.toList ++ '.' :: Nat.toDigits 10 n := by
  simp only [numbered, String.toList_append]
  simp [toString, Nat.repr_eq_ofList_toDigits]

theorem numbered_inj {base : String} {m n : Nat} (h : numbered base m = numbered base n) :
    m = n := by
  have digits : Nat.toDigits 10 m = Nat.toDigits 10 n := by
    have := congrArg String.toList h
    rw [toList_numbered, toList_numbered] at this
    simpa using this
  have back (k : Nat) : Nat.ofDigitChars 10 (Nat.toDigits 10 k) 0 = k :=
    Nat.ofDigitChars_toDigits (by decide) (by decide)
  rw [← back m, digits, back n]

theorem numbered_ne (base : String) (n : Nat) : numbered base n ≠ base := by
  intro h
  have := congrArg List.length (congrArg String.toList h)
  rw [toList_numbered] at this
  simp at this

/-- Either the search ends at a new name, or all numbers tried make names in use. -/
theorem nextNumber_spec (s : Scope) (base : String) (n tries : Nat) :
    numbered base (s.nextNumber base n tries) ∉ s.used ∨
      ∀ k, n < k → k ≤ n + tries → numbered base k ∈ s.used := by
  induction tries generalizing n with
  | zero => exact .inr fun k _ _ => by omega
  | succ tries ih =>
    rw [nextNumber]
    by_cases taken : numbered base (n + 1) ∈ s.used
    · rw [if_pos taken]
      rcases ih (n + 1) with h | h
      · exact .inl h
      · refine .inr fun k above below => ?_
        rcases Nat.lt_or_ge (n + 1) k with far | near
        · exact h k far (by omega)
        · rwa [show k = n + 1 by omega]
    · rw [if_neg taken]
      exact .inl taken

/-- A fresh name was not in use. -/
theorem fresh_not_mem (s : Scope) (base : String) : (s.fresh base).1 ∉ s.used := by
  unfold fresh
  split
  · rename_i taken
    -- The base and as many numbered names as there are names in use are too many.
    rcases nextNumber_spec s base (s.counter base) s.used.length with h | h
    · exact h
    · let tried := (List.range s.used.length).map fun i => numbered base (s.counter base + 1 + i)
      have distinct : (base :: tried).Nodup := by
        refine List.nodup_cons.mpr ⟨?_, ?_⟩
        · intro mem
          obtain ⟨i, -, same⟩ := List.mem_map.mp mem
          exact numbered_ne base _ same
        · refine List.Pairwise.map _ ?_ (List.nodup_range (n := s.used.length))
          intro i j ne same
          have := numbered_inj same
          omega
      have within : base :: tried ⊆ s.used := by
        intro x mem
        rcases List.mem_cons.mp mem with rfl | mem
        · exact taken
        · obtain ⟨i, below, rfl⟩ := List.mem_map.mp mem
          rw [List.mem_range] at below
          exact h _ (by omega) (by omega)
      have := distinct.length_le_of_subset within
      simp only [tried, List.length_cons, List.length_map, List.length_range] at this
      omega
  · assumption

theorem fresh_mem_used (s : Scope) (base : String) : (s.fresh base).1 ∈ (s.fresh base).2.used :=
  (s.mem_used_fresh base _).mpr (.inl rfl)

theorem used_subset_fresh (s : Scope) (base : String) : s.used ⊆ (s.fresh base).2.used :=
  fun _ h => (s.mem_used_fresh base _).mpr (.inr h)

/-- A fresh name is the name asked for, or that name with a number. -/
theorem fresh_eq_or (s : Scope) (base : String) :
    (s.fresh base).1 = base ∨ ∃ n, (s.fresh base).1 = numbered base n := by
  unfold fresh
  split
  · exact .inr ⟨_, rfl⟩
  · exact .inl rfl

theorem point_mem_numbered (base : String) (n : Nat) : '.' ∈ (numbered base n).toList := by
  rw [toList_numbered]
  exact List.mem_append_right _ List.mem_cons_self

/-- What holds of the characters of a name, of digits and of the point holds of the
characters of the fresh name made from it. -/
theorem fresh_chars {p : Char → Prop} (s : Scope) {base : String} (hbase : ∀ c ∈ base.toList, p c)
    (point : p '.') (digit : ∀ c : Char, c.isDigit = true → p c) :
    ∀ c ∈ (s.fresh base).1.toList, p c := by
  unfold fresh
  split
  · intro c hc
    rw [toList_numbered] at hc
    rcases List.mem_append.mp hc with hc | hc
    · exact hbase c hc
    · rcases List.mem_cons.mp hc with rfl | hc
      · exact point
      · exact digit c (Nat.isDigit_of_mem_toDigits (by decide) (by decide) hc)
  · exact hbase

end Scope

/-- The type of the result of an instruction. -/
def Instr.type : Instr → Ty
  | compare .. => .flag
  | _ => .double

/-- The result of an instruction as operands refer to it. -/
def Instr.result (i : Instr) : String × Ty :=
  (i.name, i.type)

/-- The function that an instruction calls. -/
def Instr.callee? : Instr → Option String
  | call _ callee _ => some callee
  | _ => none

namespace Function

def labels (f : Function) : List String :=
  f.blocks.map Block.label

/-- The names of the results of all instructions. -/
def resultNames (f : Function) : List String :=
  f.blocks.flatMap fun b => b.instrs.map Instr.name

/-- The local names that the text of a function shows. -/
def localNames (f : Function) : List String :=
  f.shownParams ++ f.labels ++ f.resultNames

/-- Local names are distinct and in use, and so are the current names of the
parameters. -/
structure Named (f : Function) : Prop where
  params_nodup : f.params.Nodup
  params_used : f.params ⊆ f.scope.used
  nodup : f.localNames.Nodup
  used : f.localNames ⊆ f.scope.used

/-! ### Parameters -/

theorem used_subset_unnamed (n : Nat) (s : Scope) : s.used ⊆ (unnamed n s).2.used := by
  induction n generalizing s with
  | zero => exact List.Subset.refl _
  | succ n ih => exact List.Subset.trans (s.used_subset_fresh "") (ih _)

/-- The names of parameters without names of their own are new and distinct. -/
theorem unnamed_spec (n : Nat) (s : Scope) :
    (unnamed n s).1.Nodup ∧ ∀ x ∈ (unnamed n s).1, x ∉ s.used ∧ x ∈ (unnamed n s).2.used := by
  induction n generalizing s with
  | zero => exact ⟨List.nodup_nil, fun x h => by cases h⟩
  | succ n ih =>
    obtain ⟨nodup, fresh⟩ := ih (s.fresh "").2
    rw [unnamed]
    refine ⟨List.nodup_cons.mpr ⟨fun mem => ?_, nodup⟩, fun x mem => ?_⟩
    · exact (fresh _ mem).1 (s.fresh_mem_used "")
    · rcases List.mem_cons.mp mem with rfl | mem
      · exact ⟨s.fresh_not_mem "", used_subset_unnamed n _ (s.fresh_mem_used "")⟩
      · exact ⟨fun h => (fresh x mem).1 (s.used_subset_fresh "" h), (fresh x mem).2⟩

theorem named_declare (name : String) (n : Nat) : (declare name n).Named := by
  obtain ⟨nodup, fresh⟩ := unnamed_spec n {}
  have used : (unnamed n {}).1 ⊆ (declare name n).scope.used := fun x h =>
    Scope.used_subset_fresh _ "" (fresh x h).2
  have shown : (declare name n).localNames = (unnamed n {}).1 := by
    simp [localNames, labels, resultNames, declare, shownParams]
  exact ⟨nodup, used, by rwa [shown], by rwa [shown]⟩

theorem used_subset_renamed (olds news : List String) (s : Scope) :
    s.used ⊆ (renamed olds news s).2.used := by
  induction olds generalizing news s with
  | nil => cases news <;> exact List.Subset.refl _
  | cons old olds ih =>
    cases news with
    | nil => exact List.Subset.refl _
    | cons new news =>
      rw [renamed]
      by_cases same : old = new
      · simp only [if_pos same]
        exact ih news s
      · simp only [if_neg same]
        exact List.Subset.trans (s.used_subset_fresh new) (ih news _)

/-- Each name after a renaming is one from before or a new one, and they are
distinct if they were. -/
theorem renamed_spec (olds news : List String) (s : Scope) (nodup : olds.Nodup)
    (used : olds ⊆ s.used) :
    (renamed olds news s).1.Nodup ∧ (renamed olds news s).1 ⊆ (renamed olds news s).2.used ∧
      ∀ x ∈ (renamed olds news s).1, x ∈ olds ∨ x ∉ s.used := by
  induction olds generalizing news s with
  | nil => cases news <;> simp [renamed]
  | cons old olds ih =>
    cases news with
    | nil => exact ⟨nodup, used, fun x h => .inl h⟩
    | cons new news =>
      obtain ⟨hold, nodup⟩ := List.nodup_cons.mp nodup
      obtain ⟨here, used⟩ := List.cons_subset.mp used
      rw [renamed]
      by_cases same : old = new
      · simp only [if_pos same]
        obtain ⟨ihn, ihu, ihf⟩ := ih news s nodup used
        refine ⟨List.nodup_cons.mpr ⟨fun mem => ?_, ihn⟩, ?_, fun x mem => ?_⟩
        · exact (ihf old mem).elim hold (fun h => h here)
        · exact List.cons_subset.mpr ⟨used_subset_renamed olds news s here, ihu⟩
        · rcases List.mem_cons.mp mem with rfl | mem
          · exact .inl List.mem_cons_self
          · exact (ihf x mem).imp_left (List.mem_cons_of_mem _)
      · simp only [if_neg same]
        have kept : olds ⊆ (s.fresh new).2.used := fun x h => s.used_subset_fresh new (used h)
        obtain ⟨ihn, ihu, ihf⟩ := ih news _ nodup kept
        refine ⟨List.nodup_cons.mpr ⟨fun mem => ?_, ihn⟩, ?_, fun x mem => ?_⟩
        · rcases ihf _ mem with h | h
          · exact s.fresh_not_mem new (used h)
          · exact h (s.fresh_mem_used new)
        · exact List.cons_subset.mpr
            ⟨used_subset_renamed olds news _ (s.fresh_mem_used new), ihu⟩
        · rcases List.mem_cons.mp mem with rfl | mem
          · exact .inr (s.fresh_not_mem new)
          · rcases ihf x mem with h | h
            · exact .inl (List.mem_cons_of_mem _ h)
            · exact .inr fun hx => h (s.used_subset_fresh new hx)

/-- Renaming the parameters of a declaration keeps names distinct, also where it
has been printed under other ones. -/
theorem Named.rename {f : Function} (h : f.Named) (declared : f.blocks = []) (names : List String) :
    (f.rename names).Named := by
  obtain ⟨nodup, used, -⟩ := renamed_spec f.params names f.scope h.params_nodup h.params_used
  have shown {g : Function} (hg : g.blocks = []) : g.localNames = g.shownParams := by
    simp [localNames, labels, resultNames, hg]
  have hshown : (f.rename names).localNames = (f.rename names).shownParams := shown declared
  refine ⟨nodup, used, ?_, ?_⟩
  · rw [hshown]
    cases hp : f.printed with
    | none => simpa [shownParams, Function.rename, hp] using nodup
    | some ps =>
      have := h.nodup
      rw [shown declared] at this
      simpa [shownParams, Function.rename, hp] using this
  · rw [hshown]
    cases hp : f.printed with
    | none => simpa [shownParams, Function.rename, hp] using used
    | some ps =>
      have old := h.used
      rw [shown declared] at old
      have same : (f.rename names).shownParams = f.shownParams := by
        simp [shownParams, Function.rename, hp]
      rw [same]
      exact List.Subset.trans old (used_subset_renamed f.params names f.scope)

theorem Named.fixNames {f : Function} (h : f.Named) : f.fixNames.Named :=
  ⟨h.params_nodup, h.params_used, h.nodup, h.used⟩

/-- A declaration with the parameters of `f`, and a scope in which no less is in
use, has distinct names if `f` has. -/
theorem Named.declaration {f g : Function} (h : f.Named) (params : g.params = f.params)
    (printed : g.printed = f.printed) (used : f.scope.used ⊆ g.scope.used)
    (declared : g.blocks = []) : g.Named := by
  have shown : g.localNames = f.shownParams := by
    simp [localNames, labels, resultNames, declared, shownParams, params, printed]
  have sub : f.shownParams ⊆ f.localNames := fun x hx => by simp [localNames, hx]
  have nodup : f.shownParams.Nodup := by
    have := h.nodup
    rw [localNames, List.append_assoc] at this
    exact (List.nodup_append.mp this).1
  refine ⟨by rw [params]; exact h.params_nodup, ?_, by rw [shown]; exact nodup, ?_⟩
  · rw [params]
    exact List.Subset.trans h.params_used used
  · rw [shown]
    exact List.Subset.trans sub (List.Subset.trans h.used used)

end Function

end Reckoner.IR
