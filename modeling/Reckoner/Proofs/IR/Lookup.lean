import Mathlib.Data.List.Basic
import Reckoner.IR.Module

/-! Names in a module.

What a module holds under a name, whatever else it holds, and what adding, removing and changing
makes of that. A change under one name is not seen under another. -/
namespace Reckoner.IR.Module

variable {m : Module} {g : Global} {f k : Function} {name other : String}

theorem name_of_find? (found : m.find? name = some g) : g.name = name := by
  simpa using List.find?_some found

theorem isSome_find?_iff : (m.find? name).isSome = true ↔ name ∈ m.names := by
  simp [find?, names]

theorem function?_eq_some_iff : m.function? name = some f ↔ m.find? name = some (.function f) := by
  rw [function?, Option.bind_eq_some_iff]
  constructor
  · rintro ⟨g, found, is⟩
    cases g with
    | function f' =>
      cases is
      exact found
    | cell _ => cases is
  · intro found
    exact ⟨_, found, rfl⟩

theorem function?_of_find?_none (free : m.find? name = none) : m.function? name = none := by
  rw [function?, free, Option.bind_none]

/-! ### Adding and removing -/

theorem find?_add_self (free : m.find? g.name = none) : (m.add g).find? g.name = some g := by
  simp only [find?] at free
  simp only [add, find?, List.find?_append, free, Option.none_or]
  simp

theorem find?_add_of_ne (ne : name ≠ g.name) : (m.add g).find? name = m.find? name := by
  simp [add, find?, List.find?_append, ne.symm]

theorem find?_remove_of_ne (ne : name ≠ other) : (m.remove other).find? name = m.find? name := by
  simp only [remove, find?, List.find?_filter]
  congr 1
  funext g
  by_cases here : g.name = name <;> simp [here, ne]

theorem function?_remove_self (m : Module) (name : String) : (m.remove name).function? name = none :=
  function?_of_find?_none (m.find?_remove_self name)

theorem function?_remove_of_ne (ne : name ≠ other) :
    (m.remove other).function? name = m.function? name := by
  rw [function?, find?_remove_of_ne ne, function?]

/-! ### Changing -/

/-- A change of a function that keeps its name is seen under that name only. -/
theorem find?_modify {change : Function → Function}
    (same : ∀ f, f.name = other → (change f).name = other) (name : String) :
    (m.modify other change).find? name = (m.find? name).map fun
      | .function f => .function (if f.name = other then change f else f)
      | g => g := by
  simp only [modify, find?, List.find?_map]
  congr 2
  funext g
  cases g with
  | function f =>
    by_cases here : f.name = other
    · simp [Global.name, here, same f here]
    · simp only [Function.comp_apply, Global.name, if_neg here]
      rfl
  | cell _ => rfl

theorem find?_put_self (found : m.find? f.name = some (.function k)) :
    (m.put f).find? f.name = some (.function f) := by
  have same : k.name = f.name := name_of_find? found
  rw [put, find?_modify fun _ _ => rfl, found, Option.map_some]
  simp only [if_pos same]

theorem find?_put_of_ne (ne : name ≠ f.name) : (m.put f).find? name = m.find? name := by
  rw [put, find?_modify fun _ _ => rfl]
  cases found : m.find? name with
  | none => rfl
  | some g =>
    have here := name_of_find? found
    cases g with
    | function k =>
      have other : k.name ≠ f.name := fun same => ne (here.symm.trans same)
      simp only [Option.map_some, if_neg other]
    | cell _ => rfl

/-! ### Setting -/

/-- Puts a function in the place of the one with its name, or at the end. -/
def set (m : Module) (f : Function) : Module :=
  if (m.function? f.name).isSome then m.put f else m.add (.function f)

theorem name_set (m : Module) (f : Function) : (m.set f).name = m.name := by
  unfold set
  split <;> rfl

theorem function?_set_of_ne (ne : name ≠ f.name) : (m.set f).function? name = m.function? name := by
  unfold set function?
  split
  · rw [find?_put_of_ne ne]
  · rw [find?_add_of_ne (g := .function f) ne]

/-- A function that has been set is found, unless its name is that of a cell. -/
theorem function?_set_self (clear : ∀ c, m.find? f.name ≠ some (.cell c)) :
    (m.set f).function? f.name = some f := by
  rw [function?_eq_some_iff, set]
  cases found : m.find? f.name with
  | none =>
    rw [function?_of_find?_none found, Option.isSome_none, if_neg Bool.false_ne_true]
    exact find?_add_self (g := .function f) found
  | some g =>
    cases g with
    | function k =>
      rw [function?_eq_some_iff.mpr found, Option.isSome_some, if_pos rfl]
      exact find?_put_self found
    | cell c => exact absurd found (clear c)

end Reckoner.IR.Module
