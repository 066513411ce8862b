import Mathlib.Data.List.Nodup
import Reckoner.Proofs.IR.Lookup
import Reckoner.Proofs.IR.Names

/-! A module as a register of functions.

A module that holds functions only, no two of one name, is looked at through the
list of its functions (`Module.Registry`). Each operation on the module is one on
that list, and a function is found under its name exactly if it is in the list. -/
namespace Reckoner.IR.Module

variable {m : Module} {f : Function} {name : String}

/-- Every global is a function, and no two have the same name. -/
structure Registry (m : Module) : Prop where
  globals : m.globals = m.functions.map Global.function
  distinct : (m.functions.map Function.name).Nodup

theorem functions_eq {fs : List Function} (h : m.globals = fs.map Global.function) :
    m.functions = fs := by
  rw [functions, h, List.filterMap_map]
  exact List.filterMap_some

theorem registry_of {fs : List Function} (h : m.globals = fs.map Global.function)
    (distinct : (fs.map Function.name).Nodup) : m.Registry := by
  have same := functions_eq h
  exact ⟨by rw [same, h], by rwa [same]⟩

/-! ### Looking up -/

theorem Registry.function?_eq (h : m.Registry) :
    m.function? name = m.functions.find? (·.name = name) := by
  rw [function?, find?, h.globals, List.find?_map]
  show ((m.functions.find? (·.name = name)).map Global.function).bind Global.function? = _
  cases m.functions.find? (·.name = name) <;> rfl

theorem Registry.find?_eq (h : m.Registry) :
    m.find? name = (m.function? name).map Global.function := by
  rw [h.function?_eq, find?, h.globals, List.find?_map]
  rfl

theorem Registry.find?_ne_cell (h : m.Registry) {c : String} : m.find? name ≠ some (.cell c) := by
  rw [h.find?_eq]
  cases m.function? name <;> exact nofun

theorem Registry.function?_eq_some_iff (h : m.Registry) :
    m.function? name = some f ↔ f ∈ m.functions ∧ f.name = name := by
  rw [h.function?_eq]
  constructor
  · intro found
    exact ⟨List.mem_of_find?_eq_some found, by simpa using List.find?_some found⟩
  · rintro ⟨mem, rfl⟩
    cases found : m.functions.find? (·.name = f.name) with
    | none => simpa using List.find?_eq_none.mp found f mem
    | some g =>
      -- Two functions of one name are the same.
      have same : g.name = f.name := by simpa using List.find?_some found
      rw [List.inj_on_of_nodup_map h.distinct (List.mem_of_find?_eq_some found) mem same]

theorem Registry.function?_eq_none_iff (h : m.Registry) :
    m.function? name = none ↔ ∀ f ∈ m.functions, f.name ≠ name := by
  rw [h.function?_eq, List.find?_eq_none]
  simp

theorem Registry.names_eq (h : m.Registry) : m.names = m.functions.map Function.name := by
  rw [names, h.globals, List.map_map]
  rfl

/-! ### Operations -/

theorem globals_modify (h : m.Registry) (name : String) (change : Function → Function) :
    (m.modify name change).globals =
      (m.functions.map fun f => if f.name = name then change f else f).map Global.function := by
  rw [modify, h.globals, List.map_map, List.map_map]
  rfl

theorem names_changed {fs : List Function} {change : Function → Function}
    (same : ∀ f ∈ fs, (change f).name = f.name) :
    (fs.map change).map Function.name = fs.map Function.name := by
  rw [List.map_map]
  exact List.map_congr_left same

theorem Registry.modify (h : m.Registry) {change : Function → Function}
    (same : ∀ f ∈ m.functions, f.name = name → (change f).name = name) :
    (m.modify name change).Registry ∧
      (m.modify name change).functions =
        m.functions.map fun f => if f.name = name then change f else f := by
  have globals := globals_modify h name change
  refine ⟨registry_of globals ?_, functions_eq globals⟩
  rw [names_changed fun f mem => ?_]
  · exact h.distinct
  · by_cases here : f.name = name
    · rw [if_pos here, same f mem here, here]
    · rw [if_neg here]

theorem Registry.put (h : m.Registry) (f : Function) :
    (m.put f).Registry ∧
      (m.put f).functions = m.functions.map fun g => if g.name = f.name then f else g :=
  h.modify fun _ _ _ => rfl

theorem Registry.fixNames (h : m.Registry) :
    m.fixNames.Registry ∧ m.fixNames.functions = m.functions.map Function.fixNames := by
  have globals : m.fixNames.globals = (m.functions.map Function.fixNames).map Global.function := by
    rw [Module.fixNames, h.globals, List.map_map, List.map_map]
    rfl
  refine ⟨registry_of globals ?_, functions_eq globals⟩
  rw [List.map_map]
  exact h.distinct

theorem Registry.add (h : m.Registry) (free : ∀ g ∈ m.functions, g.name ≠ f.name) :
    (m.add (.function f)).Registry ∧ (m.add (.function f)).functions = m.functions ++ [f] := by
  have globals : (m.add (.function f)).globals = (m.functions ++ [f]).map Global.function := by
    rw [Module.add, h.globals, List.map_append]
    rfl
  refine ⟨registry_of globals ?_, functions_eq globals⟩
  rw [List.map_append, List.nodup_append]
  refine ⟨h.distinct, List.pairwise_singleton _ _, fun x hx y hy same => ?_⟩
  obtain ⟨g, mem, rfl⟩ := List.mem_map.mp hx
  rw [List.map_cons, List.map_nil, List.mem_singleton] at hy
  exact free g mem (same.trans hy)

theorem Registry.remove (h : m.Registry) (name : String) :
    (m.remove name).Registry ∧ (m.remove name).functions = m.functions.filter (·.name ≠ name) := by
  have globals : (m.remove name).globals =
      (m.functions.filter (·.name ≠ name)).map Global.function := by
    rw [Module.remove, h.globals, List.filter_map]
    rfl
  refine ⟨registry_of globals ?_, functions_eq globals⟩
  exact h.distinct.sublist (List.filter_sublist.map _)

/-- A register is its name and its functions. -/
theorem Registry.ext {k : Module} (h : m.Registry) (hk : k.Registry) (name : m.name = k.name)
    (same : m.functions = k.functions) : m = k := by
  have globals : m.globals = k.globals := by rw [h.globals, hk.globals, same]
  cases m
  cases k
  cases name
  cases globals
  rfl

/-- There is nothing to remove under a name that no function has. -/
theorem Registry.remove_of_none (h : m.Registry) (free : m.function? name = none) :
    m.remove name = m := by
  obtain ⟨registry, functions⟩ := h.remove name
  refine registry.ext h rfl (functions.trans (List.filter_eq_self.mpr fun f hf => ?_))
  simpa using h.function?_eq_none_iff.mp free f hf

theorem Registry.set (h : m.Registry) (f : Function) :
    (m.set f).Registry ∧ ∀ g, g ∈ (m.set f).functions ↔ g = f ∨ g ∈ m.functions ∧ g.name ≠ f.name := by
  unfold Module.set
  cases found : m.function? f.name with
  | some old =>
    obtain ⟨mem, hold⟩ := h.function?_eq_some_iff.mp found
    obtain ⟨registry, functions⟩ := h.put f
    refine ⟨registry, fun g => ?_⟩
    rw [Option.isSome_some, if_pos rfl, functions, List.mem_map]
    constructor
    · rintro ⟨k, hk, rfl⟩
      by_cases same : k.name = f.name
      · exact .inl (if_pos same)
      · rw [if_neg same]
        exact .inr ⟨hk, same⟩
    · rintro (rfl | ⟨hg, ne⟩)
      · exact ⟨old, mem, if_pos hold⟩
      · exact ⟨g, hg, if_neg ne⟩
  | none =>
    have free := h.function?_eq_none_iff.mp found
    obtain ⟨registry, functions⟩ := h.add free
    refine ⟨registry, fun g => ?_⟩
    rw [Option.isSome_none, if_neg (by decide), functions, List.mem_append, List.mem_singleton]
    constructor
    · rintro (hg | rfl)
      · exact .inr ⟨hg, free g hg⟩
      · exact .inl rfl
    · rintro (rfl | ⟨hg, -⟩)
      · exact .inr rfl
      · exact .inl hg

theorem Registry.function?_set_self (h : m.Registry) (f : Function) :
    (m.set f).function? f.name = some f :=
  Module.function?_set_self fun _ => h.find?_ne_cell

/-- A change of a function that has just been put in its place. -/
theorem Registry.modify_set {change : Function → Function} (h : m.Registry)
    (same : (change f).name = f.name) : (m.set f).modify f.name change = m.set (change f) := by
  obtain ⟨registry, -⟩ := h.set f
  have only : ∀ g ∈ (m.set f).functions, g.name = f.name → (change g).name = f.name := by
    intro g hg here
    have found := registry.function?_eq_some_iff.mpr ⟨hg, here⟩
    rw [h.function?_set_self, Option.some.injEq] at found
    rw [← found, same]
  obtain ⟨changed, functions⟩ := registry.modify only
  refine changed.ext (h.set _).1 ?_ ?_
  · exact (name_set m f).trans (name_set m _).symm
  · rw [functions]
    unfold Module.set
    rw [same]
    cases found : m.function? f.name with
    | some old =>
      rw [Option.isSome_some, if_pos rfl, if_pos rfl, (h.put f).2, (h.put _).2, List.map_map]
      refine List.map_congr_left fun k _ => ?_
      by_cases here : k.name = f.name <;> simp [here, same]
    | none =>
      have free := h.function?_eq_none_iff.mp found
      have kept : m.functions.map (fun k => if k.name = f.name then change k else k) = m.functions :=
        (List.map_congr_left fun k hk => if_neg (free k hk)).trans (List.map_id' _)
      rw [Option.isSome_none, if_neg (by decide), if_neg (by decide), (h.add free).2,
        (h.add (same ▸ free)).2, List.map_append, kept]
      simp

theorem Registry.put_set {g : Function} (h : m.Registry) (same : g.name = f.name) :
    (m.set f).put g = m.set g := by
  rw [Module.put, same]
  exact @modify_set m f (fun _ => g) h same

/-- Taking a function away that was not there before. -/
theorem Registry.remove_set (h : m.Registry) (free : m.function? f.name = none) :
    (m.set f).remove f.name = m := by
  have names := h.function?_eq_none_iff.mp free
  obtain ⟨registry, functions⟩ := (h.set f).1.remove f.name
  refine registry.ext h ?_ ?_
  · exact name_set _ _
  · rw [functions, Module.set, free, Option.isSome_none, if_neg (by decide), (h.add names).2,
      List.filter_append]
    have kept : m.functions.filter (·.name ≠ f.name) = m.functions :=
      List.filter_eq_self.mpr fun g hg => by simpa using names g hg
    rw [kept]
    simp

end Reckoner.IR.Module
