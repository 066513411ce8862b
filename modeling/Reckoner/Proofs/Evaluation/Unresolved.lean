import Mathlib.Data.String.Basic
import Reckoner.Proofs.Evaluation
import Reckoner.Proofs.Llvm.Standard

/-! Which calls cannot be resolved.

A call is looked at for all of its operands, the callee and the arguments, by the names
under which they are shown. So a declared function that is to be found nowhere is
listed if it is called, and also if an argument of some call happens to be shown under
its name (`Module.mem_unresolved_iff`). The list holds just what is called unless such an
argument is there. -/
namespace Reckoner

namespace Listing

/-- Names are listed once. -/
theorem nodup_eraseDups (names : List String) : names.eraseDups.Nodup := by
  induction bound : names.length using Nat.strongRecOn generalizing names with
  | ind n ih =>
    cases names with
    | nil => exact List.nodup_nil
    | cons x rest =>
      subst bound
      have shorter : (rest.filter fun y => !y == x).length < (x :: rest).length :=
        Nat.lt_succ_of_le (List.length_filter_le _ _)
      rw [List.eraseDups_cons, List.nodup_cons]
      exact ⟨by simp [List.mem_eraseDups], ih _ shorter _ rfl⟩

/-- Names that are put in order ascend if none is there twice. -/
theorem pairwise_mergeSort_of_nodup {names : List String} (distinct : names.Nodup) :
    (names.mergeSort fun a b => !decide (b < a)).Pairwise (· < ·) := by
  have nodup := (List.mergeSort_perm names fun a b => !decide (b < a)).nodup_iff.mpr distinct
  have trans (a b c : String) (hab : (!decide (b < a)) = true) (hbc : (!decide (c < b)) = true) :
      (!decide (c < a)) = true := by
    simp only [Bool.not_eq_true', decide_eq_false_iff_not, not_lt] at *
    exact hab.trans hbc
  have total (a b : String) : (!decide (b < a) || !decide (a < b)) = true := by
    simp only [Bool.or_eq_true, Bool.not_eq_true', decide_eq_false_iff_not, not_lt]
    exact le_total a b
  refine (List.pairwise_mergeSort trans total names).imp₂ (fun a b before ne => ?_) nodup
  simp only [Bool.not_eq_true', decide_eq_false_iff_not, not_lt] at before
  exact lt_of_le_of_ne before ne

/-- The list is in order and holds no name twice. -/
theorem unresolved_pairwise (hasSymbol : String → Bool) (l : Listing) :
    (l.unresolved hasSymbol).Pairwise (· < ·) :=
  pairwise_mergeSort_of_nodup (nodup_eraseDups _)

end Listing

namespace IR

/-- The arguments of a call. -/
def Instr.passed : Instr → List Operand
  | call _ _ args => args
  | _ => []

namespace Module

/-- A function is declared without a body, and found nowhere else. -/
def IsAbsent (m : Module) (hasSymbol : String → Bool) (name : String) : Prop :=
  (∃ f ∈ m.functions, f.isDeclaration = true ∧ f.name = name) ∧ hasSymbol name = false

/-- Some call is to a function of a given name. -/
def IsCalled (m : Module) (name : String) : Prop :=
  ∃ f ∈ m.functions, ∃ b ∈ f.blocks, ∃ i ∈ b.instrs, i.callee? = some name

/-- Some call has an argument that is shown under a given name. -/
def IsPassed (m : Module) (name : String) : Prop :=
  ∃ f ∈ m.functions, ∃ b ∈ f.blocks, ∃ i ∈ b.instrs, ∃ o ∈ i.passed,
    o.shownName f.shownParams = name

instance (m : Module) (hasSymbol : String → Bool) (name : String) :
    Decidable (m.IsAbsent hasSymbol name) :=
  inferInstanceAs (Decidable ((∃ f ∈ m.functions, _ ∧ _) ∧ _))

instance (m : Module) (name : String) : Decidable (m.IsCalled name) :=
  inferInstanceAs (Decidable (∃ f ∈ m.functions, ∃ b ∈ f.blocks, ∃ i ∈ b.instrs, _))

instance (m : Module) (name : String) : Decidable (m.IsPassed name) :=
  inferInstanceAs (Decidable (∃ f ∈ m.functions, ∃ b ∈ f.blocks, ∃ i ∈ b.instrs, ∃ o ∈ i.passed, _))

end Module

/-! ### What calls name -/

/-- The operands that a listed call names. -/
theorem Instr.mem_operands_listing (i : Instr) (params : List String) (name : String) :
    (i.opcode = "call" ∧ name ∈ (i.listing params).operands) ↔
      i.callee? = some name ∨ ∃ o ∈ i.passed, o.shownName params = name := by
  cases i with
  | call n callee args =>
    simp [opcode, listing, listed, callee?, passed, Operand.shownName, or_comm, eq_comm]
  | arithmetic n op x y => cases op <;> simp [opcode, callee?, passed, Arithmetic.text]
  | compare n relation x y => simp [opcode, callee?, passed]
  | widen n x => simp [opcode, callee?, passed]
  | phi n incoming => simp [opcode, callee?, passed]

theorem Terminator.opcode_listing (t : Terminator) (params : List String) :
    (t.listing params).opcode ≠ "call" := by
  cases t <;> simp [listing]

/-- A block names what its calls are to and what they are given. -/
theorem Block.exists_listing_iff (b : Block) (params : List String) (name : String) :
    (∃ i ∈ b.listing params, i.opcode = "call" ∧ name ∈ i.operands) ↔
      ∃ i ∈ b.instrs, i.callee? = some name ∨ ∃ o ∈ i.passed, o.shownName params = name := by
  constructor
  · rintro ⟨i, hi, call, mem⟩
    rcases List.mem_append.mp hi with hi | hi
    · obtain ⟨j, hj, rfl⟩ := List.mem_map.mp hi
      exact ⟨j, hj, (j.mem_operands_listing params name).mp ⟨call, mem⟩⟩
    · obtain ⟨t, -, rfl⟩ := Option.map_eq_some_iff.mp (Option.mem_toList.mp hi)
      exact absurd call (t.opcode_listing params)
  · rintro ⟨i, hi, named⟩
    obtain ⟨call, mem⟩ := (i.mem_operands_listing params name).mpr named
    exact ⟨_, List.mem_append_left _ (List.mem_map_of_mem hi), call, mem⟩

theorem Function.mem_named_iff (f : Function) (name : String) :
    name ∈ f.listing.named ↔ ∃ b ∈ f.blocks, ∃ i ∈ b.instrs,
      i.callee? = some name ∨ ∃ o ∈ i.passed, o.shownName f.shownParams = name := by
  simp only [← Block.exists_listing_iff]
  rw [Listing.Function.named, listing]
  by_cases declared : f.isDeclaration = true
  · have none : f.blocks = [] := List.isEmpty_iff.mp declared
    simp [declared, none]
  · simp [declared, List.mem_flatMap, and_assoc]

namespace Module
variable {m : Module}

/-- What is listed: absent functions that are called or seem to be. -/
theorem mem_unresolved_iff (ordinary : ∀ f ∈ m.functions, isReserved f.name = false)
    (hasSymbol : String → Bool) (name : String) :
    name ∈ m.listing.unresolved hasSymbol ↔
      m.IsAbsent hasSymbol name ∧ (m.IsCalled name ∨ m.IsPassed name) := by
  have declared : ((m.listing.filter (·.isDeclaration)).map Listing.Function.name).contains name =
      true ↔ ∃ f ∈ m.functions, f.isDeclaration = true ∧ f.name = name := by
    rw [Module.listing, List.filter_map, List.map_map, List.contains_iff_mem]
    simp [Function.listing, and_assoc]
  have mentioned : name ∈ m.listing.flatMap Listing.Function.named ↔
      m.IsCalled name ∨ m.IsPassed name := by
    rw [Module.listing, List.flatMap_map, List.mem_flatMap]
    simp only [Function.mem_named_iff, IsCalled, IsPassed]
    constructor
    · rintro ⟨f, hf, b, hb, i, hi, called | passed⟩
      · exact .inl ⟨f, hf, b, hb, i, hi, called⟩
      · exact .inr ⟨f, hf, b, hb, i, hi, passed⟩
    · rintro (⟨f, hf, b, hb, i, hi, called⟩ | ⟨f, hf, b, hb, i, hi, passed⟩)
      · exact ⟨f, hf, b, hb, i, hi, .inl called⟩
      · exact ⟨f, hf, b, hb, i, hi, .inr passed⟩
  simp only [Listing.unresolved, List.mem_mergeSort, List.mem_eraseDups, List.mem_filter,
    Bool.and_eq_true, Bool.not_eq_true', declared, mentioned]
  constructor
  · rintro ⟨named, ⟨found, -⟩, absent⟩
    exact ⟨⟨found, absent⟩, named⟩
  · rintro ⟨⟨⟨f, hf, body, rfl⟩, absent⟩, named⟩
    exact ⟨named, ⟨⟨f, hf, body, rfl⟩, ordinary f hf⟩, absent⟩

end Module

end IR

namespace Lowering
open IR

section
variable {moduleName : String} {P : Program} {g : Generator} {m : Module}

/-- **Which calls are reported as unresolved**, whatever has a symbol: those of absent
functions, and those of others with an argument that is shown under the name of an absent
function. Just the absent functions that are called are listed if and only if no such
argument is shown under the name of one that is not called. Where code is not improved and
the names in it are shown, a run is refused if any are listed of a module that can be read,
and a reader can read the module unless a local name is too long, for which a long parameter is
enough. -/
theorem Reaches.unresolved_exact (h : Reaches moduleName P g) (hasSymbol : String → Bool) :
    (g.module.listing.unresolved hasSymbol).Pairwise (· < ·) ∧
      (∀ name, name ∈ g.module.listing.unresolved hasSymbol ↔
        g.module.IsAbsent hasSymbol name ∧ (g.module.IsCalled name ∨ g.module.IsPassed name)) ∧
      ((∀ name, name ∈ g.module.listing.unresolved hasSymbol ↔
          g.module.IsAbsent hasSymbol name ∧ g.module.IsCalled name) ↔
        ∀ name, g.module.IsAbsent hasSymbol name → g.module.IsPassed name → g.module.IsCalled name) ∧
      (∀ (llvm : Llvm) started name, llvm.Shows .none g.module → llvm.hasSymbol started = hasSymbol →
        ((∃ names, Evaluation.run llvm started .none g.module name = .error (.unresolved names)) ↔
          (∃ held, llvm.read g.module = .ok held) ∧
            ∃ x, g.module.IsAbsent hasSymbol x ∧ (g.module.IsCalled x ∨ g.module.IsPassed x))) ∧
      (IsModest moduleName → ∀ llvm : Llvm, llvm.IsReader → llvm.Shows .none g.module ∧
        (g.module.IsShort → ∃ held, llvm.read g.module = .ok held) ∧
          (g.module.HasLongParam → ∃ text, llvm.read g.module = .error text)) := by
  obtain ⟨-, settled, name⟩ := h.settled
  have listed := Module.mem_unresolved_iff (m := g.module)
    (fun f hf => (settled.spelled f hf).ordinary) hasSymbol
  refine ⟨Listing.unresolved_pairwise _ _, listed, ?_, fun llvm started x shows symbols => ?_,
    fun modest llvm reader => ?_⟩
  · constructor
    · intro exact name absent passed
      exact ((exact name).mp ((listed name).mpr ⟨absent, .inr passed⟩)).2
    · intro harmless name
      rw [listed name]
      refine and_congr_right fun absent => ?_
      exact or_iff_left_of_imp (harmless name absent)
  · simp only [Evaluation.run_unresolved_iff, symbols, ← listed]
    constructor
    · rintro ⟨held, compiled, missing⟩
      rw [shows held compiled] at missing
      exact ⟨⟨held, Evaluation.compile_none.mp compiled⟩, missing⟩
    · rintro ⟨⟨held, read⟩, missing⟩
      have compiled := Evaluation.compile_none.mpr read
      exact ⟨held, compiled, by rwa [shows held compiled]⟩
  · have name : g.module.name = moduleName := name
    have legible := settled.legible (name ▸ modest)
    exact ⟨reader.shows _ settled.valid legible, reader.accepts _ settled.valid legible,
      reader.refuses _ settled.valid legible⟩

/-- A process where only host functions have symbols. -/
def hostSymbols (name : String) : Bool :=
  (Host.ofName? name).isSome

/-- After `extern a(x)` and `def f(a) f(a)`, the function `a` is called by none, but is
listed. -/
theorem unresolved_of_parameter :
    let g := (Generator.ofName "kaleidoscope").generateAll
      [.prototype ⟨"a", ["x"], none⟩,
        .function ⟨"f", ["a"], none⟩ (.call "f" [.var "a" none] none) none]
    let llvm := Llvm.ofFinish (fun _ => hostSymbols) (Machine.finish .standard)
    "a" ∈ g.module.listing.unresolved hostSymbols ∧ ¬g.module.IsCalled "a" ∧
      ∃ names, Evaluation.run llvm false .none g.module "f" = .error (.unresolved names) := by
  intro g llvm
  have term : (Expr.call "f" [.var "a" none] none).IsTerm :=
    show IsIdentifier "f" ∧ IsIdentifier "a" ∧ True by decide +kernel
  have reached : Reaches "kaleidoscope" _ g :=
    (Reaches.start.generate (.declaration (p := ⟨"a", ["x"], none⟩) (by decide +kernel))).generate
      (.definition (p := ⟨"f", ["a"], none⟩) (by decide +kernel) term)
  obtain ⟨-, listed, -, run, reads⟩ := reached.unresolved_exact hostSymbols
  have absent : g.module.IsAbsent hostSymbols "a" := by decide +kernel
  have passed : g.module.IsPassed "a" := by decide +kernel
  have short : g.module.IsShort := by decide +kernel
  refine ⟨(listed "a").mpr ⟨absent, .inr passed⟩, by decide +kernel, ?_⟩
  have modest : IsModest "kaleidoscope" := by decide +kernel
  obtain ⟨shows, read, -⟩ := reads modest llvm Llvm.isReader_ofFinish
  exact (run llvm false "f" shows rfl).mpr ⟨read short, "a", absent, .inr passed⟩

end

end Lowering

end Reckoner
