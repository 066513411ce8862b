import Mathlib.Data.List.TakeWhile
import Reckoner.Llvm.Standard
import Reckoner.Proofs.Llvm
import Reckoner.Proofs.Machine

/-! The stand-in does what is asked of a code generator.

A valid and legible module is read as it stands, unless a parameter is shown under a name
of more than 1024 bytes (`accepted?_eq`), and each of its functions with a body is found
(`compiled?_eq`). So the stand-in is a reader (`isReader_ofFinish`), and it executes code as
a machine does in the process that it has (`standard_executes`). -/
namespace Reckoner

theorem IR.Function.Known.type_eq {f : Function} {label : String} {before : List Instr}
    {o : Operand} {type : Ty} (h : f.Known label before o type) : o.type = type := by
  cases h <;> rfl

namespace Llvm
open IR

/-! ### Reading -/

theorem endsText_eq_false {text : String} (h : ∀ c ∈ text.toList, c ≠ '\x00') :
    endsText text = false := by
  rw [endsText, List.contains_eq_any_beq, List.any_eq_false]
  intro c hc
  simpa using (h c hc).symm

theorem not_endsText_of_isDotted {name : String} (h : Lowering.IsDotted name) :
    endsText name = false := by
  refine endsText_eq_false fun c hc same => ?_
  subst same
  rcases h _ hc with alphanum | point
  · revert alphanum
    decide
  · cases point

theorem not_endsText_of_name {name : String} (h : IsIdentifier name ∨ name = anonymousName) :
    endsText name = false := by
  rcases h with identifier | rfl
  · exact not_endsText_of_isDotted (Lowering.isDotted_of_isIdentifier identifier)
  · decide

/-- Behind a modest name all globals are read. -/
theorem globalsBehind?_heading {m : Module} (h : IsModest m.name) (globals : List Global) :
    globalsBehind? m.heading globals = some globals := by
  have parts (c : Char) (hc : c ∈ m.name.toList) : Heading.isBreak c = false ∧ c ≠ '\x00' := by
    have none := h c hc
    simp only [breaksComment, Bool.or_eq_false_iff, decide_eq_false_iff_not] at none
    exact ⟨by simp [Heading.isBreak, none.1.1, none.1.2], none.2⟩
  have whole : endsText m.heading = false := by
    refine endsText_eq_false fun c hc => ?_
    unfold Module.heading at hc
    simp only [String.toList_append, List.mem_append] at hc
    rcases hc with (((hc | hc) | hc) | hc) | hc
    · exact ne_of_mem_of_not_mem hc (by decide)
    · exact (parts c hc).2
    · exact ne_of_mem_of_not_mem hc (by decide)
    · exact ne_of_mem_of_not_mem hc (by decide)
    · exact ne_of_mem_of_not_mem hc (by decide)
  have heading := isHeading_heading fun c hc => (parts c hc).1
  unfold globalsBehind?
  rw [whole, heading]
  rfl

theorem givesWay_eq_false {f : Function} (h : isReserved f.name = false) : givesWay f = false := by
  simp [givesWay, Intrinsic.isWithdrawn, Intrinsic.isAlias, Intrinsic.ofName?, h]

section
variable {m : Module} (valid : m.Valid) (legible : m.IsLegible)
include legible

theorem withoutAliases_eq : withoutAliases m = m := by
  have all : m.globals.filter (fun g => !g.function?.any givesWay) = m.globals := by
    refine List.filter_eq_self.mpr fun g hg => ?_
    rw [legible.registry.globals] at hg
    obtain ⟨f, hf, rfl⟩ := List.mem_map.mp hg
    have ordinary := Lowering.isReserved_eq_false (legible.name f hf)
    simp [Global.function?, givesWay_eq_false ordinary]
  rw [withoutAliases, all]

theorem allowsInstr_of_valid {f : Function} {label : String} {before : List Instr} {i : Instr}
    (valid : i.Valid m f label before) : allowsInstr m i = true := by
  cases valid with
  | arithmetic l r | compare l r => simp [allowsInstr, l.type_eq, r.type_eq]
  | widen _ | phi _ _ _ _ => rfl
  | @call n callee args g found count _ =>
    obtain ⟨mem, rfl⟩ := legible.registry.function?_eq_some_iff.mp found
    have ordinary := Lowering.isReserved_eq_false (legible.name g mem)
    simp [allowsInstr, allowsCall, legible.registry.find?_eq, found, ordinary]

include valid

/-- Nothing but a long name stands in the way of a function. -/
theorem allowsFunction_iff {f : Function} (hf : f ∈ m.functions) :
    allowsFunction m f = true ↔ ∀ x ∈ f.shownParams, x.utf8ByteSize ≤ localNameLimit := by
  have plain := not_endsText_of_name (legible.name f hf)
  have ordinary := Lowering.isReserved_eq_false (legible.name f hf)
  have blocks : f.blocks.all (allowsBlock m) = true := by
    refine List.all_eq_true.mpr fun b hb => ?_
    obtain ⟨⟨t, ended, -⟩, instrs⟩ := (valid.functions f hf).blocks b hb
    have allowed : b.instrs.all (allowsInstr m) = true := by
      refine List.all_eq_true.mpr fun i hi => ?_
      obtain ⟨before, after, split⟩ := List.append_of_mem hi
      exact allowsInstr_of_valid legible (instrs before i after split)
    rw [allowsBlock, ended, allowed]
    rfl
  have shown : f.shownParams.all isLocalName = true ↔
      ∀ x ∈ f.shownParams, x.utf8ByteSize ≤ localNameLimit := by
    rw [List.all_eq_true]
    refine forall₂_congr fun x hx => ?_
    have dotted := legible.locals f hf x (List.mem_append_left _ (List.mem_append_left _ hx))
    simp [isLocalName, not_endsText_of_isDotted dotted]
  rw [allowsFunction, plain, ordinary, blocks, ← shown]
  simp

/-- **What the stand-in reads**: the module as it stands, unless a parameter is shown under
a name that is too long. -/
theorem accepted?_eq : accepted? m = if m.HasLongParam then none else some m := by
  have kept := withoutAliases_eq legible
  have allowed : m.globals.all (allowsGlobal m) = true ↔ ¬m.HasLongParam := by
    rw [legible.registry.globals, List.all_map, List.all_eq_true]
    simp only [Module.HasLongParam, not_exists, not_and, Nat.not_lt]
    exact forall₂_congr fun f hf => allowsFunction_iff valid legible hf
  rw [accepted?, globalsBehind?_heading legible.modest, Option.bind_some]
  simp only [allowed, kept]
  by_cases long : m.HasLongParam <;> simp [long]

theorem parse_eq_ok (short : ¬m.HasLongParam) : parse m = .ok m := by
  rw [parse, accepted?_eq valid legible, if_neg short]

theorem parse_eq_error (long : m.HasLongParam) : ∃ text, parse m = .error text := by
  rw [parse, accepted?_eq valid legible, if_pos long]
  exact ⟨_, rfl⟩

end

/-! ### Code -/

variable {hasSymbol : Bool → String → Bool} {finish : Machine → Option Machine.Result}

/-- The stand-in with a bound on the steps of a run. -/
def within (steps : Nat) : Llvm :=
  ofFinish isSymbol (Machine.runFor .standard steps)

/-- No function is improved. -/
theorem improveAll_ofFinish (level : Evaluation.Level) (m : Module) :
    Evaluation.improveAll (ofFinish hasSymbol finish) level m = m := by
  have same (fs : List Listing.Function) : fs.foldl (fun held _ => held) m = m := by
    induction fs with
    | nil => rfl
    | cons _ _ ih => exact ih
  exact same _

/-- A name that statements give to a function stands for itself, and is to be found. -/
theorem symbol_of_name {name : String} (h : IsIdentifier name ∨ name = anonymousName) :
    symbol name.toList = name.toList ∧ isVisible name.toList = true := by
  rcases h with identifier | rfl
  · obtain ⟨c, cs, chars⟩ :=
      List.exists_cons_of_ne_nil (mt String.toList_eq_nil_iff.mp identifier.nonempty)
    have letter := identifier.alphanum c (chars ▸ List.mem_cons_self)
    rw [chars]
    have other {d : Char} (none : d.isAlphanum = false) : c ≠ d := by
      rintro rfl
      cases none.symm.trans letter
    constructor
    · unfold symbol
      split
      · rename_i same
        exact absurd (List.cons.inj same).1 (other (by decide))
      · rfl
    · have point := other (d := '.') (by decide)
      simp [isVisible, point, List.isPrefixOf, beq_false_of_ne point.symm]
  · decide

section
variable {m : Module} (valid : m.Valid) (legible : m.IsLegible)
include legible

/-- A function with a body is found under its name. -/
theorem compiled?_eq {f : Function} (hf : f ∈ m.functions) (body : f.blocks ≠ []) :
    compiled? m f.name = some f := by
  have named := legible.name f hf
  obtain ⟨same, visible⟩ := symbol_of_name named
  have whole : f.name.toList.takeWhile (· ≠ '\x00') = f.name.toList := by
    have plain := not_endsText_of_name named
    rw [endsText, List.contains_eq_any_beq, List.any_eq_false] at plain
    exact List.takeWhile_eq_self_iff.mpr fun c hc =>
      decide_eq_true fun same => plain c hc (beq_iff_eq.mpr same.symm)
  have found := legible.registry.function?_eq_some_iff.mpr ⟨hf, rfl⟩
  have defined : f.isDeclaration = false := by simpa [Function.isDeclaration] using body
  rw [compiled?, whole]
  simp only [same, visible, if_true, String.ofList_toList, found]
  simp [Option.filter, defined]

include valid

/-- What is to be run is the module itself. -/
theorem compile_ofFinish {level : Evaluation.Level} {held : Module}
    (h : Evaluation.compile (ofFinish hasSymbol finish) level m = .ok held) : held = m := by
  have read : (ofFinish hasSymbol finish).read m = parse m := rfl
  unfold Evaluation.compile at h
  rw [read] at h
  by_cases long : m.HasLongParam
  · obtain ⟨text, refused⟩ := parse_eq_error valid legible long
    rw [refused] at h
    cases h
  · rw [parse_eq_ok valid legible long] at h
    obtain rfl := Except.ok.inj h
    by_cases none : level = .none
    · exact if_pos none
    · exact (if_neg none).trans (improveAll_ofFinish level m)

theorem shows_ofFinish (level : Evaluation.Level) : (ofFinish hasSymbol finish).Shows level m := by
  intro held compiled
  rw [compile_ofFinish valid legible compiled]
  rfl

/-- **Code is executed** as a machine is run. -/
theorem standard_executes (level : Evaluation.Level) (name : String) :
    standard.Executes level .standard m name := by
  intro held compiled r result
  rw [compile_ofFinish valid legible compiled]
  obtain ⟨M, starts, finished⟩ := Option.bind_eq_some_iff.mp result
  obtain ⟨f, found, called⟩ := Option.bind_eq_some_iff.mp starts
  obtain ⟨mem, rfl⟩ := legible.registry.function?_eq_some_iff.mp found
  have body : f.blocks ≠ [] := by
    intro none
    rw [Machine.ofFunction?, Activation.ofCall?, none] at called
    cases called
  show (((compiled? m f.name).bind (Machine.ofFunction? m)).bind (Machine.finish .standard)).getD
    default = r
  rw [compiled?_eq legible mem body, Option.bind_some, called, Option.bind_some, finished,
    Option.getD_some]

end

/-- **The stand-in is a reader**, however it runs what it has read. -/
theorem isReader_ofFinish : (ofFinish hasSymbol finish).IsReader where
  accepts _ valid legible short := ⟨_, parse_eq_ok valid legible short.not_hasLongParam⟩
  refuses _ := parse_eq_error
  shows _ valid legible := shows_ofFinish valid legible .none
  finds m level held valid legible compiled f hf body := by
    rw [compile_ofFinish valid legible compiled]
    show (compiled? m f.name).isSome = true
    rw [compiled?_eq legible hf body]
    rfl

end Llvm

end Reckoner
