import Reckoner.IR.Module
import Reckoner.Proofs.IR.Names

/-! Which modules are valid.

Validity is a property of the blocks of each function and of the names in the module,
and is stated without regard to how a module comes about. An operand has to be known
where it is used: a result is known behind its instruction in the same block, and in
every block that no walk from the entry reaches but through the block of its
instruction. -/
namespace Reckoner.IR

/-- The labels of the blocks that control can go to. -/
def Terminator.targets : Terminator → List String
  | ret _ => []
  | jump target => [target]
  | branch _ yes no => [yes, no]

namespace Function

/-- Control can go from the block of one label to that of another. -/
def Edge (f : Function) (source target : String) : Prop :=
  ∃ b ∈ f.blocks, b.label = source ∧ ∃ t, b.terminator = some t ∧ target ∈ t.targets

/-- The walks from the first block to a block: the labels passed before it. -/
inductive Walk (f : Function) : (passed : List String) → (label : String) → Prop where
  | entry {l : String} : f.labels.head? = some l → Walk f [] l
  | step {passed : List String} {l k : String} : Walk f passed l → f.Edge l k →
    Walk f (l :: passed) k

/-- Every walk to the block of a label passes that of another one before. -/
def Dominates (f : Function) (d l : String) : Prop :=
  ∀ passed, f.Walk passed l → d ∈ passed

/-- The operands of a type that are known in the block of a label behind some of its
instructions. -/
inductive Known (f : Function) (label : String) (before : List Instr) : Operand → Ty → Prop where
  | const (x : Double) : Known f label before (.const x) .double
  | param {i : Nat} : i < f.arity → Known f label before (.param i) .double
  | here {i : Instr} : i ∈ before → Known f label before (.result i.name i.type) i.type
  | above {d : Block} {i : Instr} : d ∈ f.blocks → i ∈ d.instrs → f.Dominates d.label label →
    Known f label before (.result i.name i.type) i.type

end Function

/-- An instruction of the block of a label, behind some others of it, is valid. The
operands of a phi are those of the blocks from which control can come, one for each. -/
inductive Instr.Valid (m : Module) (f : Function) (label : String) (before : List Instr) :
    Instr → Prop where
  | arithmetic {n : String} {op : Arithmetic} {x y : Operand} :
    f.Known label before x .double → f.Known label before y .double →
    Valid m f label before (.arithmetic n op x y)
  | compare {n : String} {relation : Relation} {x y : Operand} :
    f.Known label before x .double → f.Known label before y .double →
    Valid m f label before (.compare n relation x y)
  | widen {n : String} {x : Operand} : f.Known label before x .flag →
    Valid m f label before (.widen n x)
  | call {n callee : String} {args : List Operand} {g : Function} :
    m.function? callee = some g → args.length = g.arity →
    (∀ x ∈ args, f.Known label before x .double) →
    Valid m f label before (.call n callee args)
  | phi {n : String} {incoming : List (Operand × String)} :
    (∀ i ∈ before, ∃ k others, i = .phi k others) →
    (incoming.map Prod.snd).Nodup →
    (∀ l, l ∈ incoming.map Prod.snd ↔ f.Edge l label) →
    (∀ p ∈ incoming, ∃ b ∈ f.blocks, b.label = p.2 ∧ f.Known b.label b.instrs p.1 .double) →
    Valid m f label before (.phi n incoming)

/-- A block can be left: it has a terminator whose operand is known and whose targets
are blocks of the function. -/
structure Terminator.Valid (f : Function) (b : Block) (t : Terminator) : Prop where
  targets : ∀ l ∈ t.targets, l ∈ f.labels
  value : ∀ x, t = .ret x → f.Known b.label b.instrs x .double
  flag : ∀ x yes no, t = .branch x yes no → f.Known b.label b.instrs x .flag

structure Block.Valid (m : Module) (f : Function) (b : Block) : Prop where
  ended : ∃ t, b.terminator = some t ∧ t.Valid f b
  instrs : ∀ before i after, b.instrs = before ++ i :: after → i.Valid m f b.label before

/-- No local name is there twice, and control never comes back to the first block. -/
structure Function.Valid (m : Module) (f : Function) : Prop where
  names : f.localNames.Nodup
  blocks : ∀ b ∈ f.blocks, b.Valid m f
  entry : ∀ l, f.labels.head? = some l → ∀ k, ¬f.Edge k l

structure Module.Valid (m : Module) : Prop where
  names : m.names.Nodup
  functions : ∀ f ∈ m.functions, f.Valid m

/-- A phi has an operand for some block. -/
def Instr.HasSources : Instr → Prop
  | phi _ incoming => incoming ≠ []
  | _ => True

/-! ### References -/

def Instr.operands : Instr → List Operand
  | arithmetic _ _ x y | compare _ _ x y => [x, y]
  | widen _ x => [x]
  | call _ _ args => args
  | phi _ incoming => incoming.map Prod.fst

def Terminator.operands : Terminator → List Operand
  | ret x | branch x _ _ => [x]
  | jump _ => []

/-- Some instruction of a function calls the function of a given name, or has it as an
operand. -/
def Function.RefersTo (f : Function) (name : String) : Prop :=
  ∃ b ∈ f.blocks,
    (∃ i ∈ b.instrs, i.callee? = some name ∨ ∃ n, Operand.function name n ∈ i.operands) ∨
      ∃ t, b.terminator = some t ∧ ∃ n, Operand.function name n ∈ t.operands

/-- The operands of a valid instruction are known in some block. -/
theorem Instr.Valid.known {m : Module} {f : Function} {l : String} {before : List Instr} {i : Instr}
    (h : i.Valid m f l before) : ∀ o ∈ i.operands, ∃ k earlier type, f.Known k earlier o type := by
  intro o ho
  cases h with
  | arithmetic hx hy | compare hx hy =>
    rcases List.mem_cons.mp ho with rfl | ho
    · exact ⟨_, _, _, hx⟩
    · obtain rfl := List.mem_singleton.mp ho
      exact ⟨_, _, _, hy⟩
  | widen hx =>
    obtain rfl := List.mem_singleton.mp ho
    exact ⟨_, _, _, hx⟩
  | call _ _ args => exact ⟨_, _, _, args o ho⟩
  | phi _ _ _ operands =>
    obtain ⟨p, hp, rfl⟩ := List.mem_map.mp ho
    obtain ⟨b, -, -, known⟩ := operands p hp
    exact ⟨_, _, _, known⟩

theorem Terminator.Valid.known {f : Function} {b : Block} {t : Terminator} (h : t.Valid f b) :
    ∀ o ∈ t.operands, ∃ k earlier type, f.Known k earlier o type := by
  intro o ho
  cases t with
  | ret x =>
    obtain rfl := List.mem_singleton.mp ho
    exact ⟨_, _, _, h.value o rfl⟩
  | jump target => cases ho
  | branch x yes no =>
    obtain rfl := List.mem_singleton.mp ho
    exact ⟨_, _, _, h.flag o yes no rfl⟩

/-- No function of a valid module refers to one that is not in it. -/
theorem Module.Valid.not_refersTo {m : Module} {name : String} (h : m.Valid)
    (absent : m.function? name = none) : ∀ f ∈ m.functions, ¬f.RefersTo name := by
  have unknown {f : Function} {n : Nat}
      (h : ∃ k earlier type, f.Known k earlier (.function name n) type) : False := by
    obtain ⟨k, earlier, type, known⟩ := h
    cases known
  rintro f hf ⟨b, hb, ⟨i, hi, reference⟩ | ⟨t, ended, n, mem⟩⟩
  · obtain ⟨before, after, split⟩ := List.append_of_mem hi
    have valid := ((h.functions f hf).blocks b hb).instrs before i after split
    rcases reference with called | ⟨n, mem⟩
    · cases valid with
      | call found _ _ =>
        cases called
        cases absent.symm.trans found
      | _ => cases called
    · exact unknown (valid.known _ mem)
  · obtain ⟨u, ended', valid⟩ := ((h.functions f hf).blocks b hb).ended
    cases ended.symm.trans ended'
    exact unknown (valid.known _ mem)

end Reckoner.IR
