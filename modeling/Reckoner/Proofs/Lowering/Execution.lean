import Reckoner.Proofs.Expr.Meaning
import Reckoner.Proofs.Lowering.Valid
import Reckoner.Proofs.Machine

/-! Executing code.

A machine stands at a place of a function when the instructions before the place are
behind it (`Stands`). From one place to another it goes on within one call (`Comes`):
callers wait as before, text is added at the end, and results keep their values unless
code that takes their names has been executed. Each way of putting code together has a
lemma that says where a machine comes to through it, and with which value. -/
namespace Reckoner.Lowering
open IR

/-- A function has a place: some block of it starts with the instructions before it. -/
def Point.Within (p : Point) (f : Function) : Prop :=
  ∃ b ∈ f.blocks, b.label = p.label ∧ p.instrs <+: b.instrs

theorem Point.Within.before {p : Point} {f : Function} {i : Instr} (h : (p.push i).Within f) :
    p.Within f := by
  obtain ⟨b, hb, label, start⟩ := h
  exact ⟨b, hb, label, (List.prefix_append _ _).trans start⟩

/-- A machine is about to execute what is behind a place of a function. -/
structure Stands (M : Machine) (f : Function) (p : Point) : Prop where
  function : M.running.function = f
  block : M.running.block ∈ f.blocks
  label : M.running.block.label = p.label
  instrs : M.running.block.instrs = p.instrs ++ M.running.instrs

/-- A machine goes on within one call: so many steps take the names `ns` and write `s`. -/
structure Comes (proc : Process) (ns : List String) (s : String) (k : Nat) (M N : Machine) : Prop where
  steps : Machine.Steps proc k M N
  module : N.module = M.module
  waiting : N.waiting = M.waiting
  output : N.output = M.output ++ s
  args : N.running.args = M.running.args
  kept : ∀ n, n ∉ ns → N.running.results.lookup n = M.running.results.lookup n

variable {proc : Process}

namespace Comes
variable {ns ms : List String} {s t : String} {j k : Nat} {M N O : Machine}

theorem refl (M : Machine) : Comes proc [] "" 0 M M :=
  ⟨.refl, rfl, rfl, String.append_empty.symm, rfl, fun _ _ => rfl⟩

theorem trans (h : Comes proc ns s j M N) (h' : Comes proc ms t k N O) :
    Comes proc (ns ++ ms) (s ++ t) (j + k) M O where
  steps := h.steps.trans h'.steps
  module := h'.module.trans h.module
  waiting := h'.waiting.trans h.waiting
  output := by rw [h'.output, h.output, String.append_assoc]
  args := h'.args.trans h.args
  kept := by
    intro n out
    obtain ⟨outN, outM⟩ := not_or.mp (mt List.mem_append.mpr out)
    exact (h'.kept n outM).trans (h.kept n outN)

theorem weaken (h : Comes proc ns s k M N) (more : ns ⊆ ms) : Comes proc ms s k M N :=
  { h with kept := fun n out => h.kept n fun mem => out (more mem) }

/-- Operands keep their values unless their names are taken. -/
theorem value?_eq (h : Comes proc ns s k M N) {o : Operand}
    (clear : ∀ n type, o = .result n type → n ∉ ns) : N.running.value? o = M.running.value? o :=
  Activation.value?_congr h.args fun n type same => h.kept n (clear n type same)

end Comes

/-- A machine comes to a place of a function, where an operand has a value. -/
structure Gives (proc : Process) (f : Function) (q : Point) (v : Operand) (x : Float)
    (ns : List String) (s : String) (k : Nat) (M N : Machine) : Prop
    extends Comes proc ns s k M N where
  stands : Stands N f q
  value : N.running.value? v = some x

theorem Gives.after {f : Function} {q : Point} {v : Operand} {x : Float} {ns ms : List String}
    {s t : String} {j k : Nat} {M N O : Machine} (h : Comes proc ns s j M N)
    (h' : Gives proc f q v x ms t k N O) : Gives proc f q v x (ns ++ ms) (s ++ t) (j + k) M O :=
  ⟨h.trans h'.toComes, h'.stands, h'.value⟩

theorem Gives.weaken {f : Function} {q : Point} {v : Operand} {x : Float} {ns ms : List String}
    {s : String} {k : Nat} {M N : Machine} (h : Gives proc f q v x ns s k M N) (more : ns ⊆ ms) :
    Gives proc f q v x ms s k M N :=
  ⟨h.toComes.weaken more, h.stands, h.value⟩

section
variable {f : Function} {all : List Piece} {p q : Point} {M N : Machine}

theorem Whole.within (h : Whole f all) {c : Piece} (hc : c ∈ all) : c.last.Within f :=
  ⟨c.block, h.mem_blocks.mpr ⟨c, hc, rfl⟩, rfl, List.prefix_refl _⟩

theorem Whole.eq_of_block (h : Whole f all) {b d : Block} (hb : b ∈ f.blocks) (hd : d ∈ f.blocks)
    (same : b.label = d.label) : b = d := by
  obtain ⟨c, hc, rfl⟩ := h.mem_blocks.mp hb
  obtain ⟨c', hc', rfl⟩ := h.mem_blocks.mp hd
  rw [h.eq_of_label hc hc' same]

theorem Whole.block?_eq (h : Whole f all) {b : Block} (hb : b ∈ f.blocks) {l : String}
    (label : b.label = l) : f.block? l = some b := by
  unfold Function.block?
  cases found : f.blocks.find? (·.label = l) with
  | none => exact absurd label (by simpa using List.find?_eq_none.mp found b hb)
  | some d =>
    have same : d.label = l := by simpa using List.find?_some found
    rw [h.eq_of_block (List.mem_of_find?_eq_some found) hb (same.trans label.symm)]

/-- The next instruction is the one behind the place. -/
theorem Stands.next (h : Stands M f p) (whole : Whole f all) {i : Instr}
    (within : (p.push i).Within f) : ∃ rest, M.running.instrs = i :: rest := by
  obtain ⟨b, hb, label, rest, split⟩ := within
  have same := whole.eq_of_block hb h.block (label.trans h.label.symm)
  rw [same, h.instrs, Point.push, List.append_assoc] at split
  exact ⟨rest, (List.append_cancel_left split).symm⟩

/-- At the end of a block nothing is left but its terminator. -/
theorem Stands.last (whole : Whole f all) {c : Piece} (hc : c ∈ all) (h : Stands M f c.last) :
    M.step proc = M.leave c.terminator := by
  have same : c.block = M.running.block :=
    whole.eq_of_block (whole.mem_blocks.mpr ⟨c, hc, rfl⟩) h.block h.label.symm
  have instrs := h.instrs
  rw [← same] at instrs
  exact Machine.step_leave (List.self_eq_append_right.mp instrs) (by rw [← same]; rfl)

/-- Once an instruction has given its result, a machine stands behind it. -/
theorem Stands.recorded (h : Stands M f p) {i : Instr} {rest : List Instr}
    (here : M.running.instrs = i :: rest) (n : String) (w : Word) (isForeseen : Bool)
    (text : String) : Stands (M.recorded n w isForeseen text) f (p.push i) := by
  refine ⟨h.function, h.block, h.label, ?_⟩
  show M.running.block.instrs = (p.instrs ++ [i]) ++ M.running.instrs.tail
  rw [h.instrs, here, List.tail_cons, List.append_assoc]
  rfl

theorem lookup_recorded (M : Machine) (n : String) (w : Word) (isForeseen : Bool) (text : String) :
    (M.recorded n w isForeseen text).running.results.lookup n = some w := by
  show ((n, w) :: M.running.results).lookup n = some w
  rw [List.lookup_cons_self]

/-- Other results keep their values. -/
theorem lookup_recorded_of_ne (M : Machine) {n k : String} (other : k ≠ n) (w : Word)
    (isForeseen : Bool) (text : String) :
    (M.recorded n w isForeseen text).running.results.lookup k = M.running.results.lookup k := by
  show ((n, w) :: M.running.results).lookup k = _
  rw [List.lookup_cons, beq_false_of_ne other]

theorem value?_recorded (M : Machine) (n : String) (z : Double) (isForeseen : Bool) (text : String) :
    (M.recorded n (.double z) isForeseen text).running.value? (.result n .double) = some z.value := by
  rw [Activation.value?, Activation.double?, Activation.word?, lookup_recorded]
  rfl

theorem comes_recorded {n : String} {w : Word} {isForeseen : Bool} {text : String}
    (step : M.step proc = .next (M.recorded n w isForeseen text)) :
    Comes proc [n] text 1 M (M.recorded n w isForeseen text) where
  steps := .one step
  module := rfl
  waiting := rfl
  output := rfl
  args := rfl
  kept := fun _ out => lookup_recorded_of_ne M (List.ne_of_not_mem_cons out) w isForeseen text

/-- An instruction that gives a double. -/
theorem Stands.gives (h : Stands M f p) {i : Instr} {rest : List Instr} {n : String} {z : Double}
    {isForeseen : Bool} {text : String} (here : M.running.instrs = i :: rest)
    (step : M.step proc = .next (M.recorded n (.double z) isForeseen text)) :
    Gives proc f (p.push i) (.result n .double) z.value [n] text 1 M
      (M.recorded n (.double z) isForeseen text) where
  toComes := comes_recorded step
  stands := h.recorded here n _ _ text
  value := value?_recorded M n z isForeseen text

variable {n : String} {x y : Float}

theorem Stands.arithmetic (h : Stands M f p) (whole : Whole f all) {op : Arithmetic}
    {l r : Operand} (within : (p.push (.arithmetic n op l r)).Within f)
    (hl : M.running.value? l = some x) (hr : M.running.value? r = some y) :
    ∃ N, Gives proc f (p.push (.arithmetic n op l r)) (.result n .double)
      (op.value x y) [n] "" 1 M N := by
  obtain ⟨rest, here⟩ := h.next whole within
  obtain ⟨z, isForeseen, step, value⟩ := Machine.step_arithmetic here hl hr
  exact ⟨_, value ▸ h.gives here step⟩

/-- A comparison gives a flag. -/
theorem Stands.compare (h : Stands M f p) (whole : Whole f all) {relation : Relation}
    {l r : Operand} (within : (p.push (.compare n relation l r)).Within f)
    (hl : M.running.value? l = some x) (hr : M.running.value? r = some y) :
    ∃ N, Comes proc [n] "" 1 M N ∧ Stands N f (p.push (.compare n relation l r)) ∧
      N.running.flag? (.result n .flag) = some (relation.holds x y) := by
  obtain ⟨rest, here⟩ := h.next whole within
  obtain ⟨isForeseen, step⟩ := Machine.step_compare here hl hr
  refine ⟨_, comes_recorded step, h.recorded here n _ _ "", ?_⟩
  rw [Activation.flag?, Activation.word?, lookup_recorded]

theorem Stands.widen (h : Stands M f p) (whole : Whole f all) {o : Operand} {b : Bool}
    (within : (p.push (.widen n o)).Within f) (ho : M.running.flag? o = some b) :
    ∃ N, Gives proc f (p.push (.widen n o)) (.result n .double) (widened b) [n] "" 1 M N := by
  obtain ⟨rest, here⟩ := h.next whole within
  obtain ⟨isForeseen, step⟩ := Machine.step_widen here ho
  exact ⟨_, h.gives here step⟩

/-- Control goes on at the start of another block. -/
theorem Stands.goTo (h : Stands M f p) (whole : Whole f all) {l : String}
    {start : List (String × Ty)} (within : (Point.mk l start []).Within f)
    (step : M.step proc = M.resume (M.running.goTo? l)) :
    ∃ N, Comes proc [] "" 1 M N ∧ Stands N f ⟨l, start, []⟩ ∧ N.running.previous = some p.label := by
  obtain ⟨b, hb, label, -⟩ := within
  have label : b.label = l := label
  rw [Activation.goTo?, h.function, whole.block?_eq hb label] at step
  refine ⟨_, ⟨.one step, rfl, rfl, String.append_empty.symm, rfl, fun _ _ => rfl⟩,
    ⟨rfl, hb, label, rfl⟩, congrArg some h.label⟩

/-- A fork compares the condition with zero and goes on to one of the branches. -/
theorem Stands.fork (h : Stands M f p) (whole : Whole f all) {fork : Point} {o : Operand}
    {flag yes no : String} {start : List (String × Ty)}
    (here : fork = p.push (.compare flag .orderedAndUnequal o (.const (0.0 : Float))))
    (mem : ⟨fork, .branch (.result flag .flag) yes no⟩ ∈ all) (ho : M.running.value? o = some x)
    (within : (Point.mk (if isTrue x then yes else no) start []).Within f) :
    ∃ N, Comes proc [flag] "" 2 M N ∧ Stands N f ⟨if isTrue x then yes else no, start, []⟩ := by
  obtain ⟨N, comes, stands, value⟩ :=
    h.compare whole (here ▸ whole.within mem) ho (y := 0.0) rfl
  have truth : IR.Relation.holds .orderedAndUnequal x 0.0 = isTrue x := by
    have zero : (0.0 : Float).isNaN = false := rfl
    show (!(x.isNaN || (0.0 : Float).isNaN) && x != 0.0) = isTrue x
    rw [zero, Bool.or_false, isTrue]
  rw [truth] at value
  have step : N.step proc = N.resume (N.running.goTo? (if isTrue x then yes else no)) := by
    rw [Stands.last whole mem (here ▸ stands), Machine.leave, value, Option.bind_some]
  obtain ⟨O, more, stands, -⟩ := stands.goTo whole within step
  exact ⟨O, comes.trans more, stands⟩

/-- A branch ends where both meet, with the value that it has there. -/
theorem Stands.join {join : String} {start : List (String × Ty)} {incoming : List (Operand × String)}
    {o : Operand} (h : Stands M f p) (whole : Whole f all) (mem : ⟨p, .jump join⟩ ∈ all)
    (within : (Point.mk join start [.phi n incoming]).Within f) (ho : M.running.value? o = some x)
    (chosen : incoming.find? (fun i => some p.label = some i.2) = some (o, p.label)) :
    ∃ N, Gives proc f ⟨join, start, [.phi n incoming]⟩ (.result n .double) x [n] "" 2 M N := by
  have within : ((Point.mk join start []).push (.phi n incoming)).Within f := within
  have step : M.step proc = M.leave (.jump join) := Stands.last whole mem h
  obtain ⟨N, comes, stands, previous⟩ := h.goTo whole within.before step
  obtain ⟨rest, here⟩ := stands.next whole within
  have value : N.running.value? o = some x :=
    (comes.value?_eq fun _ _ _ => List.not_mem_nil).trans ho
  obtain ⟨z, step, same⟩ := Machine.step_phi here (previous ▸ chosen) value
  have gives := stands.gives here step
  rw [same] at gives
  exact ⟨_, .after comes gives⟩

/-! ### Calls -/

/-- A machine comes to the end of a call with a value. -/
structure Returns (proc : Process) (x : Float) (s : String) (k : Nat) (M N : Machine) : Prop where
  steps : Machine.Steps proc k M N
  module : N.module = M.module
  waiting : N.waiting = M.waiting
  output : N.output = M.output ++ s
  step : ∃ y, N.step proc = N.giveBack y ∧ y.value = x

theorem Gives.returns {v : Operand} {ns : List String} {s : String} {k : Nat} (whole : Whole f all)
    (mem : ⟨q, .ret v⟩ ∈ all) (h : Gives proc f q v x ns s k M N) : Returns proc x s k M N where
  steps := h.steps
  module := h.module
  waiting := h.waiting
  output := h.output
  step := by
    obtain ⟨y, double, value⟩ := Option.map_eq_some_iff.mp h.value
    refine ⟨y, ?_, value⟩
    rw [Stands.last whole mem h.stands, Machine.leave, double]

/-- The machine that a call of a function with a body starts. -/
def entered (M : Machine) (n : String) (f : Function) (b : Block) (args : List Double) : Machine :=
  { M with
    running := { function := f, args, block := b, instrs := b.instrs }
    waiting := (M.running, n) :: M.waiting }

/-- A call of a function with a body gives what the function gives. -/
theorem Stands.call (h : Stands M f p) (whole : Whole f all) {callee : String}
    {os : List Operand} {ds : List Datum} {d : Function} {b : Block} {blocks : List Block}
    {s : String} {k : Nat} (within : (p.push (.call n callee os)).Within f)
    (values : os.mapM M.running.datum? = some ds)
    (unknown : proc.library callee (ds.map (·.value)) = none)
    (found : M.module.function? callee = some d) (first : d.blocks = b :: blocks)
    (returns : Returns proc x s k (entered M n d b (ds.map (·.double))) N) :
    ∃ O, Gives proc f (p.push (.call n callee os)) (.result n .double) x [n] s (1 + k + 1) M O := by
  obtain ⟨rest, here⟩ := h.next whole within
  obtain ⟨y, back, rfl⟩ := returns.step
  have enter : M.step proc = .next (entered M n d b _) := 
    Machine.step_call here values unknown found first
  rw [Machine.giveBack, returns.waiting] at back
  let O := M.recorded n (.double y) false s
  have leave : N.step proc = .next O := by
    rw [back]
    show Machine.Step.next _ = .next _
    congr 1
    show Machine.mk _ _ _ _ = Machine.mk _ _ _ _
    rw [returns.module, returns.output]
    rfl
  have steps := ((Machine.Steps.one enter).trans returns.steps).trans (.one leave)
  have kept : ∀ k, k ∉ [n] → O.running.results.lookup k = M.running.results.lookup k :=
    fun _ out => lookup_recorded_of_ne M (List.ne_of_not_mem_cons out) _ _ _
  exact ⟨O, ⟨steps, rfl, rfl, rfl, rfl, kept⟩, h.recorded here n _ _ s, value?_recorded M n y _ _⟩

end

end Reckoner.Lowering
