import Reckoner.Host
import Reckoner.IR.Module

/-! Running a module.

A machine holds the activation that runs, the activations that wait for a call to
give a value, and the text that host functions have written. `step` executes one
instruction or leaves one block, in a process, which knows functions of its own. A
machine is stuck when it meets what a valid module does not hold: an operand that is
not computed, a block that is not there, a call that goes nowhere. `finish` goes on
to the end of a run, if it has one.

What a block computes from literals alone is known ahead of the run, which shows in
the signs of values that are no numbers. So an activation keeps the names of those
results. -/
namespace Reckoner
open IR

/-- What results hold while a function runs. -/
inductive Word where
  | double (x : Double)
  | flag (b : Bool)
deriving Repr

/-- A function that has been called and has not given its value yet. -/
structure Activation where
  function : Function
  args : List Double
  results : List (String × Word) := []
  /-- The results of the block that are known ahead of the run. -/
  foreseen : List String := []
  /-- The block that control came from. -/
  previous : Option String := none
  block : Block
  /-- The instructions of the block still to be executed. -/
  instrs : List Instr

namespace Activation

/-- A call of a function, before its first instruction. -/
def ofCall? (f : Function) (args : List Double) : Option Activation :=
  f.blocks.head?.map fun b => { function := f, args, block := b, instrs := b.instrs }

/-- The value of an operand. -/
def word? (a : Activation) : Operand → Option Word
  | .const x => some (.double x)
  | .param i => a.args[i]?.map .double
  | .result name _ => a.results.lookup name
  | .function _ _ => none

def double? (a : Activation) (o : Operand) : Option Double :=
  match a.word? o with
  | some (.double x) => some x
  | _ => none

def flag? (a : Activation) (o : Operand) : Option Bool :=
  match a.word? o with
  | some (.flag b) => some b
  | _ => none

/-- The value of an operand is known ahead of the run. -/
def foresees (a : Activation) : Operand → Bool
  | .const _ => true
  | .result name _ => a.foreseen.contains name
  | .param _ | .function _ _ => false

/-- The value of an operand as an operation knows it. -/
def datum? (a : Activation) (o : Operand) : Option Datum :=
  (a.double? o).map fun x => { double := x, isForeseen := a.foresees o }

/-- The activation once its next instruction has given a value. -/
def record (a : Activation) (name : String) (w : Word) (isForeseen : Bool) : Activation :=
  { a with
    results := (name, w) :: a.results
    foreseen := if isForeseen then name :: a.foreseen else a.foreseen
    instrs := a.instrs.tail }

/-- The activation once its next instruction has given a double. -/
def recordDatum (a : Activation) (name : String) (x : Datum) : Activation :=
  a.record name (.double x.double) x.isForeseen

/-- Control goes on to another block of the function. -/
def goTo? (a : Activation) (label : String) : Option Activation :=
  (a.function.block? label).map fun b =>
    { a with previous := some a.block.label, block := b, foreseen := [], instrs := b.instrs }

end Activation

/-- The value of an arithmetic instruction. -/
def IR.Arithmetic.apply : Arithmetic → Datum → Datum → Datum
  | add => Datum.add
  | sub => Datum.sub
  | mul => Datum.mul

/-- The outcome of a comparison. Nothing is comparable to the value that is no number. -/
def IR.Relation.holds (relation : Relation) (x y : Float) : Bool :=
  let unordered := x.isNaN || y.isNaN
  match relation with
  | lessOrUnordered => unordered || x < y
  | orderedAndUnequal => !unordered && x != y

/-- A flag as a double. -/
def widened (b : Bool) : Float :=
  if b then 1.0 else 0.0

/-- What a run meets besides its module. -/
structure Process where
  /-- The value that stands for a call because of the callee's name alone, whether or not
  the module has a function of that name. -/
  library : String → List Float → Option Float
  /-- The value of a function that is found outside the module and is no host function. -/
  foreign : String → List Float → Option Float
  /-- The value of a function that has a reserved name. -/
  intrinsic : String → List Datum → Option Datum
  /-- Whether a text that a host function writes is taken. -/
  takes : String → Bool

namespace Process

/-- A process where nothing is found but the host functions, and all texts are taken. -/
def plain : Process where
  library _ _ := none
  foreign _ _ := none
  intrinsic _ _ := none
  takes _ := true

/-- The value of a function that is found outside the module, and the text that it
writes. -/
def outside? (p : Process) (callee : String) (args : List Float) : Option (Float × String) :=
  match Host.ofName? callee, args with
  | some h, x :: _ =>
    let reply := h.call p.takes x
    some (reply.value, reply.text)
  | some _, [] => none
  | none, args => (p.foreign callee args).map (·, "")

/-- The value of a function that has no body, and the text that it writes. -/
def external? (p : Process) (callee : String) (args : List Datum) : Option (Datum × String) :=
  if isReserved callee then (p.intrinsic callee args).map (·, "")
  else (p.outside? callee (args.map (·.value))).map fun r => ({ double := r.1 }, r.2)

theorem external?_of_ordinary {p : Process} {callee : String} (ordinary : isReserved callee = false)
    (args : List Datum) :
    p.external? callee args =
      (p.outside? callee (args.map (·.value))).map fun r => ({ double := r.1 }, r.2) := by
  rw [external?, ordinary, if_neg Bool.false_ne_true]

end Process

structure Machine where
  module : Module
  running : Activation
  /-- The callers, each with the name for the value of its call. -/
  waiting : List (Activation × String) := []
  output : String := ""

namespace Machine

/-- The outcome of a step. -/
inductive Step where
  | next (m : Machine)
  | done (value : Float) (output : String)
  | stuck

/-- Goes on with a changed activation, if there is one. -/
def resume (m : Machine) : Option Activation → Step
  | some a => .next { m with running := a }
  | none => .stuck

section
variable (p : Process)

/-- Calls a function: one with a body in the module, or else one that needs none. -/
def call (m : Machine) (name callee : String) (args : List Datum) : Step :=
  match p.library callee (args.map (·.value)) with
  | some x => .next { m with running := m.running.recordDatum name { double := x } }
  | none =>
    match (m.module.function? callee).bind (Activation.ofCall? · (args.map (·.double))) with
    | some a => .next { m with running := a, waiting := (m.running, name) :: m.waiting }
    | none =>
      match p.external? callee args with
      | some (value, text) =>
        .next { m with running := m.running.recordDatum name value, output := m.output ++ text }
      | none => .stuck

/-- Executes the next instruction of the running activation. -/
def execute (m : Machine) (i : Instr) : Step :=
  let a := m.running
  match i with
  | .arithmetic name op lhs rhs =>
    match a.datum? lhs, a.datum? rhs with
    | some x, some y => .next { m with running := a.recordDatum name (op.apply x y) }
    | _, _ => .stuck
  | .compare name relation lhs rhs =>
    match a.datum? lhs, a.datum? rhs with
    | some x, some y =>
      let holds := relation.holds x.value y.value
      .next { m with running := a.record name (.flag holds) (x.isForeseen && y.isForeseen) }
    | _, _ => .stuck
  | .widen name flag =>
    m.resume ((a.flag? flag).map fun b => a.record name (.double (widened b)) (a.foresees flag))
  | .call name callee args =>
    match args.mapM a.datum? with
    | some xs => m.call p name callee xs
    | none => .stuck
  | .phi name incoming =>
    let chosen := incoming.find? fun p => a.previous = some p.2
    m.resume ((chosen.bind fun p => a.word? p.1).map (a.record name · false))

/-- The running activation gives its value. -/
def giveBack (m : Machine) (x : Double) : Step :=
  match m.waiting with
  | [] => .done x.value m.output
  | (caller, name) :: rest =>
    .next { m with running := caller.record name (.double x) false, waiting := rest }

/-- Leaves the block of the running activation. -/
def leave (m : Machine) : Terminator → Step
  | .ret value =>
    match m.running.double? value with
    | some x => m.giveBack x
    | none => .stuck
  | .jump target => m.resume (m.running.goTo? target)
  | .branch flag yes no =>
    m.resume ((m.running.flag? flag).bind fun b => m.running.goTo? (if b then yes else no))

def step (m : Machine) : Step :=
  match m.running.instrs with
  | i :: _ => m.execute p i
  | [] =>
    match m.running.block.terminator with
    | some t => m.leave t
    | none => .stuck

end

/-- What a run comes to: the value, and the text that host functions have written. -/
structure Result where
  value : Float
  output : String
deriving Inhabited

/-- Runs a machine to its end. A machine that gets stuck or goes on for ever has none. -/
def finish (p : Process) (m : Machine) : Option Result :=
  match m.step p with
  | .next m => m |>.finish p
  | .done value output => some ⟨value, output⟩
  | .stuck => none
partial_fixpoint

/-- A machine at the start of a function without arguments. -/
def ofFunction? (m : Module) (f : Function) : Option Machine :=
  (Activation.ofCall? f []).map fun a => { module := m, running := a }

end Machine

/-- What the function of a name comes to, which takes no arguments. -/
def IR.Module.result? (m : Module) (p : Process) (name : String) : Option Machine.Result :=
  ((m.function? name).bind (Machine.ofFunction? m)).bind (Machine.finish p)

end Reckoner
