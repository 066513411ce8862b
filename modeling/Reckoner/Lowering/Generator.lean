import Reckoner.Expr
import Reckoner.Lowering.Fault

/-! Lowering trees to a module.

A generator holds the module and, while a function is being written, that function
and the block that instructions go to. In the module the function is meanwhile a
declaration, so that its body can call it; it takes its place when it is finished.
A fault in a body takes the function back: one that was declared before is a
declaration again, and one that was not is removed. -/
namespace Reckoner.Lowering
open IR

/-- A function being written. -/
structure Site where
  function : Function
  /-- The label of the block that instructions go to. -/
  block : String
  /-- The names in scope and the parameters they stand for, the last one first. -/
  names : List (String × Nat)
deriving Repr

structure Generator where
  module : Module
  site : Option Site := none
  /-- The functions whose bodies are not finished, the last one begun first. -/
  unfinished : List String := []
  faults : Array Fault := #[]
deriving Repr

/-- Why lowering stops: at a fault that has been recorded, or by misuse. -/
inductive Stop where
  | refused
  | misused (m : Misuse)
deriving Repr, DecidableEq

/-- A step of lowering. -/
abbrev Lower := EStateM Stop Generator

/-- A generator with an empty module. -/
def Generator.ofName (name : String) : Generator :=
  { module := { name } }

section Steps
variable {α : Type}

/-- Records a fault and stops. -/
def refuse (cause : Cause) (location : Option Location) : Lower α := fun g =>
  .error .refused { g with faults := g.faults.push ⟨cause, location⟩ }

def misuse (m : Misuse) : Lower α :=
  throw (.misused m)

/-- Changes the function being written. -/
def onSite (change : Site → α × Site) : Lower α := fun g =>
  match g.site with
  | none => .error (.misused .noBlock) g
  | some site =>
    let (a, site) := change site
    .ok a { g with site := some site }

/-- Needs a function being written. -/
def requireFunction (construct : Construct) (location : Option Location) : Lower Unit := fun g =>
  if g.site.isSome then .ok () g else refuse (.outsideFunction construct) location g

/-- Adds an instruction to the current block, for its result. -/
def emit (base : String) (type : Ty) (instr : String → Instr) : Lower Operand :=
  onSite fun s =>
    let (name, function) := s.function.append s.block base instr
    (.result name type, { s with function })

/-- Adds an empty block, for its label. -/
def newBlock (base : String) : Lower String :=
  onSite fun s =>
    let (label, function) := s.function.addBlock base
    (label, { s with function })

/-- Lets instructions go to another block. -/
def enter (label : String) : Lower Unit :=
  onSite fun s => ((), { s with block := label })

/-- Ends the current block, for its label. -/
def leave (t : Terminator) : Lower String :=
  onSite fun s => (s.block, { s with function := s.function.terminate s.block t })

end Steps

/-! ### Operations -/

/-- The operators that have a meaning. -/
inductive Operation where
  | arithmetic (op : Arithmetic)
  | less
deriving Repr, DecidableEq

def Operation.ofString? : String → Option Operation
  | "+" => some (.arithmetic .add)
  | "-" => some (.arithmetic .sub)
  | "*" => some (.arithmetic .mul)
  | "<" => some .less
  | _ => none

/-- What the result of an arithmetic instruction is called. -/
def resultName : Arithmetic → String
  | .add => "addtmp"
  | .sub => "subtmp"
  | .mul => "multmp"

/-- An operation on two operands. Arithmetic needs operands of one type; a
comparison takes any two and gives the double 0 or 1. -/
def operate (operation : Operation) (x y : Operand) : Lower Operand :=
  match operation with
  | .arithmetic op =>
    if x.type ≠ y.type then misuse (.operandTypes x.type y.type)
    else emit (resultName op) x.type (.arithmetic · op x y)
  | .less => do
    let flag ← emit "cmptmp" .flag (.compare · .lessOrUnordered x y)
    emit "booltmp" .double (.widen · flag)

/-- The first operand that is no double, with its place counted from `index`. -/
def firstOther (index : Nat) : List Operand → Option (Nat × Ty)
  | [] => none
  | x :: rest => if x.type = .double then firstOther (index + 1) rest else some (index, x.type)

/-- A call with operands that are all doubles. -/
def invoke (callee : String) (args : List Operand) : Lower Operand :=
  match firstOther 1 args with
  | some (index, type) => misuse (.argumentType index type)
  | none => emit "calltmp" .double (.call · callee args)

/-! ### Functions -/

/-- Whether a name belongs to a function with a body, finished or being written. -/
def Generator.isDefined (g : Generator) (name : String) : Bool :=
  (g.module.function? name).any fun f =>
    !f.isDeclaration || g.unfinished.contains name

/-- Declares a function, or names the parameters of the one already declared. -/
def declare (p : Prototype) : Lower Operand := fun g =>
  match g.module.find? p.name with
  | some (.cell _) => refuse (.redefined p.name) p.location g
  | some (.function f) =>
    if g.isDefined p.name then refuse (.redefined p.name) p.location g
    else if f.arity ≠ p.params.length then
      refuse (.argumentCount p.name f.arity p.params.length) p.location g
    else
      .ok (.function p.name f.arity) { g with module := g.module.put (f.rename p.params) }
  | none =>
    if g.module.isFree p.name then
      let f := (Function.declare p.name p.params.length).rename p.params
      .ok (.function p.name f.arity) { g with module := g.module.add (.function f) }
    else misuse (.nameTaken p.name) g

/-- Puts the function being written into its place as far as it has come. -/
def Generator.suspend (g : Generator) : Generator :=
  match g.site with
  | none => g
  | some site => { g with module := g.module.put site.function, site := none }

/-- Starts to write the body of a declared function. -/
def Generator.start (g : Generator) (p : Prototype) (f : Function) : Generator :=
  let (entry, f) := f.addBlock "entry"
  { g with
    site := some { function := f, block := entry, names := p.params.zipIdx.reverse }
    unfinished := f.name :: g.unfinished }

/-- Ends the writing of a function as far as it has come. -/
def Generator.close (g : Generator) (name : String) : Generator :=
  { g.suspend with unfinished := g.unfinished.erase name }

/-- Takes a function back after a fault in its body. If another one has taken its
place meanwhile, there is no body to take away from a declaration. -/
def Generator.takeBack (g : Generator) (name : String) (declared : Bool) :
    EStateM.Result Stop Generator Operand :=
  let replaced := !g.unfinished.contains name
  let g := g.close name
  if declared then
    if replaced then .error .refused g
    else .error .refused { g with module := g.module.modify name Function.withoutBody }
  else if (g.module.find? name).isSome then
    .error .refused { g with module := g.module.remove name }
  else .error (.misused (.notThere name)) g

/-- Finishes a function with the value of its body. -/
def Generator.finish (g : Generator) (p : Prototype) (value : Operand) :
    EStateM.Result Stop Generator Operand :=
  match leave (.ret value) g with
  | .ok _ g => .ok (.function p.name p.params.length) (g.close p.name)
  | .error stop g => .error stop (g.close p.name)

/-- Writes the body of a declared function. -/
def writeBody (p : Prototype) (location : Option Location) (declared : Bool)
    (body : Lower Operand) : Lower Operand := fun g =>
  match g.module.function? p.name with
  | none => misuse (.notThere p.name) g
  | some f =>
    match body (g.suspend.start p f) with
    | .error .refused g => g.takeBack p.name declared
    | .error (.misused m) g => .error (.misused m) (g.close p.name)
    | .ok value g =>
      if value.type = .double then g.finish p value
      else
        let fault := ⟨.notDouble (.returned p.name) value.type, location⟩
        { g with faults := g.faults.push fault }.takeBack p.name declared

/-- Removes a function, written or being written. -/
def Generator.discard (g : Generator) (name : String) : Generator :=
  { g with
    module := g.module.remove name
    site := g.site.filter (·.function.name ≠ name)
    unfinished := g.unfinished.filter (· ≠ name) }

/-- Defines a function by the lowering of its body. The function of a bare
expression takes the place of the one before it. -/
def define (p : Prototype) (location : Option Location) (body : Lower Operand) :
    Lower Operand := fun g =>
  if g.isDefined p.name && !p.isAnonymous then refuse (.redefined p.name) location g
  else
    let replaced := g.isDefined p.name
    let declared := !replaced && (g.module.function? p.name).isSome
    let g := if replaced then g.discard p.name else g
    match declare p g with
    | .error stop g => .error stop g
    | .ok _ g => writeBody p location declared body g

/-! ### Trees -/

/-- The value of a branch, which goes on to `join`, and the label of the block that
it comes from. -/
def lowerBranch (position : Position) (location : Option Location) (join : String)
    (branch : Lower Operand) : Lower (Operand × String) := do
  let value ← branch
  if value.type ≠ .double then refuse (.notDouble position value.type) location
  else
    let block ← leave (.jump join)
    pure (value, block)

/-- A conditional: two branches between the block it starts in and the one where
they meet. -/
def lowerConditional (condition : Lower Operand) (consequence alternative : Lower Operand)
    (location consequenceAt alternativeAt : Option Location) : Lower Operand := do
  requireFunction .conditional location
  let x ← condition
  if x.type ≠ .double then refuse (.notDouble .condition x.type) location
  else
    let flag ← emit "ifcond" .flag (.compare · .orderedAndUnequal x (.const (0.0 : Float)))
    let yes ← newBlock "then"
    let no ← newBlock "else"
    let join ← newBlock "ifcont"
    let _ ← leave (.branch flag yes no)
    enter yes
    let taken ← lowerBranch .consequence consequenceAt join consequence
    enter no
    let other ← lowerBranch .alternative alternativeAt join alternative
    enter join
    emit "iftmp" .double (.phi · [taken, other])

/-- The parameter that a name stands for. -/
def lowerVariable (name : String) (location : Option Location) : Lower Operand := fun g =>
  match g.site.bind fun s => s.names.lookup name with
  | some i => .ok (.param i) g
  | none => refuse (.unknownVariable name) location g

/-- Checks that a call is to a known function, with the right number of arguments
and within a function. -/
def checkCall (callee : String) (count : Nat) (location : Option Location) : Lower Unit := fun g =>
  match g.module.function? callee with
  | none => refuse (.unknownFunction callee) location g
  | some f =>
    if f.arity ≠ count then refuse (.argumentCount callee f.arity count) location g
    else requireFunction .call location g

mutual

/-- Lowers a tree. Checks of a tree come before its parts, and parts from left to
right. -/
def lower : Expr → Lower Operand
  | .number x _ => pure (.const x)
  | .var name location => lowerVariable name location
  | .binary operator lhs rhs location =>
    match Operation.ofString? operator with
    | none => refuse (.unknownOperator operator) location
    | some operation => do
      requireFunction .operation location
      let x ← lower lhs
      let y ← lower rhs
      operate operation x y
  | .call callee args location => do
    checkCall callee args.length location
    let xs ← lowerAll args
    invoke callee xs
  | .conditional condition consequence alternative location =>
    lowerConditional (lower condition) (lower consequence) (lower alternative)
      location consequence.location alternative.location
  | .prototype p => declare p
  | .function p body location => define p location (lower body)

def lowerAll : List Expr → Lower (List Operand)
  | [] => pure []
  | e :: rest => do
    let x ← lower e
    let xs ← lowerAll rest
    pure (x :: xs)

end

namespace Generator

/-- Lowers a tree at the top, for its value. -/
def generate (g : Generator) (e : Expr) : Except Stop Operand × Generator :=
  match lower e g with
  | .ok value g => (.ok value, g)
  | .error stop g => (.error stop, g)

def function? (g : Generator) (name : String) : Option Function :=
  g.module.function? name

/-- Removes a function, if there is one of that name. -/
def remove (g : Generator) (name : String) : Bool × Generator :=
  match g.function? name with
  | none => (false, g)
  | some f => (true, { g with module := g.module.remove f.name })

/-- Adds a cell. -/
def addCell (g : Generator) (name : String) : Except Misuse Generator :=
  if g.module.isFree name then .ok { g with module := g.module.add (.cell name) }
  else .error (.nameTaken name)

/-- The generator once the whole module has been printed. -/
def printed (g : Generator) : Generator :=
  { g with module := g.module.fixNames }

/-- The generator once a function has been printed. -/
def printedFunction (g : Generator) (name : String) : Generator :=
  { g with module := g.module.modify name Function.fixNames }

end Generator

end Reckoner.Lowering
