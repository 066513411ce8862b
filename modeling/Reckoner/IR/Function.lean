import Reckoner.Double
import Reckoner.IR.Scope

/-! Functions in single-assignment form.

A function takes doubles and gives a double. Its body is a list of blocks: each
computes named results in order and then leaves by its terminator. A function
without blocks is a declaration. Operands refer to parameters by position, so that
renaming a parameter changes no body. -/
namespace Reckoner.IR

/-- The types of operands. -/
inductive Ty where
  | double
  /-- The outcome of a comparison. -/
  | flag
  /-- The address of a function that takes so many doubles. -/
  | function (arity : Nat)
deriving Repr, DecidableEq

inductive Operand where
  | const (x : Double)
  | param (index : Nat)
  | result (name : String) (type : Ty)
  | function (name : String) (arity : Nat)
deriving Repr

def Operand.type : Operand → Ty
  | const _ | param _ => .double
  | result _ type => type
  | function _ arity => .function arity

inductive Arithmetic where
  | add
  | sub
  | mul
deriving Repr, DecidableEq

inductive Relation where
  /-- Less, or not comparable. -/
  | lessOrUnordered
  /-- Comparable and different. -/
  | orderedAndUnequal
deriving Repr, DecidableEq

/-- An instruction and the name of its result. -/
inductive Instr where
  | arithmetic (name : String) (op : Arithmetic) (lhs rhs : Operand)
  | compare (name : String) (relation : Relation) (lhs rhs : Operand)
  /-- A flag as the double 0 or 1. -/
  | widen (name : String) (flag : Operand)
  | call (name : String) (callee : String) (args : List Operand)
  /-- The operand that belongs to the block from which this one was entered. -/
  | phi (name : String) (incoming : List (Operand × String))
deriving Repr

def Instr.name : Instr → String
  | arithmetic name .. | compare name .. | widen name _ | call name .. | phi name _ => name

/-- How control leaves a block. -/
inductive Terminator where
  | ret (value : Operand)
  | jump (target : String)
  | branch (flag : Operand) (yes no : String)
deriving Repr

structure Block where
  label : String
  instrs : List Instr := []
  /-- Missing while the block is being written. -/
  terminator : Option Terminator := none
deriving Repr

structure Function where
  name : String
  /-- The current names of the parameters. -/
  params : List String
  /-- The names under which the parameters are printed, once they have been. -/
  printed : Option (List String) := none
  scope : Scope := {}
  blocks : List Block := []
deriving Repr

namespace Function

def arity (f : Function) : Nat :=
  f.params.length

def isDeclaration (f : Function) : Bool :=
  f.blocks.isEmpty

/-- The names that a printed form of the function shows. -/
def shownParams (f : Function) : List String :=
  f.printed.getD f.params

/-- Fixes the names under which the parameters are printed. -/
def fixNames (f : Function) : Function :=
  { f with printed := some f.shownParams }

/-- Names for parameters that have none yet, and their scope. -/
def unnamed : Nat → Scope → List String × Scope
  | 0, s => ([], s)
  | n + 1, s =>
    let (name, s) := s.fresh ""
    let (names, s) := unnamed n s
    (name :: names, s)

/-- A declaration. Its parameters have no names of their own yet; the value that
the function gives takes a name as well. -/
def declare (name : String) (arity : Nat) : Function :=
  let (params, scope) := unnamed arity {}
  { name, params, scope := (scope.fresh "").2 }

/-- New names for the parameters that are not named so already. -/
def renamed : List String → List String → Scope → List String × Scope
  | old :: olds, new :: news, s =>
    let (name, s) := if old = new then (old, s) else s.fresh new
    let (names, s) := renamed olds news s
    (name :: names, s)
  | olds, _, s => (olds, s)

/-- Names the parameters after `names`. -/
def rename (f : Function) (names : List String) : Function :=
  let (params, scope) := renamed f.params names f.scope
  { f with params, scope }

/-- Takes the body away. Its names stay in use. -/
def withoutBody (f : Function) : Function :=
  { f with blocks := [] }

/-- Adds an empty block. -/
def addBlock (f : Function) (base : String) : String × Function :=
  let (label, scope) := f.scope.fresh base
  (label, { f with scope, blocks := f.blocks ++ [{ label }] })

/-- Changes the block with a given label. -/
def modifyBlock (f : Function) (label : String) (change : Block → Block) : Function :=
  { f with blocks := f.blocks.map fun b => if b.label = label then change b else b }

/-- Adds an instruction at the end of a block, under a fresh name. -/
def append (f : Function) (label base : String) (instr : String → Instr) : String × Function :=
  let (name, scope) := f.scope.fresh base
  (name, { f with scope }.modifyBlock label fun b => { b with instrs := b.instrs ++ [instr name] })

/-- Ends a block. -/
def terminate (f : Function) (label : String) (t : Terminator) : Function :=
  f.modifyBlock label fun b => { b with terminator := some t }

def block? (f : Function) (label : String) : Option Block :=
  f.blocks.find? (·.label = label)

theorem unnamed_length (n : Nat) (s : Scope) : (unnamed n s).1.length = n := by
  induction n generalizing s with
  | zero => rfl
  | succ n ih => simp [unnamed, ih]

theorem arity_declare (name : String) (n : Nat) : (declare name n).arity = n := by
  simp [declare, arity, unnamed_length]

theorem renamed_length (olds news : List String) (s : Scope) :
    (renamed olds news s).1.length = olds.length := by
  induction olds generalizing news s with
  | nil => cases news <;> rfl
  | cons old olds ih => cases news <;> simp [renamed, ih]

theorem arity_rename (f : Function) (names : List String) : (f.rename names).arity = f.arity := by
  simp [rename, arity, renamed_length]

end Function

end Reckoner.IR
