import Reckoner.IR.Function

/-! Modules.

A module holds functions, and cells that only take up a name, in the order in
which they were added. No two have the same name and none has an empty one. -/
namespace Reckoner.IR

/-- What every reserved name starts with. -/
def reservedStart : String := "llvm."

/-- Names kept for functions that the code generator knows by itself. -/
def isReserved (name : String) : Bool :=
  reservedStart.toList.isPrefixOf name.toList

inductive Global where
  | function (f : Function)
  /-- A variable, which only takes up a name. -/
  | cell (name : String)
deriving Repr

def Global.name : Global → String
  | function f => f.name
  | cell name => name

/-- The function that a global is, if it is one. -/
def Global.function? : Global → Option Function
  | function f => some f
  | cell _ => none

structure Module where
  name : String
  globals : List Global := []
deriving Repr

namespace Module

def find? (m : Module) (name : String) : Option Global :=
  m.globals.find? (·.name = name)

def function? (m : Module) (name : String) : Option Function :=
  (m.find? name).bind Global.function?

def functions (m : Module) : List Function :=
  m.globals.filterMap Global.function?

def names (m : Module) : List String :=
  m.globals.map Global.name

/-- Whether a new global may have a given name. -/
def isFree (m : Module) (name : String) : Bool :=
  name ≠ "" && !m.names.contains name

def add (m : Module) (g : Global) : Module :=
  { m with globals := m.globals ++ [g] }

/-- Changes the function of a given name in its place. -/
def modify (m : Module) (name : String) (change : Function → Function) : Module :=
  { m with
    globals := m.globals.map fun
      | .function f => .function (if f.name = name then change f else f)
      | g => g }

/-- Puts a function in the place of the one with its name. -/
def put (m : Module) (f : Function) : Module :=
  m.modify f.name fun _ => f

def remove (m : Module) (name : String) : Module :=
  { m with globals := m.globals.filter (·.name ≠ name) }

/-- Fixes the names under which parameters are printed in every function. -/
def fixNames (m : Module) : Module :=
  { m with
    globals := m.globals.map fun
      | .function f => .function f.fixNames
      | g => g }

theorem find?_remove_self (m : Module) (name : String) : (m.remove name).find? name = none := by
  simp [remove, find?]

theorem names_put (m : Module) (f : Function) : (m.put f).names = m.names := by
  simp only [put, modify, names, List.map_map]
  refine List.map_congr_left fun g _ => ?_
  cases g with
  | function h => by_cases same : h.name = f.name <;> simp [Global.name, same]
  | cell n => rfl

end Module

end Reckoner.IR
