import Reckoner.Evaluation
import Reckoner.Llvm.Reading

/-! A code generator to run programs with.

It stands in for the one that the program is made for: modules are read by the rules of
`Reading`, are not improved, and run as a `Machine` in a process with some functions of
the C library. These have symbols once code has been made for a first run; a few names of
variables always have. What a symbol without a function does is not known, and a run that
comes to it gives an arbitrary value. -/
namespace Reckoner

namespace Llvm
open IR

/-! ### The process -/

/-- Functions of the C library, which the process has once code has been made. -/
def libraryNames : List String :=
  ["sqrt", "fabs", "floor", "ceil", "trunc", "round", "rint", "nearbyint", "sin", "cos", "tan",
    "asin", "acos", "atan", "sinh", "cosh", "tanh", "exp", "exp2", "log", "log2", "log10", "pow",
    "atan2", "copysign", "fma"]

/-- Variables of the C library that always have a symbol. -/
def variableNames : List String :=
  ["stdin", "stdout", "stderr"]

def isSymbol (started : Bool) (name : String) : Bool :=
  (Host.ofName? name).isSome || variableNames.contains name ||
    (started && libraryNames.contains name)

/-- What a function of the C library computes. Arguments behind those that it takes are
passed over. -/
def libraryValue? (name : String) (args : List Float) : Option Float :=
  ((Meaning.ofStems.lookup name).filter fun _ => libraryNames.contains name).bind fun meaning =>
    let datum (x : Float) : Datum := { double := x }
    (meaning.value? ((args.take meaning.arity).map datum)).map (·.value)

end Llvm

/-- A square root is computed in place of a call of `sqrt`, unless it is no number. -/
def Process.standard : Process where
  library name args :=
    match name, args with
    | "sqrt", [x] => if x.sqrt.isNaN then none else some x.sqrt
    | _, _ => none
  foreign := Llvm.libraryValue?
  intrinsic name args :=
    ((Llvm.Intrinsic.ofName? name).bind Llvm.Intrinsic.meaning?).bind (·.value? args)
  takes _ := true

namespace Llvm
open IR

/-! ### Looking up code -/

/-- The symbol that a name stands for: a mark in front keeps the rest as it is. -/
def symbol : List Char → List Char
  | '\x01' :: rest => rest
  | name => name

/-- A symbol that is to be found outside of the code in which it is defined: not one
kept within it, nor that of the frames of its functions. -/
def isVisible (symbol : List Char) : Bool :=
  !(symbol.isEmpty || ".L".toList.isPrefixOf symbol || symbol = ".eh_frame".toList)

/-- The function with a body that is found under a name, which ends before any zero
character: the one of that name, or else the one of the same symbol. -/
def compiled? (m : Module) (name : String) : Option Function :=
  let name := name.toList.takeWhile (· ≠ '\x00')
  if isVisible (symbol name) then
    let defined (f : Function) := !f.isDeclaration
    ((m.function? (String.ofList name)).filter defined).or
      (m.functions.find? fun f => defined f && symbol f.name.toList = symbol name)
  else none

/-- The code generator that runs machines by `finish`, in a process with some symbols. -/
def ofFinish (hasSymbol : Bool → String → Bool) (finish : Machine → Option Machine.Result) :
    Llvm where
  Held := Module
  read := parse
  listing := Module.listing
  improve _ m _ := m
  hasSymbol
  hasFunction m name := (compiled? m name).isSome
  call m name := (((compiled? m name).bind (Machine.ofFunction? m)).bind finish).getD default

def standard : Llvm :=
  ofFinish isSymbol (Machine.finish .standard)

end Llvm

end Reckoner
