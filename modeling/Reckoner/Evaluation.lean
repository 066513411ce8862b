import Reckoner.Llvm
import Reckoner.Text.Quoted

/-! Evaluating a function of a module.

The whole module is read before anything runs, and improved if a level asks for it.
Then it is checked that every call can be resolved and that the function asked for is
found, and that function is called, for its value and the text that host functions
write. -/
namespace Reckoner.Evaluation
open IR

inductive Fault where
  /-- The text of a module cannot be read: its name, and what is wrong with it. -/
  | invalidModule (name text : String)
  | unresolved (names : List String)
  | notCompiled (name : String)
  /-- A name with characters that no name to be looked up may have. -/
  | notPlain (name : String)
deriving Repr, DecidableEq

/-- A character that a name to be looked up may have. -/
def isPlain (c : Char) : Bool :=
  c.toNat < 128

/-- The first characters of a name that it may not have to be looked up. -/
def refusedPart (name : List Char) : String :=
  let start := (name.takeWhile isPlain).length
  match (name.dropWhile isPlain).takeWhile (!isPlain ·) with
  | [c] => s!"character '{String.ofList (Text.codeEscape c)}' in position {start}"
  | found => s!"characters in position {start}-{start + found.length - 1}"

def Fault.message : Fault → String
  | invalidModule name text => s!"Invalid module '{name}': {text}"
  | unresolved names => "Unresolved external function(s): " ++ ", ".intercalate names
  | notCompiled name => s!"Function '{name}' was not compiled"
  | notPlain name =>
    s!"'ascii' codec can't encode {refusedPart name.toList}: ordinal not in range(128)"

section
variable (llvm : Llvm)

/-- Every function with a body improved. -/
def improveAll (level : Level) (held : llvm.Held) : llvm.Held :=
  let defined := (llvm.listing held).filter (!·.isDeclaration)
  defined.foldl (fun held f => llvm.improve level held f.name) held

/-- The module as it is going to be run, if it can be read. -/
def compile (level : Level) (m : Module) : Except Fault llvm.Held :=
  match llvm.read m with
  | .error text => .error (.invalidModule m.name text)
  | .ok held => .ok (if level = .none then held else improveAll llvm level held)

/-- The names that calls in a module mention in vain, before the process has been given
any code or since. -/
def unresolved (started : Bool) (level : Level) (m : Module) : Except Fault (List String) :=
  (compile llvm level m).map fun held => (llvm.listing held).unresolved (llvm.hasSymbol started)

/-- Runs a function without arguments. -/
def run (started : Bool) (level : Level) (m : Module) (name : String) :
    Except Fault Machine.Result :=
  match compile llvm level m with
  | .error fault => .error fault
  | .ok held =>
    match (llvm.listing held).unresolved (llvm.hasSymbol started) with
    | missing :: more => .error (.unresolved (missing :: more))
    | [] =>
      if !name.toList.all isPlain then .error (.notPlain name)
      else if llvm.hasFunction held name then .ok (llvm.call held name)
      else .error (.notCompiled name)

end

/-- Code has been made for a run, which is done once all calls are resolved. -/
def isStart : Except Fault Machine.Result → Bool
  | .error (.invalidModule _ _) | .error (.unresolved _) => false
  | _ => true

end Reckoner.Evaluation
