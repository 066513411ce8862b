import Reckoner.Evaluation.Level
import Reckoner.IR.Text
import Reckoner.Machine

/-! The code generator.

A module is handed to a code generator as a text, which is read, verified, improved if
that is asked for, and turned into code. `Llvm` is what the code generator does. It is
not part of the program: all that is said of sessions is said for whatever it does, or
names what is asked of it. A module that has been read is looked at through its
`Listing`, in which every instruction has an opcode and every operand a name. -/
namespace Reckoner
open IR

namespace Listing

/-- An instruction: what it does, and the names of its operands. That of a literal is
empty. -/
structure Instr where
  opcode : String
  operands : List String
deriving Repr, DecidableEq

structure Function where
  name : String
  isDeclaration : Bool
  blocks : List (List Instr)
deriving Repr, DecidableEq

end Listing

abbrev Listing := List Listing.Function

namespace Listing

/-- The names of all operands of the calls in a function with a body: of callees and of
arguments. -/
def Function.named (f : Function) : List String :=
  if f.isDeclaration then []
  else f.blocks.flatMap fun b => (b.filter (·.opcode = "call")).flatMap Instr.operands

/-- The declared functions that calls name and that are found nowhere, each once and in
order. Reserved names are not looked for. -/
def unresolved (hasSymbol : String → Bool) (l : Listing) : List String :=
  let declared := (l.filter (·.isDeclaration)).map Function.name
  let missing := (l.flatMap Function.named).filter fun name =>
    declared.contains name && !isReserved name && !hasSymbol name
  missing.eraseDups.mergeSort fun a b => !decide (b < a)

end Listing

/-- What a code generator does. -/
structure Llvm where
  /-- The modules that have been read. -/
  Held : Type
  /-- Reads and verifies the text of a module, or tells what is wrong with it. -/
  read : Module → Except String Held
  listing : Held → Listing
  /-- Improves the function of a name as far as a level asks for it. -/
  improve : Evaluation.Level → Held → String → Held
  /-- A name is found in the process, before the first code has been made there or since. -/
  hasSymbol : Bool → String → Bool
  /-- The code of a function is found under its name. -/
  hasFunction : Held → String → Bool
  /-- What a call of a function without arguments gives, if it comes back. -/
  call : Held → String → Machine.Result

/-- The most bytes that a local name has in a text that is read. -/
def Llvm.localNameLimit : Nat := 1024

/-! ### Modules as they are listed -/

namespace IR

/-- The name under which an operand is printed. -/
def Operand.shownName (params : List String) : Operand → String
  | const _ => ""
  | param i => params.getD i ""
  | result name _ | function name _ => name

def Instr.opcode : Instr → String
  | arithmetic _ op _ _ => op.text
  | compare _ _ _ _ => "fcmp"
  | widen _ _ => "uitofp"
  | call _ _ _ => "call"
  | phi _ _ => "phi"

/-- The operands of an instruction as they are listed, of a call the callee too. -/
def Instr.listed : Instr → List Operand
  | arithmetic _ _ lhs rhs | compare _ _ lhs rhs => [lhs, rhs]
  | widen _ flag => [flag]
  | call _ callee args => args ++ [.function callee args.length]
  | phi _ incoming => incoming.map Prod.fst

/-- An instruction in a function whose parameters are shown as `params`. -/
def Instr.listing (params : List String) (i : Instr) : Listing.Instr where
  opcode := i.opcode
  operands := i.listed.map (·.shownName params)

def Terminator.listing (params : List String) : Terminator → Listing.Instr
  | ret value => ⟨"ret", [value.shownName params]⟩
  | jump target => ⟨"br", [target]⟩
  | branch flag yes no => ⟨"br", [flag.shownName params, no, yes]⟩

def Block.listing (params : List String) (b : Block) : List Listing.Instr :=
  b.instrs.map (·.listing params) ++ (b.terminator.map (·.listing params)).toList

def Function.listing (f : Function) : Listing.Function where
  name := f.name
  isDeclaration := f.isDeclaration
  blocks := f.blocks.map (·.listing f.shownParams)

/-- The listing of a module that has been read and not been improved. -/
def Module.listing (m : Module) : Listing :=
  m.functions.map Function.listing

end IR

end Reckoner
