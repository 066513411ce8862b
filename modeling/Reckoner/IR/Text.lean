import Reckoner.IR.Module
import Reckoner.Text.Quoted

/-! The text of modules and functions.

Names are quoted after a sign that tells local from global ones; in them a
backslash and a quote are written as two hexadecimal digits after a backslash.
Doubles are written as the hexadecimal digits of their bits. -/
namespace Reckoner.IR

/-- A name between quotes. -/
def quotedName (name : String) : String :=
  let escape (c : Char) : List Char :=
    if c = '\\' then ['\\', '5', 'c'] else if c = '"' then ['\\', '2', '2'] else [c]
  String.ofList ('"' :: name.toList.flatMap escape ++ ['"'])

def localName (name : String) : String := "%" ++ quotedName name

def globalName (name : String) : String := "@" ++ quotedName name

namespace Ty

def text : Ty → String
  | double => "double"
  | flag => "i1"
  | function arity => "double (" ++ ", ".intercalate (List.replicate arity "double") ++ ")*"

end Ty

/-- The bits of a double in hexadecimal digits without leading zeros, moved to the
right end of sixteen places. -/
def constantText (x : Double) : String :=
  let digits := '0' :: 'x' :: Text.hexadecimal 1 x.bits
  String.ofList (List.replicate (16 - digits.length) ' ' ++ digits)

section Function
variable (params : List String)

/-- An operand in a function whose parameters are shown as `params`. -/
def Operand.text : Operand → String
  | const x => constantText x
  | param i => localName (params.getD i "")
  | result name _ => localName name
  | function name _ => globalName name

def Arithmetic.text : Arithmetic → String
  | add => "fadd"
  | sub => "fsub"
  | mul => "fmul"

def Relation.text : Relation → String
  | lessOrUnordered => "fcmp ult"
  | orderedAndUnequal => "fcmp one"

/-- An operation on two operands of one type. -/
def operationText (operation : String) (lhs rhs : Operand) : String :=
  operation ++ " " ++ lhs.type.text ++ " " ++ lhs.text params ++ ", " ++ rhs.text params

def Instr.text (i : Instr) : String :=
  localName i.name ++ " = " ++
    match i with
    | arithmetic _ op lhs rhs => operationText params op.text lhs rhs
    | compare _ relation lhs rhs => operationText params relation.text lhs rhs
    | widen _ flag => "uitofp i1 " ++ flag.text params ++ " to double"
    | call _ callee args =>
      let arg (a : Operand) := a.type.text ++ " " ++ a.text params
      "call double " ++ globalName callee ++ "(" ++ ", ".intercalate (args.map arg) ++ ")"
    | phi _ incoming =>
      let pair (p : Operand × String) := "[" ++ p.1.text params ++ ", " ++ localName p.2 ++ "]"
      "phi  double " ++ ", ".intercalate (incoming.map pair)

def Terminator.text : Terminator → String
  | ret value => "ret " ++ value.type.text ++ " " ++ value.text params
  | jump target => "br label " ++ localName target
  | branch flag yes no =>
    "br i1 " ++ flag.text params ++ ", label " ++ localName yes ++ ", label " ++ localName no

/-- A block: its label, then a line for each instruction and its terminator. -/
def Block.text (b : Block) : String :=
  let lines := b.instrs.map (Instr.text params) ++ (b.terminator.map (Terminator.text params)).toList
  b.label ++ ":\n" ++ String.join (lines.map fun line => "  " ++ line ++ "\n")

end Function

namespace Function

/-- Name and parameters. -/
def signatureText (f : Function) : String :=
  let param (name : String) := "double " ++ localName name
  "double " ++ globalName f.name ++ "(" ++ ", ".intercalate (f.shownParams.map param) ++ ")"

def text (f : Function) : String :=
  if f.isDeclaration then "declare " ++ f.signatureText ++ "\n"
  else
    "define " ++ f.signatureText ++ "\n\x7b\n" ++
      String.join (f.blocks.map (Block.text f.shownParams)) ++ "\x7d\n"

end Function

def Global.text : Global → String
  | function f => f.text
  | cell name => globalName name ++ " = external global double"

/-- The first three lines of a module's text, with its name in a comment. -/
def Module.heading (m : Module) : String :=
  "; ModuleID = \"" ++ m.name ++ "\"\n" ++
    "target triple = \"unknown-unknown-unknown\"\n" ++
    "target datalayout = \"\"\n"

/-- The text of a module: its heading, then the globals, each behind an empty line. -/
def Module.text (m : Module) : String :=
  m.heading ++ String.join (m.globals.map fun g => "\n" ++ g.text)

theorem Function.shownParams_fixNames (f : Function) : f.fixNames.shownParams = f.shownParams := rfl

/-- Fixing the names of parameters does not change the text. -/
theorem Function.text_fixNames (f : Function) : f.fixNames.text = f.text := by
  unfold Function.text Function.signatureText
  rw [Function.shownParams_fixNames]
  rfl

theorem Module.text_fixNames (m : Module) : m.fixNames.text = m.text := by
  unfold Module.text Module.heading Module.fixNames
  rw [List.map_map]
  congr 2
  refine List.map_congr_left fun g _ => ?_
  cases g with
  | function f => exact congrArg ("\n" ++ ·) f.text_fixNames
  | cell name => rfl

end Reckoner.IR
