import Reckoner.Llvm
import Reckoner.Llvm.Heading
import Reckoner.Llvm.Intrinsic

/-! Which modules can be read.

A module is refused if a block has no terminator, if a call is of a name that is not
in the module, if an operation is on operands that are no doubles, if an intrinsic is
defined or called with arguments that do not fit it, or if a name breaks the text or is
too long for a parameter. Nothing else can be wrong with the modules that a generator
makes. What is said of a module that is refused is known for long names only. -/
namespace Reckoner.Llvm
open IR

/-- A text that does not go to its end, because there is a zero character in it. -/
def endsText (text : String) : Bool :=
  text.toList.contains '\x00'

/-- A name that a parameter can have. -/
def isLocalName (name : String) : Bool :=
  !endsText name && name.utf8ByteSize ≤ localNameLimit

/-- Names of lists that cells cannot stand for where they are used. -/
def listNames : List String :=
  ["llvm.used", "llvm.compiler.used", "llvm.global_ctors", "llvm.global_dtors"]

/-- A function that is not read, because its name stands for an intrinsic, or did so. -/
def givesWay (f : Function) : Bool :=
  Intrinsic.isWithdrawn f.name f.arity || Intrinsic.isAlias f.name f.arity

section
variable (m : Module)

/-- A call of a name with so many doubles. A reserved name has to be declared for
as many, and has to fit its intrinsic, which need not be declared. -/
def allowsCall (callee : String) (count : Nat) : Bool :=
  let fits := (Intrinsic.ofName? callee).map fun i => decide (i.arity = some count)
  match m.find? callee with
  | none => fits.getD false
  | some (.cell _) => !listNames.contains callee
  | some (.function f) =>
    !isReserved callee ||
      (!Intrinsic.isWithdrawn callee count && f.arity = count && fits.getD true)

/-- The operands are doubles and a call is allowed. -/
def allowsInstr : Instr → Bool
  | .arithmetic _ _ lhs rhs | .compare _ _ lhs rhs => lhs.type = .double && rhs.type = .double
  | .call _ callee args => allowsCall m callee args.length
  | .widen _ _ | .phi _ _ => true

def allowsBlock (b : Block) : Bool :=
  b.terminator.isSome && b.instrs.all (allowsInstr m)

def allowsFunction (f : Function) : Bool :=
  !endsText f.name && f.shownParams.all isLocalName &&
    (!isReserved f.name ||
      (!Intrinsic.isOfCollector f.name && (f.isDeclaration || givesWay f))) &&
    f.blocks.all (allowsBlock m)

def allowsGlobal : Global → Bool
  | .function f => allowsFunction m f
  | .cell name => !endsText name

/-- The module without the functions that give way. -/
def withoutAliases : Module :=
  { m with globals := m.globals.filter fun g => !g.function?.any givesWay }

end

/-- The globals that are read behind a heading. A comment that is open at its end goes
on through the text of the globals, and those in it are not read; a zero character ends
the whole text. -/
def globalsBehind? (heading : String) (globals : List Global) : Option (List Global) :=
  if endsText heading then
    if Heading.isHeading (heading.toList.takeWhile (· ≠ '\x00')) then some [] else none
  else if Heading.isHeading heading.toList then some globals
  else
    match globals with
    | [] => none
    | g :: rest => globalsBehind? (heading ++ "\n" ++ g.text) rest

/-- The module that is read from the text of `m`. -/
def accepted? (m : Module) : Option Module :=
  (globalsBehind? m.heading m.globals).bind fun globals =>
    let m := { m with globals }
    if m.globals.all (allowsGlobal m) then some (withoutAliases m) else none

/-! ### What is said of a module that is refused -/

/-- What is wrong with a line of a text: where, what, and the line with a mark. -/
def complaint (line column : Nat) (what text : String) : String :=
  s!"<string>:{line}:{column}: error: {what}\n{text}\n" ++
    String.ofList (List.replicate (column - 1) ' ') ++ "^\n"

/-- The first parameter with a name that is too long, and the text in front of it in the
first line of its function. -/
def longParam? (f : Function) : Option (String × String) :=
  let long := f.shownParams.find? fun name => localNameLimit < name.utf8ByteSize
  long.map fun name =>
    let others := f.shownParams.takeWhile (· ≠ name)
    let param (name : String) := "double " ++ localName name ++ ", "
    (name, (if f.isDeclaration then "declare " else "define ") ++ "double " ++ globalName f.name ++
      "(" ++ String.join (others.map param))

/-- What is said of a name that is too long in globals behind a text. A name is cut to its
first bytes, and is not the one that has been asked for. -/
def longName? (before : String) : List Global → Option String
  | [] => none
  | g :: rest =>
    let before := before ++ "\n"
    match g.function?.bind longParam? with
    | some (name, front) =>
      let line := (before.toList.filter (· = '\n')).length + 1
      let text := String.ofList (g.text.toList.takeWhile (· ≠ '\n'))
      some (complaint line (front.length + 1) s!"redefinition of argument '%{name}'" text)
    | none => longName? (before ++ g.text) rest

/-- Reads a module. -/
def parse (m : Module) : Except String Module :=
  match accepted? m with
  | some m => .ok m
  | none => .error ("LLVM IR parsing error\n" ++ (longName? m.heading m.globals).getD "")

/-- A name without line breaks stays within its comment. -/
theorem isHeading_heading {m : Module} (h : ∀ c ∈ m.name.toList, Heading.isBreak c = false) :
    Heading.isHeading m.heading.toList = true := by
  have opening : (" ModuleID = \"".toList.all fun c => !Heading.isBreak c) = true := by decide
  have quoted : ∀ c ∈ " ModuleID = \"".toList ++ m.name.toList ++ ['"'],
      Heading.isBreak c = false := by
    intro c hc
    simp only [List.mem_append, List.mem_singleton] at hc
    rcases hc with (hc | hc) | hc
    · simpa using List.all_eq_true.mp opening c hc
    · exact h c hc
    · subst hc; decide
  have opened : m.heading.toList =
      ';' :: (" ModuleID = \"".toList ++ m.name.toList ++ ['"']) ++ '\n' ::
        ("target triple = \"unknown-unknown-unknown\"\n".toList ++
          "target datalayout = \"\"\n".toList) := by
    unfold Module.heading
    simp
  rw [opened, Heading.isHeading, List.cons_append, Heading.parts?]
  have started : Heading.step .between ';' = some (.remark, []) := by decide
  rw [started]
  simp only [Option.bind_some, Heading.parts?_remark quoted]
  decide +kernel

end Reckoner.Llvm
