import Reckoner.Expr.Parser
import Reckoner.Lowering.Generator
import Reckoner.Session.Options
import Reckoner.Session.Transcript

/-! Sessions.

A session reads statement after statement. A definition or declaration is lowered
into the module; a bare expression is lowered, evaluated and removed again. A
statement that cannot be parsed is given up at one token, which is dropped, and
the next one starts after it. A fault of the source ends the session.

The loop ends because each of its rounds leaves a smaller feed. -/
namespace Reckoner

structure Session where
  options : Session.Options
  operators : Operators := .standard
  generator : Lowering.Generator
  parseFaults : Array Expr.Fault := #[]
  results : Array Float := #[]
  events : Array Session.Event := #[]
  /-- How many faults of malformed numerals have been shown. -/
  shown : Nat := 0
  /-- Code has been made for some run. -/
  started : Bool := false

namespace Session

/-- A session before its first statement. -/
def ofOptions (options : Options) : Session :=
  { options, generator := .ofName options.moduleName }

def emit (s : Session) (e : Event) : Session :=
  { s with events := s.events.push e }

def write (s : Session) (text : String) : Session :=
  s.emit (.line text)

def prompt (s : Session) : Session :=
  if s.options.prompts then s.emit .prompt else s

/-- Shows the faults of malformed numerals that have not been shown yet. -/
def report (s : Session) (faults : Array Token.Fault) : Session :=
  let fresh := faults.toList.drop s.shown
  { s with
    events := s.events ++ (fresh.map fun f => Event.diagnostic f.diagnostic).toArray
    shown := faults.size }

/-- Records and shows that a parse failed. -/
def refuse (s : Session) (fault : Expr.Fault) : Session :=
  { s with parseFaults := s.parseFaults.push fault }.emit (.diagnostic fault.diagnostic)

def showParse (s : Session) (what : String) (e : Expr) : Session :=
  if s.options.showsParse then s.write s!"{what}: {e.text}" else s

/-- Lowers a construct and shows the faults found. The function is `none` after
a fault. -/
def lower (s : Session) (e : Expr) : Option IR.Operand × Session :=
  let (value, generator) := s.generator.generate e
  let fresh := generator.faults.toList.drop s.generator.faults.size
  (value.toOption,
    { s with
      generator
      events := s.events ++ (fresh.map fun f => Event.diagnostic f.diagnostic).toArray })

/-- Shows the text of a function, whose parameters are printed thereby. -/
def showIR (s : Session) (what name : String) : Session :=
  if s.options.showsIR then
    match s.generator.function? name with
    | some f =>
      { s with generator := s.generator.printedFunction name }.write s!"{what}:\n{f.text}"
    | none => s
  else s

/-- Lowers a definition or declaration. -/
def extend (s : Session) (parsed lowered name : String) (e : Expr) : Session :=
  match (s.showParse parsed e).lower e with
  | (none, s) => s
  | (some _, s) => s.showIR lowered name

/-- Evaluates the bare expression that has been lowered, and removes it. -/
def evaluate (s : Session) (llvm : Llvm) : Session :=
  let generator := s.generator.printed
  let outcome := Evaluation.run llvm s.started s.options.level generator.module anonymousName
  let s := { s with
    generator := (generator.remove anonymousName).2
    started := s.started || Evaluation.isStart outcome }
  match outcome with
  | .error fault => s.emit (.failure fault)
  | .ok result =>
    let s := if result.output.isEmpty then s else s.emit (.host result.output)
    { s with results := s.results.push result.value }.write
      s!"Evaluated to {Decimal.shortest result.value}"

/-- Carries out a statement that has been parsed. -/
def perform (s : Session) (llvm : Llvm) (e : Expr) : Session :=
  match e with
  | .prototype p => s.extend "Parsed an extern" "Read extern" p.name e
  | .function p body _ =>
    if p.isAnonymous then
      match (s.showParse "Parsed a top-level expression" body).lower e with
      | (none, s) => s
      | (some _, s) => (s.showIR "Read top-level expression" p.name).evaluate llvm
    else s.extend "Parsed a function definition" "Read function definition" p.name e
  | _ => s

/-- The end of a session: what it came to, the faults of all malformed numerals
read, and the fault of the source that ended it, if one did. -/
structure Ended where
  session : Session
  faults : Array Token.Fault
  fatal : Option Token.Fault := none

/-- Ends a session at a fault of the source. -/
def halt (s : Session) (fault : Token.Fault) (f : Feed) : Ended :=
  { session := s.emit (.diagnostic fault.diagnostic), faults := f.faults, fatal := some fault }

/-- Goes on from the current token to the end of the input or a fault of the source. -/
def loop (llvm : Llvm) (s : Session) (f : Feed) : Ended :=
  if hf : f.atEnd = true then { session := s, faults := f.faults }
  else
    have more : f.atEnd = false := by simpa using hf
    if Expr.symbol? f ";" then
      let s := s.prompt
      match hn : f.next with
      | (some fault, g) => s.halt fault g
      | (none, g) =>
        have := Feed.size_next_lt hn more
        loop llvm (s.report g.faults) g
    else
      match Expr.statement s.operators f with
      | .found e g less => loop llvm ((s.perform llvm e).report g.faults) g
      | .refused fault g le =>
        let s := s.refuse fault
        match hn : g.next with
        | (some fault, h) => s.halt fault h
        | (none, h) =>
          have : h.size < f.size := by
            have := Feed.size_next_lt_or hn
            have := Feed.size_pos more
            omega
          loop llvm (s.report h.faults) h
      | .stopped (.source fault) g => s.halt fault g
      | .stopped (.noToken _) g => { session := s, faults := g.faults }
termination_by f.size

/-- A whole session on a feed without current token. -/
def run (options : Options) (llvm : Llvm) (f : Feed) : Ended :=
  let s := (ofOptions options).prompt
  let ended := match f.next with
    | (some fault, g) => s.halt fault g
    | (none, g) => loop llvm s g
  if options.prompts then { ended with session := ended.session.write "" } else ended

namespace Ended

def transcript (e : Ended) : Transcript := e.session.events.toList

/-- The text of the module at the end. -/
def moduleText (e : Ended) : String := e.session.generator.module.text

end Ended

end Session

end Reckoner
