import Reckoner.CommandLine.Arguments
import Reckoner.Llvm.Standard
import Reckoner.Session

/-! The program as a whole.

A run has a source, named in diagnostics, and gives an exit status and two texts:
the output and what stands beside it. The status is 1 if a fault of the source
ended the session. -/
namespace Reckoner.CommandLine

/-- The name and version of the program. -/
def versionText : String := "kaleidoscope 0.1.0\n"

/-- How the program is called. -/
def usageText : String :=
  "usage: kaleidoscope [-h] [--print-ir] [--print-parse] [--dump-module] [--no-prompt]\n" ++
    "                    [--opt-level \x7b0,1,2,3\x7d] [--version] [source]\n"

/-- The name of the standard input. -/
def standardName : String := "<stdin>"

/-- The status of arguments that are refused. -/
def refusedStatus : Nat := 2

/-- What is said of a level without number. -/
def noLevelMessage : String := "'<=' not supported between instances of 'int' and 'list'"

/-- The status of a run that ends in a fault. -/
def faultStatus : Nat := 1

structure Outcome where
  status : Nat := 0
  output : String := ""
  errors : String := ""
deriving Repr, DecidableEq

/-- Runs a session on a source. -/
def run (a : Arguments) (source : Source) : Outcome :=
  let feed := Feed.ofSource (a.source.getD standardName) source
  let ended := Session.run a.options .standard feed
  let dump := if a.dumps then ended.moduleText ++ "\n" else ""
  { status := if ended.fatal.isSome then faultStatus else 0
    output := ended.transcript.output ++ dump
    errors := ended.transcript.errors }

end Reckoner.CommandLine
