import Reckoner.Diagnostic
import Reckoner.Evaluation

/-! What a session writes.

A transcript is the list of a session's events in order. Prompts and lines go to
the output; diagnostics and failed evaluations go beside it, and so does the text
of host functions. `both` is what a reader of all of it sees. -/
namespace Reckoner.Session

inductive Event where
  | prompt
  | line (text : String)
  | diagnostic (d : Diagnostic)
  | failure (fault : Evaluation.Fault)
  | host (text : String)
deriving Repr

/-- Asks for a statement. -/
def promptText : String := "ready> "

def Event.text : Event → String
  | prompt => promptText
  | line text => text ++ "\n"
  | diagnostic d => d.render
  | failure fault => "ERROR: " ++ fault.message ++ "\n"
  | host text => text

/-- Events of the output. -/
def Event.isOutput : Event → Bool
  | prompt | line _ => true
  | _ => false

/-- Text of host functions. -/
def Event.isHost : Event → Bool
  | host _ => true
  | _ => false

abbrev Transcript := List Event

namespace Transcript

/-- The text of the events that satisfy `p`. -/
def textOf (p : Event → Bool) (t : Transcript) : String :=
  String.join ((t.filter p).map Event.text)

def output (t : Transcript) : String := t.textOf Event.isOutput

def diagnostics (t : Transcript) : String := t.textOf fun e => !e.isOutput && !e.isHost

def host (t : Transcript) : String := t.textOf Event.isHost

/-- All that does not go to the output. -/
def errors (t : Transcript) : String := t.textOf fun e => !e.isOutput

def both (t : Transcript) : String := t.textOf fun _ => true

end Transcript

end Reckoner.Session
