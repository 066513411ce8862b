import Reckoner.Location
import Reckoner.Text.UpperCase

/-! Diagnostics.

Every stage reports its faults as diagnostics: a message with a severity, and if
known a code, a place, a help line and suggestions. `render` is the text that is
shown. A code or help line without characters counts as absent. -/
namespace Reckoner

structure Diagnostic where
  message : String
  location : Option Location := none
  severity : String := "error"
  code : Option String := none
  help : Option String := none
  suggestions : List String := []
deriving Repr, DecidableEq

namespace Diagnostic

/-- A text that is there and not empty. -/
def shown (text : Option String) : Option String :=
  text.filter (!·.isEmpty)

/-- The first line: severity and code, then the message. -/
def headline (d : Diagnostic) : String :=
  let severity := Text.upperCase d.severity
  match shown d.code with
  | some code => s!"{severity}[{code}]: {d.message}\n"
  | none => s!"{severity}: {d.message}\n"

/-- The lines of a diagnostic, each ended. -/
def render (d : Diagnostic) : String :=
  let place := match d.location with
    | some l => s!"  --> {l.text}\n"
    | none => ""
  let help := match shown d.help with
    | some help => s!"  help: {help}\n"
    | none => ""
  let suggestions :=
    if d.suggestions.isEmpty then ""
    else d.suggestions.foldl (fun text s => s!"{text}    - {s}\n") "  suggestions:\n"
  d.headline ++ place ++ help ++ suggestions

end Diagnostic

end Reckoner
