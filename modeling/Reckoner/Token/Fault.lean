import Reckoner.Diagnostic
import Reckoner.Token

/-! What can be wrong with a source.

A foreign character or a failed read stops the reading of a token; a malformed
numeral is a token of its own, and its fault is reported beside it. -/
namespace Reckoner.Token

inductive Fault where
  /-- A character outside the ASCII alphabet. -/
  | foreign (c : Char) (place : Location)
  | unreadable (reason : String) (place : Location)
  /-- A numeral without digits. -/
  | malformed (lexeme : String) (place : Option Location)
deriving Repr, DecidableEq

namespace Fault

/-- Hexadecimal digits in capitals. -/
def codePoint (c : Char) : String :=
  String.ofList ((Text.hexadecimal 4 c.toNat).map Char.toUpper)

def code : Fault → String
  | foreign .. => "L001"
  | unreadable .. => "L002"
  | malformed .. => "L003"

def diagnostic (f : Fault) : Diagnostic :=
  match f with
  | foreign c place =>
    { message := s!"Invalid character: {Text.quoted (String.singleton c)}"
      location := some place
      code := some f.code
      help := some s!"Non-ASCII character (Unicode: U+{codePoint c}) is not allowed." }
  | unreadable reason place =>
    { message := s!"Failed to read input: {reason}"
      location := some place
      code := some f.code }
  | malformed lexeme place =>
    { message := s!"Invalid numeric literal: {Text.quoted lexeme}"
      location := place
      code := some f.code
      help := some "Numbers are digits with at most one decimal point." }

end Fault

/-- The fault that a token reports: that of a malformed numeral. -/
def fault? (t : Token) : Option Fault :=
  if t.kind = .malformed then some (.malformed t.lexeme t.location) else none

end Reckoner.Token
