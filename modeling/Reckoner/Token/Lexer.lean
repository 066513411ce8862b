import Reckoner.Token.Scanner

/-! Tokens on demand.

A lexer is a scanner with the token it gave last and the faults of the malformed
numerals among its tokens. `next` asks for one token, `rest` for all up to the
end of the input; a fault that stops a scan leaves the current token as it was. -/
namespace Reckoner

structure Lexer where
  scanner : Scanner
  current : Option Token := none
  faults : Array Token.Fault := #[]

namespace Lexer

/-- A lexer at the start of a named source. -/
def ofSource (file : String) (source : Source) : Lexer :=
  { scanner := { file, source } }

/-- Scans the next token and makes it current. -/
def next (l : Lexer) : Except Token.Fault Token × Lexer :=
  match Scanner.next l.scanner with
  | .ok t s => (.ok t, { scanner := s, current := some t, faults := l.faults ++ t.fault?.toArray })
  | .error fault s => (.error fault, { l with scanner := s })

theorem remaining_next_lt {l m : Lexer} {t : Token} (h : l.next = (.ok t, m))
    (more : t.kind ≠ .endOfInput) : m.scanner.remaining < l.scanner.remaining := by
  unfold next at h
  split at h
  · cases h
    exact Scanner.remaining_next_lt ‹_› more
  · cases h

/-- Collects tokens up to the end of the input, after those in `before`, which
are in reverse. -/
def collect (before : List Token) (l : Lexer) : Except Token.Fault (List Token) × Lexer :=
  match h : l.next with
  | (.error fault, m) => (.error fault, m)
  | (.ok t, m) =>
    if more : t.kind = .endOfInput then (.ok (t :: before).reverse, m)
    else
      have := remaining_next_lt h more
      collect (t :: before) m
termination_by l.scanner.remaining

/-- The tokens up to the end of the input, which is the last of them. -/
def rest (l : Lexer) : Except Token.Fault (List Token) × Lexer :=
  collect [] l

/-- The tokens of a text. -/
def tokens (file text : String) : Except Token.Fault (List Token) :=
  (ofSource file (.ofString text)).rest.1

end Lexer

end Reckoner
