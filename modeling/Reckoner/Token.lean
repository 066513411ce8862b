import Reckoner.Decimal.Shortest
import Reckoner.Location

/-! Tokens.

A token is a piece of source with its kind. Names and symbols carry their text
as value and numerals the number they denote; keywords, malformed numerals and
the end of the input carry none. -/
namespace Reckoner

namespace Token

/-- The reserved words. -/
inductive Keyword where
  | define
  | declare
  | condition
  | consequence
  | alternative
deriving Repr, DecidableEq

namespace Keyword

/-- The spelling of a reserved word. -/
def spelling : Keyword → String
  | define => "def"
  | declare => "extern"
  | condition => "if"
  | consequence => "then"
  | alternative => "else"

/-- The reserved word with a given spelling. -/
def ofSpelling? (s : String) : Option Keyword :=
  [define, declare, condition, consequence, alternative].find? (·.spelling = s)

theorem ofSpelling?_spelling (w : Keyword) : ofSpelling? w.spelling = some w := by
  cases w <;> decide

theorem spelling_of_ofSpelling? {s : String} {w : Keyword} (h : ofSpelling? s = some w) :
    w.spelling = s := by
  simpa using List.find?_some h

end Keyword

inductive Kind where
  | endOfInput
  | keyword (word : Keyword)
  | identifier
  | number
  /-- Any other single character. -/
  | symbol
  /-- A numeral without digits. -/
  | malformed
deriving Repr, DecidableEq

/-- The name of a kind in descriptions of tokens. -/
def Kind.name : Kind → String
  | endOfInput => "EOF"
  | keyword .define => "DEF"
  | keyword .declare => "EXTERN"
  | keyword .condition => "IF"
  | keyword .consequence => "THEN"
  | keyword .alternative => "ELSE"
  | identifier => "IDENTIFIER"
  | number => "NUMBER"
  | symbol => "MISC"
  | malformed => "INVALID"

/-- All kinds, with their names in the order of the definition. -/
def Kind.all : List Kind :=
  [endOfInput, keyword .define, keyword .declare, keyword .condition, keyword .consequence,
    keyword .alternative, identifier, number, symbol, malformed]

def Kind.ofName? (s : String) : Option Kind :=
  all.find? (·.name = s)

theorem Kind.ofName?_name (k : Kind) : ofName? k.name = some k := by
  rcases k with _ | w | _ | _ | _ | _ <;> try rcases w with _ | _ | _ | _ | _
  all_goals decide

inductive Value where
  | text (s : String)
  | number (x : Float)
deriving Repr

/-- The value as descriptions of tokens show it. -/
def Value.describe : Value → String
  | text s => Text.quoted s
  | number x => Decimal.shortest x

end Token

structure Token where
  kind : Token.Kind
  lexeme : String
  value : Option Token.Value := none
  location : Option Location := none
deriving Repr

namespace Token

/-- The end of the input, placed at the last character before it. -/
def finish (place : Option Location) : Token :=
  { kind := .endOfInput, lexeme := "", location := place }

/-- The token as diagnostics name it. -/
def text (t : Token) : String :=
  if t.kind = .endOfInput then "end of input" else s!"{t.kind.name}({Text.quoted t.lexeme})"

/-- The token with all its fields. -/
def describe (t : Token) : String :=
  let value := (t.value.map Value.describe).getD "None"
  let location := (t.location.map Location.describe).getD "None"
  s!"Token({t.kind.name}, {Text.quoted t.lexeme}, {value}, {location})"

def isKeyword (t : Token) : Bool :=
  match t.kind with
  | .keyword _ => true
  | _ => false

def isIdentifier (t : Token) : Bool :=
  t.kind = .identifier

/-- The text of a symbol. -/
def symbol? (t : Token) : Option String :=
  match t.kind, t.value with
  | .symbol, some (.text s) => some s
  | _, _ => none

/-- Whether the token is the symbol with a given text. -/
def isSymbol (t : Token) (s : String) : Bool :=
  t.symbol? = some s

/-- The operator that a token is taken for: the text of a symbol, or else its spelling. -/
def operator (t : Token) : String :=
  t.symbol?.getD t.lexeme

/-- The name of an identifier. -/
def name? (t : Token) : Option String :=
  match t.kind, t.value with
  | .identifier, some (.text s) => some s
  | _, _ => none

/-- The number of a numeral. -/
def number? (t : Token) : Option Float :=
  match t.kind, t.value with
  | .number, some (.number x) => some x
  | _, _ => none

end Token

end Reckoner
