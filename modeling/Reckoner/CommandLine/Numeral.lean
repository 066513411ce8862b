import Reckoner.Text.Digit

/-! Whole numbers on the command line.

A number may have blanks around it, a sign, and single underscores between its
digits, and its digits may be those of any script. There is a limit to how many
digits it has. -/
namespace Reckoner.CommandLine

/-- The most digits of a number, zeros in front included. -/
def digitLimit : Nat := 4300

/-- Digits, with single underscores between them, behind a number read so far. -/
def digits? (n : Nat) : List Char → Option Nat
  | [] => some n
  | '_' :: c :: rest => (Text.digit? c).bind fun d => digits? (10 * n + d) rest
  | c :: rest => (Text.digit? c).bind fun d => digits? (10 * n + d) rest

/-- A number without sign. -/
def unsigned? : List Char → Option Nat
  | [] => none
  | c :: rest =>
    if (c :: rest).countP Text.isDigit > digitLimit then none
    else (Text.digit? c).bind fun d => digits? d rest

/-- The whole number that a text denotes. -/
def wholeNumber? (s : String) : Option Int :=
  match Text.trim s.toList with
  | '-' :: rest => (unsigned? rest).map fun n => -(n : Int)
  | '+' :: rest => (unsigned? rest).map fun n => (n : Int)
  | rest => (unsigned? rest).map fun n => (n : Int)

end Reckoner.CommandLine
