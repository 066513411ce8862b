import Reckoner.Double
import Reckoner.Text.Digit
import Reckoner.Text.Quoted

/-! Reading a decimal.

`numeral` is the value of digits around a point. `read` reads the whole text of a
number: an optional sign, then digits with an optional point and an optional
exponent, or one of the names of infinity and of the value that is no number. Both
round to the nearest double, a half to the even one. -/
namespace Reckoner.Decimal

/-- The whole number that digits denote. -/
def valueOf (digits : List Char) : Nat :=
  digits.foldl (fun n d => 10 * n + (d.toNat - '0'.toNat)) 0

/-- The double nearest to `n · 10^e`. Exponents beyond any double's range are
capped, which changes no result. -/
def ofScientific (n : Nat) (e : Int) : Float :=
  if n = 0 then 0.0
  else if e < 0 then
    Float.ofScientific n true (min e.natAbs (n.log2 + 400))
  else Float.ofScientific n false (min e.natAbs 400)

/-- The value of the digits before and after a point. -/
def numeral (whole fraction : List Char) : Float :=
  ofScientific (valueOf (whole ++ fraction)) (-(fraction.length : Int))

/-- Splits a sign off. -/
def takeSign : List Char → Bool × List Char
  | '-' :: rest => (true, rest)
  | '+' :: rest => (false, rest)
  | rest => (false, rest)

/-- An exponent: digits after an optional sign. -/
def exponent? (s : List Char) : Option Int :=
  let (negative, digits) := takeSign s
  if digits.isEmpty || !digits.all Char.isDigit then none
  else
    let n : Int := valueOf digits
    some (if negative then -n else n)

/-- Digits with an optional point and an optional exponent. -/
def unsigned? (s : List Char) : Option Float :=
  let whole := s.takeWhile Char.isDigit
  let (fraction, rest) := match s.dropWhile Char.isDigit with
    | '.' :: rest => (rest.takeWhile Char.isDigit, rest.dropWhile Char.isDigit)
    | rest => ([], rest)
  if whole.isEmpty && fraction.isEmpty then none
  else
    let n := valueOf (whole ++ fraction)
    match rest with
    | [] => some (ofScientific n (-(fraction.length : Int)))
    | c :: rest =>
      if c = 'e' ∨ c = 'E' then
        (exponent? rest).map fun e => ofScientific n (e - fraction.length)
      else none

/-- The digits of all scripts as those of one. -/
def westernDigit (c : Char) : Char :=
  match Text.digit? c with
  | some d => Char.ofNat ('0'.toNat + d)
  | none => c

/-- A text without the single underscores between its digits, if it has no others. -/
def joined? : List Char → Option (List Char)
  | [] => some []
  | a :: '_' :: b :: rest =>
    if a.isDigit && b.isDigit then (joined? (b :: rest)).map (a :: ·) else none
  | c :: rest => if c = '_' then none else (joined? rest).map (c :: ·)

/-- A text that denotes no number. -/
structure Unreadable where
  text : String
deriving Repr, DecidableEq

def Unreadable.message (u : Unreadable) : String :=
  "could not convert string to float: " ++ Text.quoted u.text

/-- Reads the characters of a number. -/
def literal? (s : List Char) : Option Double :=
  let (negative, rest) := takeSign s
  let magnitude :=
    match String.ofList (rest.map Char.toLower) with
    | "inf" | "infinity" => some (1.0 / 0.0)
    | "nan" => some (0.0 / 0.0)
    | _ => unsigned? rest
  magnitude.map fun x => if negative then Double.negate x else x

/-- Reads the text of a number, which may have blanks around it. -/
def read (s : String) : Except Unreadable Double :=
  match (joined? ((Text.trim s.toList).map westernDigit)).bind literal? with
  | some l => .ok l
  | none => .error ⟨s⟩

end Reckoner.Decimal
