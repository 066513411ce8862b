/-! How a decimal is laid out.

A decimal in scientific form has its digits, the first before the point, and an
exponent of ten. A `Layout` says which exponents are written positionally and
whether a whole number keeps a zero after the point; every other exponent is
written after an `e`, with its sign and at least two digits. -/
namespace Reckoner.Decimal

/-- The number `d₀.d₁d₂… · 10^exponent`. -/
structure Scientific where
  digits : List Char
  exponent : Int
deriving Repr, DecidableEq

/-- The choices of a printed form. -/
structure Layout where
  /-- The least exponent written positionally. -/
  low : Int
  /-- The first exponent beyond those written positionally. -/
  high : Int
  /-- A whole number written positionally ends in `.0`. -/
  keepsPoint : Bool
deriving Repr, DecidableEq

/-- Drops the zeros at the end, but not the first digit. -/
def trimZeros : List Char → List Char
  | [] => []
  | d :: rest => d :: (rest.reverse.dropWhile (· = '0')).reverse

/-- The scientific form of a whole number `n · 10^k`, without zeros at the end. -/
def Scientific.ofNat (n : Nat) (k : Int) : Scientific :=
  let digits := Nat.toDigits 10 n
  ⟨trimZeros digits, k + digits.length - 1⟩

/-- An exponent with its sign and at least two digits. -/
def exponentText (e : Int) : List Char :=
  let digits := Nat.toDigits 10 e.natAbs
  (if e < 0 then '-' else '+') :: List.replicate (2 - digits.length) '0' ++ digits

/-- The digits around a point, which is left out before nothing. -/
def pointed (whole fraction : List Char) : List Char :=
  if fraction.isEmpty then whole else whole ++ '.' :: fraction

/-- A decimal in its layout, without sign. -/
def Layout.write (l : Layout) (s : Scientific) : List Char :=
  if l.low ≤ s.exponent ∧ s.exponent < l.high then
    if s.exponent < 0 then
      pointed ['0'] (List.replicate ((-s.exponent).toNat - 1) '0' ++ s.digits)
    else
      let places := s.exponent.toNat + 1
      let whole := s.digits.take places
      let fraction := s.digits.drop places
      pointed (whole ++ List.replicate (places - whole.length) '0')
        (if fraction.isEmpty && l.keepsPoint then ['0'] else fraction)
  else
    match s.digits with
    | [] => []
    | d :: rest => pointed [d] rest ++ 'e' :: exponentText s.exponent

/-- The layout of zero. -/
def Layout.zero (l : Layout) : List Char :=
  if l.keepsPoint then ['0', '.', '0'] else ['0']

/-- A minus before the text of a negative number. -/
def signed (negative : Bool) (text : List Char) : String :=
  String.ofList (if negative then '-' :: text else text)

end Reckoner.Decimal
