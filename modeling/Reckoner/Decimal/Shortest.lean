import Reckoner.Decimal.Content
import Reckoner.Decimal.Layout

/-! The shortest decimal that reads back as a given double.

The reals that round to `m · 2^q` form an interval, with its ends when `m` is
even. For one digit, two digits and so on, the two neighbours of the value on
the grid of decimals with so many digits are tried: the first grid with a
neighbour in the interval wins, of two such neighbours the nearer, and of two
equally near ones the even one. Seventeen digits always suffice. `shortest`
writes the result positionally from `0.0001` to below `10^16`. -/
namespace Reckoner.Decimal

/-- The reals that round to one double, as quarters of its last binary place:
between `low` and `high` times `2^q`, the ends included if `closed`. -/
structure Interval where
  low : Nat
  high : Nat
  closed : Bool
  q : Int
deriving Repr, DecidableEq

/-- The interval of `m · 2^q`. Below a power of two the doubles lie twice as
close, so there the lower end is nearer. -/
def intervalOf (m : Nat) (q : Int) : Interval :=
  { low := if m = Nat.pow 2 52 ∧ -1074 < q then 4 * m - 1 else 4 * m - 2
    high := 4 * m + 2
    closed := m % 2 = 0
    q := q - 2 }

/-- Whether `n · 10^k` lies in the interval. -/
def Interval.holds (i : Interval) (n : Nat) (k : Int) : Bool :=
  let low := (scaled i.low i.q).over k
  let high := (scaled i.high i.q).over k
  if i.closed then low.num ≤ n * low.den && n * high.den ≤ high.num
  else low.num < n * low.den && n * high.den < high.num

/-- The neighbour of the fraction `r` that the interval holds, on the grid of
step `10^k`; of two, the one nearer to `r`, and the even one of two equally near. -/
def neighbour? (i : Interval) (r : Ratio) (k : Int) : Option Nat :=
  let s := r.over k
  let below := s.num / s.den
  let above := below + 1
  match i.holds below k, i.holds above k with
  | true, true =>
    let rest := 2 * (s.num % s.den)
    if rest < s.den then some below
    else if s.den < rest then some above
    else some (if below % 2 = 0 then below else above)
  | true, false => some below
  | false, true => some above
  | false, false => none

/-- Tries the grids with `digits` digits and more, `fuel` of them. -/
def search (i : Interval) (r : Ratio) (top : Int) (digits : Nat) : Nat → Scientific
  | 0 => .ofNat (r.num / r.den) 0
  | fuel + 1 =>
    let k := top - digits + 1
    match neighbour? i r k with
    | some n => .ofNat n k
    | none => search i r top (digits + 1) fuel

/-- The shortest decimal that rounds to `m · 2^q`, for a positive `m`. -/
def shortestScientific (m : Nat) (q : Int) : Scientific :=
  let r := scaled m q
  search (intervalOf m q) r r.magnitude 1 17

/-- Results are positional from `0.0001` to below `10^16`, and a whole number
keeps its point. -/
def resultLayout : Layout := ⟨-4, 16, true⟩

/-- The text of a double with the fewest digits that read back. -/
def shortest (x : Float) : String :=
  match content x with
  | .nan => "nan"
  | .infinite negative => signed negative "inf".toList
  | .finite negative 0 _ => signed negative resultLayout.zero
  | .finite negative m q => signed negative (resultLayout.write (shortestScientific m q))

end Reckoner.Decimal
