/-! What a double holds.

A double is not a number, an infinity, or plus or minus `m · 2^q` for a whole
`m`. `content` reads the three from its bits; the printers of `Decimal` work on
`m` and `q` in exact arithmetic. -/
namespace Reckoner.Decimal

inductive Content where
  | nan
  | infinite (negative : Bool)
  /-- Plus or minus `m · 2^q`. -/
  | finite (negative : Bool) (m : Nat) (q : Int)
deriving Repr, DecidableEq

/-- Reads a double from its sign, exponent and fraction bits. -/
def content (x : Float) : Content :=
  let bits : Nat := x.toBits.toNat
  let negative : Bool := bits / Nat.pow 2 63 % 2 = 1
  let exponent : Nat := bits / Nat.pow 2 52 % Nat.pow 2 11
  let fraction : Nat := bits % Nat.pow 2 52
  if exponent = Nat.pow 2 11 - 1 then
    if fraction = 0 then .infinite negative else .nan
  else if exponent = 0 then .finite negative fraction (-1074)
  else .finite negative (Nat.pow 2 52 + fraction) (exponent - 1075)

/-- A non-negative fraction of whole numbers. -/
structure Ratio where
  num : Nat
  den : Nat
deriving Repr, DecidableEq

/-- `m · 2^q` as a fraction. -/
def scaled (m : Nat) (q : Int) : Ratio :=
  ⟨m * Nat.pow 2 q.toNat, Nat.pow 2 (-q).toNat⟩

/-- The fraction divided by `10^k`. -/
def Ratio.over (r : Ratio) (k : Int) : Ratio :=
  ⟨r.num * Nat.pow 10 (-k).toNat, r.den * Nat.pow 10 k.toNat⟩

/-- How many digits a whole number has; none for zero. -/
def digitCount (n : Nat) : Nat :=
  if n = 0 then 0 else digitCount (n / 10) + 1
termination_by n

/-- The largest `k` with `10^k ≤ r`, for a positive fraction `r`. -/
def Ratio.magnitude (r : Ratio) : Int :=
  if r.den ≤ r.num then digitCount (r.num / r.den) - 1
  else -(digitCount ((r.den + r.num - 1) / r.num - 1) : Int)

end Reckoner.Decimal
