import Reckoner.Decimal.Content
import Reckoner.Decimal.Layout

/-! A double to six significant digits.

The exact value is rounded to six digits, a half going to the even neighbour,
and zeros at the end are dropped. `significant` writes the result positionally
from `0.0001` to below `10^6`. -/
namespace Reckoner.Decimal

/-- A fraction rounded to a whole number, a half to the even neighbour. -/
def Ratio.round (r : Ratio) : Nat :=
  let below := r.num / r.den
  let rest := 2 * (r.num % r.den)
  if rest < r.den ∨ rest = r.den ∧ below % 2 = 0 then below else below + 1

/-- A positive fraction to `digits` significant digits. -/
def roundedScientific (r : Ratio) (digits : Nat) : Scientific :=
  let k := r.magnitude - digits + 1
  .ofNat (r.over k).round k

/-- Numbers in trees are positional from `0.0001` to below `10^6`. -/
def treeLayout : Layout := ⟨-4, 6, false⟩

/-- The text of a double to six significant digits. -/
def significant (x : Float) : String :=
  match content x with
  | .nan => "nan"
  | .infinite negative => signed negative "inf".toList
  | .finite negative 0 _ => signed negative treeLayout.zero
  | .finite negative m q => signed negative (treeLayout.write (roundedScientific (scaled m q) 6))

end Reckoner.Decimal
