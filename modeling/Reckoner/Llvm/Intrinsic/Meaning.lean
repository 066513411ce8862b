import Reckoner.Decimal.Content
import Reckoner.Double

/-! What intrinsics compute.

An intrinsic that can be run is a function of one, two or three doubles. The
functions that are not known otherwise are defined here: rounding to whole numbers,
powers of ten, the lesser and the greater of two doubles, and a product with a sum
that is rounded once. Some are carried out ahead of the run where their arguments
are known by then (`result`); the others are left to the run (`resultWhen false`). -/
namespace Reckoner.Llvm

inductive Meaning where
  | unary (f : Datum → Datum)
  | binary (f : Datum → Datum → Datum)
  | ternary (f : Datum → Datum → Datum → Datum)

namespace Meaning

/-- The number of doubles taken. -/
def arity : Meaning → Nat
  | unary _ => 1
  | binary _ => 2
  | ternary _ => 3

/-- The value for arguments that fit. -/
def value? : Meaning → List Datum → Option Datum
  | unary f, [x] => some (f x)
  | binary f, [x, y] => some (f x y)
  | ternary f, [x, y, z] => some (f x y z)
  | _, _ => none

/-- There is a value for the arguments that fit, and only for them. -/
theorem value?_isSome_iff (m : Meaning) (args : List Datum) :
    (m.value? args).isSome = true ↔ m.arity = args.length := by
  rcases args with _ | ⟨x, _ | ⟨y, _ | ⟨z, _ | ⟨w, rest⟩⟩⟩⟩ <;> cases m <;>
    simp [value?, arity]

/-- A function that is left to the run. -/
def onRun (f : Float → Float) : Meaning :=
  unary fun x => .resultWhen false [x] (f x.value)

def onRun₂ (f : Float → Float → Float) : Meaning :=
  binary fun x y => .resultWhen false [x, y] (f x.value y.value)

/-- A function that is left to the run and never gives a negative value that is no number
for a number. -/
def onRunPositive (f : Float → Float) : Meaning :=
  unary fun x => { Datum.resultWhen true [x] (f x.value) with isForeseen := false }

/-- A function that is carried out as soon as its argument is known. -/
def atOnce (f : Float → Float) : Meaning :=
  unary fun x => .result [x] (f x.value)

/-! ### Functions of one double -/

/-- The whole number next to a double on the side of zero. -/
def trunc (x : Float) : Float :=
  if x < 0.0 then x.ceil else x.floor

/-- The whole number nearest to a double, the even one of two. -/
def roundEven (x : Float) : Float :=
  if (x - trunc x).abs == 0.5 then 2.0 * (x / 2.0).round else x.round

/-- The logarithm of ten, in two parts of which the first has few bits. -/
def logTen : Float × Float :=
  ((38630967.0 : Float).scaleB (-24), (33401662972078428.0 : Float).scaleB (-80))

/-- A double without the lower half of its bits. -/
def upperHalf (x : Float) : Float :=
  .ofBits (x.toBits &&& 0xfffffffff8000000)

/-- The power of ten with a given exponent: the exponential of its upper half times
the logarithm, corrected by that of the rest. -/
def tenTo (x : Float) : Float :=
  if x.isNaN || x.isInf then x.exp
  else
    let upper := upperHalf x
    let rest := upper * logTen.2 + (x - upper) * 2.302585092994046
    (upper * logTen.1).exp * rest.exp

/-! ### Signs -/

/-- The magnitude of a double. -/
def magnitude (x : Datum) : Datum :=
  { x with double := x.double.signed false }

/-- The magnitude of one double with the sign of another. -/
def copySign (x y : Datum) : Datum :=
  { double := x.double.signed y.double.isNegative
    isForeseen := x.isForeseen && y.isForeseen }

/-! ### Lesser and greater doubles -/

/-- An order of doubles, from the first on. -/
abbrev Precedes := Datum → Datum → Bool

def isLess (x y : Datum) : Bool :=
  x.value < y.value

/-- Less, where the negative zero is less than the other. -/
def isSignedLess (x y : Datum) : Bool :=
  isLess x y || (x.value == y.value && x.double.isNegative && !y.double.isNegative)

/-- The first of two doubles in an order. -/
def first (precedes : Precedes) (x y : Datum) : Datum :=
  if precedes y x then y else x

/-- The first of two numbers, where a value that is no number is passed over. -/
def firstNumber (precedes : Precedes) (x y : Datum) : Datum :=
  if x.value.isNaN then y else if y.value.isNaN then x else first precedes x y

/-- The first of two doubles, where a value that is no number is preferred. -/
def firstOfAll (precedes : Precedes) (x y : Datum) : Datum :=
  if x.value.isNaN then x else if y.value.isNaN then y else first precedes x y

/-- The first of a double and a literal, which is taken unless the double comes
before it. -/
def besideLiteral (precedes : Precedes) (x literal : Datum) : Datum :=
  if literal.value.isNaN || precedes x literal then x else literal

/-- A choice that is made as soon as both doubles are known. -/
def choice (choose : Datum → Datum → Datum) : Meaning :=
  binary fun x y => { choose x y with isForeseen := x.isForeseen && y.isForeseen }

/-- The first of two numbers. The order of zeros is looked at only ahead of the run;
on the run the literal is taken of two equal doubles, or else the left one. -/
def quickFirst (precedes signedPrecedes : Precedes) (x y : Datum) : Datum :=
  match x.isForeseen, y.isForeseen with
  | true, true => firstNumber signedPrecedes x y
  | false, true => besideLiteral precedes x y
  | true, false => besideLiteral precedes y x
  | false, false => firstNumber precedes x y

/-! ### A product and a sum -/

/-- A whole number divided by `2^k`, rounded to the nearest, a half to the even one. -/
def shifted (n k : Nat) : Nat :=
  let unit := Nat.pow 2 k
  let quotient := n / unit
  let rest := 2 * (n % unit)
  if unit < rest || (unit = rest && quotient % 2 = 1) then quotient + 1 else quotient

/-- The double nearest to `n · 2^q`. -/
def nearest (n : Nat) (q : Int) : Float :=
  let surplus := (max (n.log2 - 52 : Int) (-1074 - q)).toNat
  (shifted n surplus).toUInt64.toFloat.scaleB (q + surplus)

/-- A product and a sum, rounded once. -/
def fused (x y z : Float) : Float :=
  match Decimal.content x, Decimal.content y, Decimal.content z with
  | .finite a m p, .finite b n q, .finite c k r =>
    let low := min (p + q) r
    let product : Int := m * n * Nat.pow 2 (p + q - low).toNat
    let addend : Int := k * Nat.pow 2 (r - low).toNat
    let sum := (if a = b then product else -product) + (if c then -addend else addend)
    if sum = 0 then x * y + z
    else if sum < 0 then -nearest sum.natAbs low
    else nearest sum.natAbs low
  -- A product of finite doubles is finite, however great.
  | .finite .., .finite .., _ => z
  | _, _, _ => x * y + z

/-! ### The table -/

/-- The functions of doubles, by the stems of their names. -/
def ofStems : List (String × Meaning) :=
  [("sqrt", onRun Float.sqrt), ("fabs", unary magnitude), ("floor", atOnce Float.floor),
    ("ceil", atOnce Float.ceil), ("trunc", atOnce trunc), ("round", onRun Float.round),
    ("roundeven", onRun roundEven), ("rint", onRun roundEven), ("nearbyint", onRun roundEven),
    ("canonicalize", onRun id), ("arithmetic.fence", onRun id),
    ("sin", onRun Float.sin), ("cos", onRun Float.cos), ("tan", onRun Float.tan),
    ("asin", onRunPositive Float.asin), ("acos", onRunPositive Float.acos),
    ("atan", onRun Float.atan), ("sinh", onRun Float.sinh), ("cosh", onRun Float.cosh),
    ("tanh", onRun Float.tanh),
    ("exp", onRun Float.exp), ("exp2", onRun Float.exp2), ("exp10", onRun tenTo),
    ("log", onRun Float.log), ("log2", onRun Float.log2), ("log10", onRunPositive Float.log10),
    ("pow", onRun₂ Float.pow), ("atan2", onRun₂ Float.atan2), ("copysign", binary copySign),
    ("minnum", choice (quickFirst isLess isSignedLess)),
    ("maxnum", choice (quickFirst (flip isLess) (flip isSignedLess))),
    ("minimumnum", choice (firstNumber isSignedLess)),
    ("maximumnum", choice (firstNumber (flip isSignedLess))),
    ("minimum", choice (firstOfAll isSignedLess)),
    ("maximum", choice (firstOfAll (flip isSignedLess))),
    ("fma", ternary fun x y z => .result [x, y, z] (fused x.value y.value z.value)),
    ("fmuladd", ternary fun x y z => .add (.mul x y) z)]

end Meaning

end Reckoner.Llvm
