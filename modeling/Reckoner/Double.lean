/-! Doubles with their sign.

A double that is no number has a sign like any other. It takes no part in
arithmetic, but it shows where bits are written, and a number can take it over. The
sign of an operand that is no number goes on to the result. A result that is no
number although all operands are gets a sign of its own: the positive one if the
operation is carried out ahead of the run, the negative one on the run. So an
operand, a `Datum`, says which of the two it is. -/
namespace Reckoner

structure Double where
  value : Float
  /-- The sign of a value that is no number; any other has its own. -/
  marked : Bool := false
deriving Repr

namespace Double

instance : Coe Float Double := ⟨fun value => { value }⟩

/-- The sign bit is set. -/
def isNegative (x : Double) : Bool :=
  if x.value.isNaN then x.marked else Nat.pow 2 63 ≤ x.value.toBits.toNat

/-- The double of the other sign. -/
def negate (x : Double) : Double :=
  { value := -x.value, marked := !x.marked }

/-- The double of a given sign. -/
def signed (x : Double) (negative : Bool) : Double :=
  { value := if negative then -x.value.abs else x.value.abs, marked := negative }

/-- The bits of the double, as a whole number. -/
def bits (x : Double) : Nat :=
  if x.value.isNaN && x.marked then Nat.pow 2 63 + x.value.toBits.toNat
  else x.value.toBits.toNat

theorem isNegative_signed_of_isNaN {x : Double} {negative : Bool}
    (h : (x.signed negative).value.isNaN = true) :
    (x.signed negative).isNegative = negative := by
  simp only [isNegative, h]
  rfl

end Double

/-- An operand as its value is known to an operation. -/
structure Datum where
  double : Double
  /-- Known ahead of the run: a literal, or computed from literals alone. -/
  isForeseen : Bool := false
deriving Repr

namespace Datum

def value (x : Datum) : Float :=
  x.double.value

/-- The result of an operation on `operands` that is carried out ahead of the run or
on it and whose value is `value`. -/
def resultWhen (isForeseen : Bool) (operands : List Datum) (value : Float) : Datum :=
  match operands.find? (·.value.isNaN) with
  | some x => { double := { value, marked := x.double.marked }, isForeseen }
  | none => { double := { value, marked := !isForeseen }, isForeseen }

/-- The result of an operation that is carried out as soon as its operands are known. -/
def result (operands : List Datum) (value : Float) : Datum :=
  resultWhen (operands.all (·.isForeseen)) operands value

/-- The datum of the other sign. -/
def negate (x : Datum) : Datum :=
  { x with double := x.double.negate }

/-- The first is known ahead of the run, the second is not. -/
def isAhead (x y : Datum) : Bool :=
  x.isForeseen && !y.isForeseen

/-- Of two operands whose order does not matter for the value, one that is known ahead
of the run comes behind one that is not. -/
def arranged (x y : Datum) : Datum × Datum :=
  if x.isAhead y then (y, x) else (x, y)

def add (x y : Datum) : Datum :=
  let (first, second) := arranged x y
  result [first, second] (x.value + y.value)

/-- What is known ahead of the run is negated and added, and so is what is taken from the
negative zero. -/
def sub (x y : Datum) : Datum :=
  let isNegativeZero := x.value == 0.0 && x.double.isNegative
  let negates := y.isAhead x || (x.isAhead y && isNegativeZero)
  result [x, if negates then y.negate else y] (x.value - y.value)

/-- To multiply by the negative one is to negate. -/
def mul (x y : Datum) : Datum :=
  let (first, second) := arranged x y
  let negates := second.isAhead first && second.value == -1.0
  result [if negates then first.negate else first, second] (x.value * y.value)

@[simp]
theorem value_result (operands : List Datum) (value : Float) :
    (result operands value).value = value := by
  unfold result resultWhen
  split <;> rfl

/-! Signs aside, operands are doubles and nothing more. -/

@[simp]
theorem value_add (x y : Datum) : (add x y).value = x.value + y.value := by
  simp [add]

@[simp]
theorem value_sub (x y : Datum) : (sub x y).value = x.value - y.value := by
  simp [sub]

@[simp]
theorem value_mul (x y : Datum) : (mul x y).value = x.value * y.value := by
  simp [mul]

end Datum

end Reckoner
