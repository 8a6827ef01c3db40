/-!
# Double precision

Positive double precision numbers, calculated exactly: a double is `mantissa * 2 ^ exponent`, what
lies between doubles is a fraction, and every operation rounds its exact result once, to the nearest
double and from a middle to the even one. Signs are kept elsewhere, and no result is infinite: one
that is too large is no result.
-/

namespace EnumHeader.Document

set_option autoImplicit false

structure Fraction where
  numerator : Nat
  denominator : Nat
  deriving Repr, DecidableEq

namespace Fraction

/-- The number `factor * base ^ exponent`. -/
def scaled (factor base : Nat) (exponent : Int) : Fraction :=
  match exponent with
  | .ofNat n => ⟨factor * Nat.pow base n, 1⟩
  | .negSucc n => ⟨factor, Nat.pow base (n + 1)⟩

def times (left right : Fraction) : Fraction :=
  ⟨left.numerator * right.numerator, left.denominator * right.denominator⟩

def dividedBy (left right : Fraction) : Fraction :=
  ⟨left.numerator * right.denominator, left.denominator * right.numerator⟩

def le (left right : Fraction) : Bool :=
  left.numerator * right.denominator ≤ right.numerator * left.denominator

def lt (left right : Fraction) : Bool :=
  left.numerator * right.denominator < right.numerator * left.denominator

/-- The largest whole number of steps of size `step` in a fraction. -/
def floorBy (value step : Fraction) : Nat :=
  (value.numerator * step.denominator) / (value.denominator * step.numerator)

def distance (left right : Fraction) : Fraction :=
  let a := left.numerator * right.denominator
  let b := right.numerator * left.denominator
  ⟨if a ≤ b then b - a else a - b, left.denominator * right.denominator⟩

end Fraction

/-- A double without its sign. The mantissa of zero is zero, whatever the exponent. -/
structure Double where
  mantissa : Nat
  exponent : Int
  deriving Repr, DecidableEq, Inhabited

namespace Double

def minExponent : Int :=
  -1074

def maxExponent : Int :=
  971

def zero : Double :=
  ⟨0, minExponent⟩

def value (double : Double) : Fraction :=
  Fraction.scaled double.mantissa 2 double.exponent

/-- The whole number nearest to `value / step`; a tie goes to the even one. -/
def roundBy (value step : Fraction) : Nat :=
  let below := value.floorBy step
  let twice := value.floorBy ⟨step.numerator, step.denominator * 2⟩
  let exact := value.numerator * step.denominator * 2 == twice * value.denominator * step.numerator
  if twice % 2 = 0 then below
  else if exact && below % 2 == 0 then below
  else below + 1

/-- The double nearest to a fraction; none if it is too large for any. Too small a number becomes
zero. -/
def nearest? (value : Fraction) : Option Double :=
  let guess : Int := (value.numerator.log2 : Int) - value.denominator.log2 - 53
  let start := max guess minExponent
  let exponent :=
    if value.floorBy (Fraction.scaled 1 2 start) < Nat.pow 2 53 then start else start + 1
  let mantissa := roundBy value (Fraction.scaled 1 2 exponent)
  let double : Double :=
    if mantissa = Nat.pow 2 53 then ⟨Nat.pow 2 52, exponent + 1⟩ else ⟨mantissa, exponent⟩
  if maxExponent < double.exponent then none else some double

def times? (left right : Double) : Option Double :=
  nearest? (left.value.times right.value)

def dividedBy? (left right : Double) : Option Double :=
  nearest? (left.value.dividedBy right.value)

def powerOfTen? (exponent : Nat) : Option Double :=
  nearest? (Fraction.scaled 1 10 exponent)

def maxPower : Nat :=
  308

/-- A double times a power of ten, rounded after each multiplication or division by a power that is
a double itself. Powers that are not are taken in steps downwards, and never upwards. -/
def shifted? (double : Double) (exponent : Int) : Option Double :=
  if exponent < -maxPower then
    if double.mantissa = 0 then some double
    else do
      let smaller ← double.dividedBy? (← powerOfTen? maxPower)
      smaller.shifted? (exponent + maxPower)
  else if exponent < 0 then do double.dividedBy? (← powerOfTen? exponent.natAbs)
  else if exponent ≤ maxPower then do double.times? (← powerOfTen? exponent.natAbs)
  else if double.mantissa = 0 then some double
  else none
termination_by exponent.natAbs
decreasing_by simp only [maxPower] at *; omega

/-- The double nearest to `digits * 10 ^ exponent`. -/
def ofDecimal? (digits : Nat) (exponent : Int) : Option Double :=
  let magnitude := (toString digits).length + exponent
  if digits = 0 ∨ magnitude < -400 then some zero
  else if 400 < magnitude then none
  else nearest? (Fraction.scaled digits 10 exponent)

example : ofDecimal? 5 (-1) = some ⟨Nat.pow 2 52, -53⟩ := by decide +kernel

example : ofDecimal? 3 (-324) = some ⟨1, minExponent⟩ := by decide +kernel

/-- Rounding once and rounding twice can differ. -/
example : ofDecimal? 678 125 ≠ (ofDecimal? 678 0).bind (·.shifted? 125) := by decide +kernel

end Double

end EnumHeader.Document
