import Mathlib.Algebra.Order.Ring.Rat
import Mathlib.Data.Rat.Floor

/-! Rounding to doubles: the value of the double that is nearest to a rational, the even one of
two, and the decimal that stands for a double. Magnitudes are in the range of doubles; nothing here
depends on what is computed.
-/

namespace JavaScript

/-- The nearest whole number, the even one of two. -/
def roundEven (x : ℚ) : ℤ :=
  let below := ⌊x⌋
  if x - below < 1 / 2 then below
  else if 1 / 2 < x - below then below + 1
  else below + below % 2

/-- The greatest exponent of which the power is no greater than a magnitude other than zero, where
it is one of the two that `estimate` leaves.
-/
def exponentNear (base : ℚ) (estimate : Int) (x : ℚ) : Int :=
  if base ^ estimate ≤ |x| then estimate else estimate - 1

/-- The value of the double that is nearest to `x`, which has 53 binary digits, or fewer where it
is subnormal.
-/
def double (x : ℚ) : ℚ :=
  if x = 0 then 0
  else
    let binade := exponentNear 2 (x.num.natAbs.log2 - x.den.log2) x
    let ulp : ℚ := 2 ^ (max binade (-1022) - 52)
    roundEven (x / ulp) * ulp

/-- A value rounded to so many significant decimals. -/
def significant (digits : Nat) (x : ℚ) : ℚ :=
  if x = 0 then 0
  else
    let estimate : Int := (toString x.num.natAbs).length - (toString x.den).length
    let unit : ℚ := 10 ^ (exponentNear 10 estimate x - (digits - 1))
    roundEven (x / unit) * unit

/-- The decimal that `String` gives for a double: the first one of fifteen to seventeen digits that
is read as this double. Seventeen are enough.
-/
def shortest (value : ℚ) : ℚ :=
  if double (significant 15 value) = value then significant 15 value
  else if double (significant 16 value) = value then significant 16 value
  else significant 17 value

/-- `a - b` for doubles that are written as decimals, and so is the result. -/
def subtract (a b : ℚ) : ℚ := shortest (double (double a - double b))

example
    : double 0.1 = 3602879701896397 / 2 ^ 55
      ∧ double (double 0.1 + double 0.2) ≠ double 0.3
      ∧ shortest (double 100000000.1) = 100000000.1
      ∧ subtract 0.7 1 = -0.30000000000000004 := by
  decide +kernel

end JavaScript
