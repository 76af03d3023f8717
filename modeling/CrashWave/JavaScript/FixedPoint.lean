import Mathlib.Algebra.Order.Round
import Mathlib.Data.Rat.Floor
import Mathlib.Tactic.FieldSimp
import Mathlib.Tactic.Linarith

/-! Amounts of a fixed number of decimals, and rounding to them with halves going up. Nothing
here depends on what the amounts are.
-/

namespace JavaScript

/-- `amount.toFixed(digits)` for an amount that is not below zero: the nearest amount of so many
decimals, the larger one of two.
-/
def toFixed {K : Type*} [Field K] [LinearOrder K] [FloorRing K] (digits : Nat) (amount : K) : K :=
  round (amount * 10 ^ digits) / 10 ^ digits

/-- The same for an amount of either sign: halves go away from zero. -/
def toFixedSigned {K : Type*} [Field K] [LinearOrder K] [FloorRing K] (digits : Nat) (amount : K)
    : K :=
  if amount < 0 then - toFixed digits (- amount) else toFixed digits amount

/-- The amount has no more decimals than these. -/
def OnScale (digits : Nat) (amount : ℚ) : Prop :=
  ∃ units : ℤ, amount = units / 10 ^ digits

/-- The amount lies in the middle between two amounts of so many decimals. -/
def Halfway (digits : Nat) (amount : ℚ) : Prop := Int.fract (amount * 10 ^ digits) = 1 / 2

instance (digits : Nat) (amount : ℚ) : Decidable (Halfway digits amount) :=
  inferInstanceAs (Decidable (_ = _))

variable {digits : Nat} {amount whole : ℚ}

theorem toFixed_onScale : OnScale digits (toFixed digits amount) := ⟨_, rfl⟩

theorem OnScale.units (onScale : OnScale digits whole)
    : ∃ units : ℤ, whole * 10 ^ digits = units := by
  obtain ⟨units, rfl⟩ := onScale
  exact ⟨units, by field_simp⟩

theorem OnScale.sub (one : OnScale digits amount) (other : OnScale digits whole)
    : OnScale digits (amount - whole) := by
  obtain ⟨units, rfl⟩ := one
  obtain ⟨others, rfl⟩ := other
  exact ⟨units - others, by push_cast; ring⟩

/-- Rounding leaves exactly the amounts that are on the scale. -/
theorem toFixed_eq_self_iff : toFixed digits amount = amount ↔ OnScale digits amount := by
  constructor
  · exact fun same => same ▸ toFixed_onScale
  · intro onScale
    obtain ⟨units, scaled⟩ := onScale.units
    rw [toFixed, scaled, round_intCast, ← scaled]
    field_simp

theorem OnScale.neg (onScale : OnScale digits amount) : OnScale digits (-amount) := by
  obtain ⟨units, rfl⟩ := onScale
  exact ⟨-units, by push_cast; ring⟩

theorem toFixed_zero (digits : Nat) : toFixed digits (0 : ℚ) = 0 := by simp [toFixed]

theorem toFixedSigned_onScale : OnScale digits (toFixedSigned digits amount) := by
  rw [toFixedSigned]
  split
  · exact toFixed_onScale.neg
  · exact toFixed_onScale

theorem toFixedSigned_eq_self (onScale : OnScale digits amount)
    : toFixedSigned digits amount = amount := by
  rw [toFixedSigned]
  split
  · rw [toFixed_eq_self_iff.mpr onScale.neg, neg_neg]
  · exact toFixed_eq_self_iff.mpr onScale

/-- The sign is kept apart from the rounding. -/
theorem toFixedSigned_neg : toFixedSigned digits (-amount) = - toFixedSigned digits amount := by
  rcases lt_trichotomy amount 0 with below | rfl | above
  · rw [toFixedSigned, if_neg (neg_pos.mpr below).le.not_gt, toFixedSigned, if_pos below, neg_neg]
  · rw [neg_zero, toFixedSigned, if_neg (lt_irrefl 0), toFixed_zero, neg_zero]
  · rw [toFixedSigned, if_pos (neg_neg_iff_pos.mpr above), toFixedSigned, if_neg above.le.not_gt,
      neg_neg]

theorem toFixedSigned_abs : toFixedSigned digits |amount| = |toFixedSigned digits amount| := by
  have nonneg {value : ℚ} (least : 0 ≤ value) : 0 ≤ toFixedSigned digits value := by
    rw [toFixedSigned, if_neg least.not_gt, toFixed, round_eq]
    exact div_nonneg (Int.cast_nonneg (Int.floor_nonneg.mpr (by positivity))) (by positivity)
  rcases le_total 0 amount with above | below
  · rw [abs_of_nonneg above, abs_of_nonneg (nonneg above)]
  · have least := nonneg (neg_nonneg.mpr below)
    rw [toFixedSigned_neg] at least
    rw [abs_of_nonpos below, toFixedSigned_neg, abs_of_nonpos (neg_nonneg.mp least)]

/-- An amount on the scale can be taken off before or after rounding. -/
theorem toFixed_sub (onScale : OnScale digits whole)
    : toFixed digits (amount - whole) = toFixed digits amount - whole := by
  obtain ⟨units, scaled⟩ := onScale.units
  rw [toFixed, sub_mul, scaled, round_sub_intCast, toFixed]
  push_cast
  rw [← scaled]
  field_simp

/-- Away from the middle, the complement of an amount rounds to the complement. -/
theorem round_intCast_sub {amount : ℚ} (units : ℤ) (clear : Int.fract amount ≠ 1 / 2)
    : round (units - amount) = units - round amount := by
  have lower := Int.fract_nonneg amount
  have upper := Int.fract_lt_one amount
  have parts : amount = ⌊amount⌋ + Int.fract amount := (Int.floor_add_fract amount).symm
  have rounded : round amount = if Int.fract amount < 1 / 2 then ⌊amount⌋ else ⌊amount⌋ + 1 := by
    rw [round_eq_iff]
    constructor <;> split <;> push_cast <;> grind
  rw [round_eq_iff, rounded]
  constructor <;> split <;> push_cast <;> grind

/-- In the middle, both an amount and its complement round up. -/
theorem round_intCast_sub_of_half {amount : ℚ} (units : ℤ) (half : Int.fract amount = 1 / 2)
    : round (units - amount) = units - round amount + 1 := by
  have parts : amount = ⌊amount⌋ + 1 / 2 := by
    rw [← half]
    exact (Int.floor_add_fract amount).symm
  have rounded : round amount = ⌊amount⌋ + 1 := by
    rw [round_eq_iff]
    constructor <;> push_cast <;> linarith
  rw [round_eq_iff, rounded]
  constructor <;> push_cast <;> linarith

/-- A whole splits into two rounded parts, unless they lie in the middle. -/
theorem toFixed_complement (onScale : OnScale digits whole)
    (clear : ¬ Halfway digits amount)
    : toFixed digits (whole - amount) = whole - toFixed digits amount := by
  obtain ⟨units, scaled⟩ := onScale.units
  rw [toFixed, sub_mul, scaled, round_intCast_sub units clear, toFixed]
  push_cast
  rw [← scaled]
  field_simp

/-- In the middle, the two rounded parts are one unit more than the whole. -/
theorem toFixed_complement_of_halfway (onScale : OnScale digits whole)
    (half : Halfway digits amount)
    : toFixed digits (whole - amount) = whole - toFixed digits amount + 1 / 10 ^ digits := by
  obtain ⟨units, scaled⟩ := onScale.units
  rw [toFixed, sub_mul, scaled, round_intCast_sub_of_half units half, toFixed]
  push_cast
  rw [← scaled]
  field_simp

/-- An amount on the scale is never in the middle. -/
theorem OnScale.not_halfway (onScale : OnScale digits amount) : ¬ Halfway digits amount := by
  obtain ⟨units, scaled⟩ := onScale.units
  rw [Halfway, scaled, Int.fract_intCast]
  norm_num

end JavaScript
