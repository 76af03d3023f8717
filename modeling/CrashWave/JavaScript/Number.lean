import Mathlib.Algebra.Order.Ring.Rat
import Mathlib.Data.Rat.Floor
import Mathlib.Tactic.Ring

/-! JavaScript numbers as the programs here use them: exact finite values, the two
infinities and NaN, under the ordering in which NaN is related to nothing. Rounding and
the sign of zero are not represented.
-/

namespace JavaScript

/-- A JavaScript number. -/
inductive Number where
  | finite (value : ℚ)
  | infinity (negative : Bool)
  | nan
  deriving DecidableEq

namespace Number

instance (n : Nat) : OfNat Number n := ⟨.finite n⟩

instance : Inhabited Number := ⟨.nan⟩

/-- `a < b`. -/
def lt : Number → Number → Bool
  | .finite a, .finite b => decide (a < b)
  | .finite _, .infinity negative => !negative
  | .infinity negative, .finite _ => negative
  | .infinity a, .infinity b => a && !b
  | .nan, _ => false
  | _, .nan => false

/-- `a <= b`; it is false next to NaN, so it is not the negation of `b < a`. -/
def le : Number → Number → Bool
  | .finite a, .finite b => decide (a ≤ b)
  | .finite _, .infinity negative => !negative
  | .infinity negative, .finite _ => negative
  | .infinity a, .infinity b => a || !b
  | .nan, _ => false
  | _, .nan => false

instance : LT Number := ⟨fun a b => a.lt b = true⟩

instance : LE Number := ⟨fun a b => a.le b = true⟩

instance (a b : Number) : Decidable (a < b) := inferInstanceAs (Decidable (a.lt b = true))

instance (a b : Number) : Decidable (a ≤ b) := inferInstanceAs (Decidable (a.le b = true))

/-- `a + b`. -/
def add : Number → Number → Number
  | .finite a, .finite b => .finite (a + b)
  | .finite _, .infinity negative => .infinity negative
  | .infinity negative, .finite _ => .infinity negative
  | .infinity a, .infinity b => if a = b then .infinity a else .nan
  | .nan, _ => .nan
  | _, .nan => .nan

/-- `-a`. -/
def neg : Number → Number
  | .finite a => .finite (-a)
  | .infinity negative => .infinity (!negative)
  | .nan => .nan

instance : Add Number := ⟨add⟩

instance : Sub Number := ⟨fun a b => a.add b.neg⟩

/-- `a * b`. -/
def mul : Number → Number → Number
  | .finite a, .finite b => .finite (a * b)
  | .finite a, .infinity negative | .infinity negative, .finite a =>
      if a = 0 then .nan else .infinity (negative ^^ decide (a < 0))
  | .infinity a, .infinity b => .infinity (a ^^ b)
  | .nan, _ => .nan
  | _, .nan => .nan

instance : Mul Number := ⟨mul⟩

/-- `a / b`, where a zero divisor counts as positive. -/
def div : Number → Number → Number
  | .finite a, .finite b =>
      if b ≠ 0 then .finite (a / b) else if a = 0 then .nan else .infinity (decide (a < 0))
  | .finite _, .infinity _ => .finite 0
  | .infinity negative, .finite b => .infinity (negative ^^ decide (b < 0))
  | .infinity _, .infinity _ => .nan
  | .nan, _ => .nan
  | _, .nan => .nan

instance : Div Number := ⟨div⟩

/-- `a / divisor` for a positive integer divisor. -/
def divide (a : Number) (divisor : Nat) : Number :=
  match a with
  | .finite value => .finite (value / divisor)
  | other => other

/-- `Number.isFinite`. -/
def isFinite : Number → Bool
  | .finite _ => true
  | _ => false

/-- The value of a finite number. -/
def finiteValue : Number → Option ℚ
  | .finite value => some value
  | _ => none

/-- `Math.min(a, b)`. -/
def min (a b : Number) : Number :=
  match a, b with
  | .nan, _ | _, .nan => .nan
  | a, b => if a ≤ b then a else b

/-- `Math.max(a, b)`. -/
def max (a b : Number) : Number :=
  match a, b with
  | .nan, _ | _, .nan => .nan
  | a, b => if a ≤ b then b else a

/-- `Math.ceil`. -/
def ceil : Number → Number
  | .finite a => .finite ⌈a⌉
  | other => other

/-- `Math.round`; halves are rounded up. -/
def round : Number → Number
  | .finite a => .finite ⌊a + 1 / 2⌋
  | other => other

/-- `Math.abs`. -/
def abs : Number → Number
  | .finite a => .finite |a|
  | .infinity _ => .infinity false
  | .nan => .nan

/-- `Math.round(a * 100) / 100`; halves are rounded up. -/
def roundToCents : Number → Number
  | .finite a => .finite (⌊a * 100 + 1 / 2⌋ / 100)
  | other => other

/-- Whole cents are kept. -/
theorem roundToCents_roundToCents (a : Number) : a.roundToCents.roundToCents = a.roundToCents := by
  cases a with
  | finite value =>
      have whole : ⌊(⌊value * 100 + 1 / 2⌋ : ℚ) / 100 * 100 + 1 / 2⌋ = ⌊value * 100 + 1 / 2⌋ := by
        rw [div_mul_cancel₀ _ (by norm_num : (100 : ℚ) ≠ 0), Int.floor_intCast_add]
        norm_num
      exact congrArg (fun cents : ℤ => Number.finite (cents / 100)) whole
  | infinity negative => rfl
  | nan => rfl

theorem add_zero (a : Number) : a + 0 = a := by
  cases a with
  | finite value => exact congrArg Number.finite (by simp : value + ((0 : Nat) : ℚ) = value)
  | infinity negative => rfl
  | nan => rfl

/-- A payout without its stake is the stake times the gain. -/
theorem mul_sub_self {stake : Number} (bounded : ∀ negative, stake ≠ .infinity negative)
    (multiplier : Number) : stake * multiplier - stake = stake * (multiplier - 1) := by
  cases stake with
  | infinity negative => exact absurd rfl (bounded negative)
  | nan => rfl
  | finite stake =>
      cases multiplier with
      | finite value =>
          have gain : stake * value + -stake = stake * (value + -((1 : Nat) : ℚ)) := by
            push_cast
            ring
          exact congrArg Number.finite gain
      | infinity negative =>
          change (Number.finite stake).mul (.infinity negative) + .finite (-stake)
            = (Number.finite stake).mul (.infinity negative)
          rw [Number.mul]
          split <;> rfl
      | nan => rfl

@[simp] theorem not_le_nan (a : Number) : ¬ a ≤ .nan := by
  cases a <;> exact Bool.false_ne_true

/-- Of two numbers at most one is below the other. -/
theorem lt_asymm {a b : Number} (below : a < b) : ¬ b < a := by
  cases a with
  | nan => cases b <;> cases below
  | infinity negative =>
      cases b with
      | nan => cases below
      | infinity other => cases negative <;> cases other <;> first
        | exact absurd below Bool.false_ne_true
        | exact Bool.false_ne_true
      | finite value => cases negative <;> first
        | exact absurd below Bool.false_ne_true
        | exact Bool.false_ne_true
  | finite value =>
      cases b with
      | nan => cases below
      | infinity negative => cases negative <;> first
        | exact absurd below Bool.false_ne_true
        | exact Bool.false_ne_true
      | finite other =>
          have ordered : value < other := of_decide_eq_true below
          exact fun above => absurd (of_decide_eq_true above) ordered.not_gt

theorem le_trans {a b c : Number} (first : a ≤ b) (second : b ≤ c) : a ≤ c := by
  cases a with
  | nan => cases b <;> cases first
  | infinity negative =>
      cases b with
      | nan => exact absurd first (not_le_nan _)
      | infinity other =>
          cases c with
          | nan => exact absurd second (not_le_nan _)
          | infinity last => cases negative <;> cases other <;> cases last <;> trivial
          | finite value => cases negative <;> cases other <;> trivial
      | finite value =>
          cases c with
          | nan => exact absurd second (not_le_nan _)
          | infinity last => cases negative <;> trivial
          | finite last => exact first
  | finite value =>
      cases b with
      | nan => exact absurd first (not_le_nan _)
      | infinity other =>
          cases c with
          | nan => exact absurd second (not_le_nan _)
          | infinity last => cases other <;> cases last <;> trivial
          | finite last => cases other <;> trivial
      | finite middle =>
          cases c with
          | nan => exact absurd second (not_le_nan _)
          | infinity last => exact second
          | finite last =>
              have below : value ≤ middle := of_decide_eq_true first
              exact decide_eq_true (below.trans (of_decide_eq_true second))

/-- What is below a bound is so with all that it is not below. -/
theorem finite_lt_of_le {lesser value : ℚ} {bound : Number} (order : lesser ≤ value)
    (below : .finite value < bound)
    : .finite lesser < bound := by
  cases bound with
  | finite bound => exact decide_eq_true (order.trans_lt (of_decide_eq_true below))
  | infinity negative => exact below
  | nan => exact below

theorem lt_finite_of_le {value greater : ℚ} {bound : Number} (order : value ≤ greater)
    (below : bound < .finite value)
    : bound < .finite greater := by
  cases bound with
  | finite bound =>
      have under : bound < value := of_decide_eq_true below
      exact decide_eq_true (under.trans_le order)
  | infinity negative => exact below
  | nan => exact below

/-- What a smaller bound is not below is within the larger one. -/
theorem finite_le_of_not_lt {lesser bound : Number} {value : ℚ} (order : lesser ≤ bound)
    (reached : ¬ lesser < .finite value)
    : .finite value ≤ bound := by
  cases lesser with
  | nan => cases bound <;> cases order
  | infinity negative =>
      cases negative with
      | true => exact absurd rfl reached
      | false =>
          cases bound with
          | infinity other => cases other <;> trivial
          | finite bound => cases order
          | nan => cases order
  | finite lesser =>
      have above : value ≤ lesser := not_lt.mp fun below => reached (decide_eq_true below)
      exact le_trans (decide_eq_true above) order

/-- A reached bound stays reached when the counter is incremented. -/
theorem le_add_one {bound counter : Number} (reached : bound ≤ counter)
    : bound ≤ counter + 1 := by
  cases bound with
  | nan => exact absurd reached (by cases counter <;> exact Bool.false_ne_true)
  | infinity negative =>
      cases counter with
      | nan => exact absurd reached (not_le_nan _)
      | infinity other => exact reached
      | finite value => exact reached
  | finite value =>
      cases counter with
      | nan => exact absurd reached (not_le_nan _)
      | infinity negative => exact reached
      | finite count =>
          have below : value ≤ count := of_decide_eq_true reached
          exact decide_eq_true (below.trans (by norm_num))

end Number

/-- `items.slice(start)`. The start is truncated to a whole number, NaN to zero, and one below zero
counts from the end.
-/
def sliceFrom {α : Type*} (items : List α) : Number → List α
  | .finite start =>
      if start < 0 then items.drop (items.length + ⌈start⌉).toNat else items.drop ⌊start⌋.toNat
  | .infinity negative => if negative then items else []
  | .nan => items

/-- What is left starts at some item. -/
theorem sliceFrom_eq_drop {α : Type*} (items : List α) (start : Number)
    : ∃ dropped, sliceFrom items start = items.drop dropped := by
  cases start with
  | finite start =>
      rw [sliceFrom]
      by_cases fromEnd : start < 0
      · exact ⟨_, if_pos fromEnd⟩
      · exact ⟨_, if_neg fromEnd⟩
  | infinity negative =>
      cases negative with
      | true => exact ⟨0, rfl⟩
      | false => exact ⟨items.length, (List.drop_length).symm⟩
  | nan => exact ⟨0, rfl⟩

/-- A string that may be null counts as true when it is there and not empty. -/
def truthy : Option String → Bool
  | none => false
  | some text => text ≠ ""

/-- A string handed to `new Date`: empty, the ISO form of an instant, or a text that does
not parse.
-/
inductive DateText where
  | empty
  | iso (epochMs : Int)
  | unparsable
  deriving DecidableEq

/-- `new Date(text).getTime()`. -/
def DateText.getTime : DateText → Number
  | .iso epochMs => .finite epochMs
  | _ => .nan

/-- `new Date(text.getTime() + offset).toISOString()` for a whole offset; nothing where it
throws, which is for an invalid date and beyond the range of dates.
-/
def DateText.shifted (text : DateText) (offset : Int) : Option DateText :=
  match text with
  | .iso epochMs =>
      if |epochMs + offset| ≤ 8640000000000000 then some (.iso (epochMs + offset)) else none
  | _ => none

end JavaScript
