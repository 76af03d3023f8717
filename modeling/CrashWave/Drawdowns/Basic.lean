import Mathlib.Algebra.BigOperators.Group.List.Basic
import Mathlib.Algebra.BigOperators.Ring.List
import Mathlib.Algebra.Order.Group.Defs
import Mathlib.Algebra.Order.Sub.Basic
import Mathlib.Order.Bounds.Basic
import Mathlib.Tactic.FieldSimp
import Mathlib.Tactic.Ring

/-! The mean of a list of numbers and their squared deviations from it, with what one number more
does to both; the peak of a curve so far and its largest fall from a point to a later one. Nothing
here depends on what the numbers and the curve measure.
-/

namespace Statistics

variable {K : Type*} [Field K] [CharZero K]

def mean (xs : List K) : K := xs.sum / xs.length

/-- The sum of the squared deviations from the mean. -/
def squaredDeviations (xs : List K) : K := (xs.map fun x => (x - mean xs) ^ 2).sum

omit [CharZero K] in
/-- Squared deviations from any number, expanded. -/
theorem sum_squared_sub (xs : List K) (center : K)
    : (xs.map fun x => (x - center) ^ 2).sum
      = (xs.map (· ^ 2)).sum - 2 * center * xs.sum + xs.length * center ^ 2 := by
  induction xs with
  | nil => simp
  | cons x rest ih =>
      simp only [List.map_cons, List.sum_cons, ih, List.length_cons]
      push_cast
      ring

theorem length_mul_mean (xs : List K) : xs.length * mean xs = xs.sum := by
  rcases xs with - | ⟨x, rest⟩
  · simp
  · have some : ((x :: rest).length : K) ≠ 0 := Nat.cast_ne_zero.mpr (Nat.succ_ne_zero _)
    rw [mean, mul_div_cancel₀ _ some]

theorem squaredDeviations_eq (xs : List K)
    : squaredDeviations xs = (xs.map (· ^ 2)).sum - xs.length * mean xs ^ 2 := by
  rw [squaredDeviations, sum_squared_sub, ← length_mul_mean xs]
  ring

/-- The mean moves towards a new number by its share of the numbers. -/
theorem mean_concat (xs : List K) (x : K)
    : mean (xs ++ [x]) = mean xs + (x - mean xs) / (xs.length + 1 : Nat) := by
  have some : ((xs.length + 1 : Nat) : K) ≠ 0 := Nat.cast_ne_zero.mpr (Nat.succ_ne_zero _)
  have total := length_mul_mean xs
  rw [mean, List.sum_append, List.sum_singleton, List.length_append, List.length_singleton,
    ← total]
  field_simp
  push_cast
  ring

/-- The squared deviations grow by the product of those from the mean before and after. -/
theorem squaredDeviations_concat (xs : List K) (x : K)
    : squaredDeviations (xs ++ [x])
      = squaredDeviations xs + (x - mean xs) * (x - mean (xs ++ [x])) := by
  have some : ((xs.length + 1 : Nat) : K) ≠ 0 := Nat.cast_ne_zero.mpr (Nat.succ_ne_zero _)
  rw [squaredDeviations_eq, squaredDeviations_eq, mean_concat, List.map_append, List.sum_append,
    List.map_singleton, List.sum_singleton, List.length_append, List.length_singleton]
  field_simp
  push_cast
  ring

end Statistics

-----------------------------------------------------------------------------------------
-- Falls of a curve
-----------------------------------------------------------------------------------------

namespace Drawdowns

variable {K : Type*} [AddCommGroup K] [LinearOrder K]

/-- No point of the curve is above this one of its values. -/
def IsPeak (curve : List K) (peak : K) : Prop := IsGreatest {value | value ∈ curve} peak

/-- The curve falls so far from one of its points to a later one or the same, and never further. -/
structure LargestFall (curve : List K) (fall : K) : Prop where
  attained : ∃ (i j : Nat) (high low : K), i ≤ j ∧ curve[i]? = some high ∧ curve[j]? = some low
    ∧ high - low = fall
  bound : ∀ (i j : Nat) (high low : K), i ≤ j → curve[i]? = some high → curve[j]? = some low
    → high - low ≤ fall

variable {curve : List K} {peak fall : K}

omit [AddCommGroup K] in
theorem isPeak_singleton (value : K) : IsPeak [value] value :=
  ⟨List.mem_singleton_self _, fun _ among => (List.mem_singleton.mp among).le⟩

omit [AddCommGroup K] in
theorem IsPeak.concat (isPeak : IsPeak curve peak) (value : K)
    : IsPeak (curve ++ [value]) (max peak value) := by
  constructor
  · rcases max_choice peak value with old | new
    · rw [old]
      exact List.mem_append_left _ isPeak.1
    · rw [new]
      exact List.mem_append_right _ (List.mem_singleton_self _)
  · intro other among
    rcases List.mem_append.mp among with earlier | now
    · exact le_max_of_le_left (isPeak.2 earlier)
    · exact le_max_of_le_right (List.mem_singleton.mp now).le

theorem largestFall_singleton (value : K) : LargestFall [value] 0 where
  attained := ⟨0, 0, value, value, le_rfl, rfl, rfl, sub_self value⟩
  bound := by
    intro i j high low _ atHigh atLow
    have first := List.mem_singleton.mp (List.mem_of_getElem? atHigh)
    have last := List.mem_singleton.mp (List.mem_of_getElem? atLow)
    rw [first, last, sub_self]

/-- The curve does not fall further by staying where it is. -/
theorem LargestFall.sub_le (largest : LargestFall curve fall) (isPeak : IsPeak curve peak)
    {value : K} (stays : curve.getLast? = some value)
    : peak - value ≤ fall := by
  obtain ⟨i, inside, found⟩ := List.getElem_of_mem isPeak.1
  rw [List.getLast?_eq_getElem?] at stays
  refine largest.bound i (curve.length - 1) peak value ?_ ?_ stays
  · omega
  · exact List.getElem?_eq_some_iff.mpr ⟨inside, found⟩

variable [IsOrderedAddMonoid K]

/-- With one point more, the largest fall is the one before, or the one from the peak to there. -/
theorem LargestFall.concat (largest : LargestFall curve fall) (isPeak : IsPeak curve peak)
    (value : K)
    : LargestFall (curve ++ [value]) (max fall (max peak value - value)) where
  attained := by
    have last : (curve ++ [value])[curve.length]? = some value := List.getElem?_concat_length
    rcases max_choice fall (max peak value - value) with old | new
    · obtain ⟨i, j, high, low, order, atHigh, atLow, far⟩ := largest.attained
      have inside := (List.getElem?_eq_some_iff.mp atLow).1
      refine ⟨i, j, high, low, order, ?_, ?_, far.trans old.symm⟩
      · rwa [List.getElem?_append_left (order.trans_lt inside)]
      · rwa [List.getElem?_append_left inside]
    · obtain ⟨i, inside, found⟩ := List.getElem_of_mem (isPeak.concat value).1
      have order : i ≤ curve.length := by
        rw [List.length_append, List.length_singleton] at inside
        exact Nat.lt_succ_iff.mp inside
      refine ⟨i, curve.length, max peak value, value, order, ?_, last, new.symm⟩
      exact List.getElem?_eq_some_iff.mpr ⟨inside, found⟩
  bound := by
    intro i j high low order atHigh atLow
    have most := (isPeak.concat value).2 (List.mem_of_getElem? atHigh)
    have inside := (List.getElem?_eq_some_iff.mp atLow).1
    rw [List.length_append, List.length_singleton] at inside
    rcases Nat.lt_succ_iff_lt_or_eq.mp inside with earlier | now
    · rw [List.getElem?_append_left (order.trans_lt earlier)] at atHigh
      rw [List.getElem?_append_left earlier] at atLow
      exact le_max_of_le_left (largest.bound i j high low order atHigh atLow)
    · subst now
      rw [List.getElem?_concat_length] at atLow
      obtain rfl := Option.some_inj.mp atLow
      exact le_max_of_le_right (sub_le_sub_right most value)

end Drawdowns
