import Mathlib.Algebra.BigOperators.Ring.List
import Mathlib.Algebra.Order.BigOperators.Group.List
import Mathlib.Analysis.Convex.Basic
import Mathlib.Tactic.FieldSimp
import Mathlib.Tactic.Linarith

/-! Weights that are not negative and sum to one, and what they make of numbers; shares of one
among the items of a list that count, and the average of values by their weights; sums over a list
of which one place changes. Nothing here depends on what is weighed.
-/

namespace Mixtures

section

variable {K : Type*} [Field K]

/-- The numbers, each as often as its weight says. -/
def mix (values weights : List K) : K := (List.zipWith (· * ·) values weights).sum

/-- Weights that are divided by their sum have the sum one. -/
theorem sum_div_sum {ι : Type*} {items : List ι} {weight : ι → K}
    (some : (items.map weight).sum ≠ 0)
    : (items.map fun item => weight item / (items.map weight).sum).sum = 1 := by
  simp only [div_eq_mul_inv]
  rw [List.sum_map_mul_right]
  exact mul_inv_cancel₀ some

variable [LinearOrder K] [IsStrictOrderedRing K]

/-- The weights are not negative and sum to one. -/
structure IsMixture (weights : List K) : Prop where
  nonneg : ∀ weight ∈ weights, 0 ≤ weight
  total : weights.sum = 1

/-- Two numbers, blended in a proportion between nothing and all, stay in an interval. -/
theorem blend_mem_Icc {share first second low high : K} (proportion : share ∈ Set.Icc 0 1)
    (inside : first ∈ Set.Icc low high) (inside' : second ∈ Set.Icc low high)
    : share * first + (1 - share) * second ∈ Set.Icc low high :=
  convex_Icc low high inside inside' proportion.1 (sub_nonneg.mpr proportion.2)
    (add_sub_cancel share 1)

/-- Numbers between two bounds, as often as weights say that are not negative, lie between the
bounds as often as the weights say together: by induction on the weights.
-/
theorem mix_bounds {values weights : List K} {low high : K}
    (nonneg : ∀ weight ∈ weights, 0 ≤ weight) (same : values.length = weights.length)
    (inside : ∀ value ∈ values, value ∈ Set.Icc low high)
    : low * weights.sum ≤ mix values weights ∧ mix values weights ≤ high * weights.sum := by
  induction weights generalizing values with
  | nil => simp [mix]
  | cons weight rest ih =>
      cases values with
      | nil => cases same
      | cons value others =>
          obtain ⟨first, later⟩ := List.forall_mem_cons.mp nonneg
          obtain ⟨⟨above, below⟩, among⟩ := List.forall_mem_cons.mp inside
          obtain ⟨least, greatest⟩ := ih later (Nat.succ.inj same) among
          have fromLow := mul_le_mul_of_nonneg_right above first
          have toHigh := mul_le_mul_of_nonneg_right below first
          simp only [mix, List.zipWith_cons_cons, List.sum_cons, mul_add] at least greatest ⊢
          exact ⟨add_le_add fromLow least, add_le_add toHigh greatest⟩

/-- A mixture of numbers between two bounds lies between them. -/
theorem IsMixture.mix_mem_Icc {values weights : List K} {low high : K}
    (mixture : IsMixture weights) (same : values.length = weights.length)
    (inside : ∀ value ∈ values, value ∈ Set.Icc low high)
    : mix values weights ∈ Set.Icc low high := by
  have bounds := mix_bounds mixture.nonneg same inside
  rwa [mixture.total, mul_one, mul_one] at bounds

/-- Weights over a positive sum are a mixture if none of them is negative, and only then. -/
theorem isMixture_div_sum_iff {weights : List K} (positive : 0 < weights.sum)
    : IsMixture (weights.map (· / weights.sum)) ↔ ∀ weight ∈ weights, 0 ≤ weight := by
  constructor
  · intro mixture weight among
    have share := mixture.nonneg _ (List.mem_map_of_mem among)
    exact not_lt.mp fun negative => (div_neg_of_neg_of_pos negative positive).not_ge share
  · intro nonneg
    refine ⟨fun share among => ?_, ?_⟩
    · obtain ⟨weight, member, rfl⟩ := List.mem_map.mp among
      exact div_nonneg (nonneg weight member) positive.le
    · have total : (weights.map fun weight => id weight / (weights.map id).sum).sum = 1 :=
        sum_div_sum (by simpa using positive.ne')
      simpa using total

end

-----------------------------------------------------------------------------------------
-- Shares
-----------------------------------------------------------------------------------------

section

variable {K ι : Type*} [Field K] [LinearOrder K] [IsStrictOrderedRing K]
  {items : List ι} {weight value : ι → K} {counts : ι → Prop}

/-- Exactly the items that count have a positive weight, and these sum to one if there are any. -/
structure Apportions (items : List ι) (counts : ι → Prop) (weight : ι → K) : Prop where
  nonneg : ∀ item ∈ items, 0 ≤ weight item
  positive : ∀ item ∈ items, 0 < weight item ↔ counts item
  total : (∃ item ∈ items, counts item) → (items.map weight).sum = 1

theorem sum_weight_nonneg (nonneg : ∀ item ∈ items, 0 ≤ weight item)
    : 0 ≤ (items.map weight).sum := by
  apply List.sum_nonneg
  intro share among
  obtain ⟨item, member, rfl⟩ := List.mem_map.mp among
  exact nonneg item member

/-- Weights that are not negative sum to something exactly if one of them is positive. -/
theorem sum_weight_pos_iff (nonneg : ∀ item ∈ items, 0 ≤ weight item)
    : 0 < (items.map weight).sum ↔ ∃ item ∈ items, 0 < weight item := by
  constructor
  · intro positive
    by_contra! none
    have least : (items.map weight).sum ≤ (items.map fun _ => (0 : K)).sum :=
      List.sum_le_sum none
    simp only [List.map_const', List.sum_replicate, nsmul_zero] at least
    exact absurd positive least.not_gt
  · intro ⟨item, member, positive⟩
    have more := List.sum_lt_sum (fun _ => (0 : K)) weight nonneg ⟨item, member, positive⟩
    simpa only [List.map_const', List.sum_replicate, nsmul_zero] using more

/-- Weights over their sum. -/
theorem apportions_div (nonneg : ∀ item ∈ items, 0 ≤ weight item)
    (positive : ∀ item ∈ items, 0 < weight item ↔ counts item)
    (some : 0 < (items.map weight).sum)
    : Apportions items counts fun item => weight item / (items.map weight).sum where
  nonneg item member := div_nonneg (nonneg item member) some.le
  positive item member := (div_pos_iff_of_pos_right some).trans (positive item member)
  total _ := sum_div_sum some.ne'

/-- What is left when some items lose their weight is still all exactly if none of these counts. -/
theorem Apportions.sum_kept_iff (apportions : Apportions items counts weight)
    (some : ∃ item ∈ items, counts item) (lost : ι → Bool)
    : (items.map fun item => if lost item then 0 else weight item).sum = 1
      ↔ ∀ item ∈ items, counts item → lost item = false := by
  have whole := apportions.total some
  constructor
  · intro total item member counted
    by_contra gone
    have less : (items.map fun item => if lost item then 0 else weight item).sum
        < (items.map weight).sum := by
      refine List.sum_lt_sum _ weight ?_ ⟨item, member, ?_⟩
      · intro other among
        split
        · exact apportions.nonneg other among
        · exact le_rfl
      · rw [if_pos (Bool.not_eq_false _ ▸ gone)]
        exact (apportions.positive item member).mpr counted
    exact less.ne (total.trans whole.symm)
  · intro kept
    rw [← whole]
    congr 1
    refine List.map_congr_left fun item member => ?_
    split
    · next gone =>
        have uncounted : ¬ counts item := fun counted => by simp [kept item member counted] at gone
        have zero := mt (apportions.positive item member).mp uncounted
        exact le_antisymm (apportions.nonneg item member) (not_lt.mp zero)
    · rfl

/-- One of the weighed values is not above the average. -/
theorem exists_le_average (nonneg : ∀ item ∈ items, 0 ≤ weight item)
    (some : 0 < (items.map weight).sum) (value : ι → K)
    : ∃ item ∈ items, 0 < weight item
      ∧ value item
        ≤ (items.map fun item => value item * weight item).sum / (items.map weight).sum := by
  by_contra! above
  generalize averageEq :
    (items.map fun item => value item * weight item).sum / (items.map weight).sum = average
    at above
  have whole : (items.map fun item => average * weight item).sum
      = (items.map fun item => value item * weight item).sum := by
    rw [List.sum_map_mul_left, ← averageEq, div_mul_cancel₀ _ some.ne']
  obtain ⟨item, member, positive⟩ := (sum_weight_pos_iff nonneg).mp some
  have more : (items.map fun item => average * weight item).sum
      < (items.map fun item => value item * weight item).sum := by
    refine List.sum_lt_sum _ _ ?_ ⟨item, member, ?_⟩
    · intro other among
      rcases (nonneg other among).eq_or_lt with none | positive'
      · simp [← none]
      · exact mul_le_mul_of_nonneg_right (above other among positive').le positive'.le
    · exact mul_lt_mul_of_pos_right (above item member positive) positive
  exact more.ne whole

/-- The average lies between two of the weighed values. -/
theorem exists_le_average_le (nonneg : ∀ item ∈ items, 0 ≤ weight item)
    (some : 0 < (items.map weight).sum) (value : ι → K)
    : ∃ low ∈ items, ∃ high ∈ items, 0 < weight low ∧ 0 < weight high
      ∧ (items.map fun item => value item * weight item).sum / (items.map weight).sum
        ∈ Set.Icc (value low) (value high) := by
  obtain ⟨low, among, positive, above⟩ := exists_le_average nonneg some value
  obtain ⟨high, among', positive', below⟩ := exists_le_average nonneg some fun item => -value item
  refine ⟨low, among, high, among', positive, positive', above, ?_⟩
  have negated : (items.map fun item => -value item * weight item).sum
      = -(items.map fun item => value item * weight item).sum := by
    have turned : (items.map fun item => -value item * weight item)
        = items.map fun item => -1 * (value item * weight item) :=
      List.map_congr_left fun _ _ => by ring
    rw [turned, List.sum_map_mul_left, neg_one_mul]
  rw [negated, neg_div] at below
  exact neg_le_neg_iff.mp below

end

section Modify

/-- A count that goes up in one place goes up in the sum, by induction on the places. -/
theorem sum_count_modify {α : Type*} {items : List α} (count : α → Nat) {change : α → α}
    (one : ∀ item, count (change item) = count item + 1) {index : Nat}
    (inside : index < items.length)
    : ((items.modify index change).map count).sum = (items.map count).sum + 1 := by
  induction items generalizing index with
  | nil => cases inside
  | cons item rest ih =>
      cases index with
      | zero =>
          simp only [List.modify_zero_cons, List.map_cons, List.sum_cons, one]
          omega
      | succ index =>
          simp only [List.modify_succ_cons, List.map_cons, List.sum_cons]
          rw [ih (Nat.lt_of_succ_lt_succ inside)]
          omega

/-- A sum grows by no more than a change of one place adds, by induction on the places. -/
theorem sum_map_modify_le {α K : Type*} [AddCommGroup K] [PartialOrder K] [IsOrderedAddMonoid K]
    {value : α → K} {change : α → α} {extra : K} (nonneg : 0 ≤ extra)
    (adds : ∀ item, value (change item) ≤ value item + extra) (items : List α) (index : Nat)
    : ((items.modify index change).map value).sum ≤ (items.map value).sum + extra := by
  induction items generalizing index with
  | nil => simpa using nonneg
  | cons item rest ih =>
      cases index with
      | zero =>
          rw [List.modify_zero_cons, List.map_cons, List.sum_cons, List.map_cons, List.sum_cons,
            add_right_comm]
          exact add_le_add_left (adds item) _
      | succ index =>
          rw [List.modify_succ_cons, List.map_cons, List.sum_cons, List.map_cons, List.sum_cons,
            add_assoc]
          exact add_le_add_right (ih index) _

end Modify

end Mixtures
