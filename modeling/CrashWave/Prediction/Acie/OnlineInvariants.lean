import Mathlib.Algebra.Order.BigOperators.Group.List
import Mathlib.Analysis.SpecialFunctions.Exp
import CrashWave.Mixtures.Basic
import CrashWave.Prediction.Acie.OnlineState
import CrashWave.Runs.Basic

/-! What the online state keeps over every sequence of updates. -/

namespace CrashWave.Acie

open JavaScript Mixtures Runs

namespace OnlineAdaptiveState

variable {K σ : Type} [Field K] [LinearOrder K] [IsStrictOrderedRing K] [FloorRing K]

/-- The weights of the models: all of them positive, of no other names, and with the sum one. -/
structure Weighs (weights : Map String K) : Prop where
  positive : ∀ name ∈ modelNames, ∃ weight, weights.get name = some weight ∧ 0 < weight
  named : ∀ name, weights.get name ≠ none → name ∈ modelNames
  total : (modelNames.map fun name => (weights.get name).getD 0).sum = 1

/-- The law of an online state whose windows have held no more than these numbers. -/
structure OnlineLaw (short long : Nat) (state : OnlineAdaptiveState K σ) : Prop where
  weights : Weighs state.ensembleWeights
  hitRate : state.ewmaHitRate ∈ Set.Icc 0 1
  brier : state.ewmaBrier ∈ Set.Icc 0 1
  residual : state.ewmaResidual ∈ Set.Icc (-1) 1
  counts : (state.calibrationBuckets.map (·.count)).sum = state.observationCount
  recent : state.recentSquaredErrors.length ≤ short
  long : state.longSquaredErrors.length ≤ long
  streaks : state.consecutiveAbove = 0 ∨ state.consecutiveBelow = 0

/-- Every step keeps it, as long as there are ten buckets. -/
structure Sound (short long : Nat) (state : OnlineAdaptiveState K σ) : Prop where
  law : OnlineLaw short long state
  buckets : state.calibrationBuckets.length = 10

/-- An update that smooths in a proportion, with windows of these sizes at most. -/
structure Smooths (short long : Nat) (params : OnlineUpdate K σ) : Prop where
  alpha : params.alpha ∈ Set.Icc 0 1
  shortWindow : params.shortWindow ≤ .finite short
  longWindow : params.longWindow ≤ .finite long

-----------------------------------------------------------------------------------------
-- The weights
-----------------------------------------------------------------------------------------

omit [IsStrictOrderedRing K] [FloorRing K] in
/-- Positive weights that are written for all models, divided by their sum. -/
theorem weighs_written {weights : Map String K}
    (named : ∀ name, weights.get name ≠ none → name ∈ modelNames) {value : String → K}
    (positive : ∀ name ∈ modelNames, 0 < value name)
    (total : (modelNames.map value).sum = 1)
    : Weighs (modelNames.foldl (fun written name => written.set name (value name)) weights) where
  positive name known := ⟨value name, by rw [Map.get_foldl_set, if_pos known], positive name known⟩
  named name found := by
    rw [Map.get_foldl_set] at found
    by_cases known : name ∈ modelNames
    · exact known
    · rw [if_neg known] at found
      exact named name found
  total := by
    rw [← total]
    refine congrArg List.sum (List.map_congr_left fun name known => ?_)
    rw [Map.get_foldl_set, if_pos known]
    rfl

omit [FloorRing K] in
theorem weighs_initial : Weighs (weighted fun _ => (equalWeight : K)) := by
  refine weighs_written (fun name found => absurd (Map.get_empty name) found) ?_ ?_
  · intro name _
    simp [equalWeight, modelNames]
  · simp only [equalWeight, modelNames, List.map_cons, List.map_nil, List.sum_cons, List.sum_nil,
      List.length_cons, List.length_nil]
    norm_num

/-- The weights after an outcome, if the exponential is not negative. -/
theorem weighs_reweighted {exp : K → K} (nonneg : ∀ x, 0 ≤ exp x)
    {state : OnlineAdaptiveState K σ} (weighs : Weighs state.ensembleWeights)
    (modelProbabilities : Map String K) (p actual : K)
    : Weighs (state.reweighted exp modelProbabilities p actual) := by
  let raw (name : String) : K :=
    let residual := (modelProbabilities.get name).getD p - actual
    let score := exp (-3 * (residual * residual))
    (state.ensembleWeights.get name).getD equalWeight * (0.9 + 0.1 * score)
  have factor (x : K) : 0 < 0.9 + 0.1 * exp x :=
    add_pos_of_pos_of_nonneg (by norm_num) (mul_nonneg (by norm_num) (nonneg x))
  have positive : ∀ name ∈ modelNames, 0 < raw name := by
    intro name known
    obtain ⟨weight, found, above⟩ := weighs.positive name known
    simp only [raw, found, Option.getD_some]
    exact mul_pos above (factor _)
  have sum : 0 < (modelNames.map raw).sum := by
    refine List.sum_pos _ ?_ (by simp [modelNames])
    intro weight among
    obtain ⟨name, known, rfl⟩ := List.mem_map.mp among
    exact positive name known
  have whole : state.reweighted exp modelProbabilities p actual
      = modelNames.foldl
        (fun weights name => weights.set name (raw name / (modelNames.map raw).sum))
        state.ensembleWeights := by
    have scaled : (fun (weights : Map String K) name => weights.set name
          (if (modelNames.map raw).sum > 0 then raw name / (modelNames.map raw).sum
            else raw name))
        = fun weights name => weights.set name (raw name / (modelNames.map raw).sum) := by
      funext weights name
      rw [if_pos sum]
    unfold reweighted
    dsimp only
    rw [scaled]
  rw [whole]
  exact weighs_written weighs.named (fun name known => div_pos (positive name known) sum)
    (sum_div_sum sum.ne')

-----------------------------------------------------------------------------------------
-- The windows and the buckets
-----------------------------------------------------------------------------------------

/-- A window keeps within the largest size that it was used with. -/
theorem length_pushWindow_le {α : Type} {window : List α} {size : Number} {bound : Nat} (value : α)
    (within : window.length ≤ bound) (small : size ≤ .finite bound)
    : (pushWindow window size value).length ≤ bound := by
  have longer : (window ++ [value]).length = window.length + 1 := List.length_append
  unfold pushWindow
  dsimp only
  split
  · rw [List.length_drop]
    omega
  · next fits =>
      have below : ((window ++ [value]).length : ℚ) ≤ bound :=
        of_decide_eq_true (Number.finite_le_of_not_lt small fits)
      exact_mod_cast below

omit [IsStrictOrderedRing K] in
theorem counts_bucketed {buckets : List (OnlineCalibrationBucket K)} (ten : buckets.length = 10)
    (p actual : K)
    : ((bucketed buckets p actual).map (·.count)).sum = (buckets.map (·.count)).sum + 1 := by
  refine sum_count_modify (fun bucket : OnlineCalibrationBucket K => bucket.count)
    (fun _ => rfl) ?_
  rw [ten]
  exact Nat.lt_succ_of_le (Nat.min_le_left _ _)

-----------------------------------------------------------------------------------------
-- Runs
-----------------------------------------------------------------------------------------

theorem sound_initial (short long : Nat)
    : Sound short long ({} : OnlineAdaptiveState K σ) where
  law :=
    {
      weights := by
        dsimp only
        exact weighs_initial
      hitRate := ⟨by norm_num, by norm_num⟩
      brier := ⟨by norm_num, by norm_num⟩
      residual := ⟨by norm_num, by norm_num⟩
      counts := by simp
      recent := Nat.zero_le _
      long := Nat.zero_le _
      streaks := .inl rfl
    }
  buckets := List.length_replicate ..

omit [FloorRing K] in
/-- A clamped probability is off from an outcome by less than one. -/
theorem residual_mem (probability : K) (reached : Prop) [Decidable reached]
    : max 0.01 (min 0.99 probability) - (if reached then 1 else 0) ∈ Set.Icc (-1 : K) 1 := by
  have low : (0 : K) ≤ max 0.01 (min 0.99 probability) := le_max_of_le_left (by norm_num)
  have high : max 0.01 (min 0.99 probability) ≤ (1 : K) :=
    max_le (by norm_num) ((min_le_left _ _).trans (by norm_num))
  split
  · exact ⟨by linarith, by linarith⟩
  · exact ⟨by linarith, by linarith⟩

omit [FloorRing K] in
theorem square_mem {residual : K} (inside : residual ∈ Set.Icc (-1) 1)
    : residual * residual ∈ Set.Icc 0 1 := by
  refine ⟨mul_self_nonneg residual, ?_⟩
  have squared := sq_le_one_iff_abs_le_one residual |>.mpr (abs_le.mpr inside)
  rwa [sq] at squared

/-- An update that smooths in a proportion keeps the state sound. -/
theorem Sound.next {exp : K → K} (nonneg : ∀ x, 0 ≤ exp x) {short long : Nat}
    {state : OnlineAdaptiveState K σ} (sound : Sound short long state)
    {params : OnlineUpdate K σ} (smooths : Smooths short long params)
    : Sound short long (state.applyOnlineUpdate exp params) := by
  obtain ⟨law, buckets⟩ := sound
  have residual := residual_mem params.psiProbability (acieTarget ≤ params.crashPoint)
  have actual : (if acieTarget ≤ params.crashPoint then 1 else 0 : K) ∈ Set.Icc 0 1 := by
    split
    · exact ⟨zero_le_one, le_rfl⟩
    · exact ⟨le_rfl, zero_le_one⟩
  refine ⟨⟨?_, ?_, ?_, ?_, ?_, ?_, ?_, ?_⟩, ?_⟩ <;>
    simp only [applyOnlineUpdate, decide_eq_true_eq]
  · exact weighs_reweighted nonneg law.weights _ _ _
  · exact blend_mem_Icc smooths.alpha actual law.hitRate
  · exact blend_mem_Icc smooths.alpha (square_mem residual) law.brier
  · exact blend_mem_Icc smooths.alpha residual law.residual
  · rw [counts_bucketed buckets, law.counts]
  · exact length_pushWindow_le _ law.recent smooths.shortWindow
  · exact length_pushWindow_le _ law.long smooths.longWindow
  · by_cases reached : acieTarget ≤ params.crashPoint
    · exact .inr (if_pos reached)
    · exact .inl (if_neg reached)
  · rw [bucketed, List.length_modify]
    exact buckets

/-- Over every sequence of updates that smooth in a proportion, all weights stay positive with the
sum one, the smoothed hit rate and error stay between 0 and 1 and the signed one between -1 and 1,
the buckets count all observations, the windows stay within the largest size that was asked for,
and one of the streaks is zero.
-/
theorem online_lawful {short long : Nat} (params : List (OnlineUpdate ℝ σ))
    (smooths : ∀ update ∈ params, Smooths short long update)
    : OnlineLaw short long (run (applyOnlineUpdate Real.exp) {} params) := by
  have nonneg (x : ℝ) : 0 ≤ Real.exp x := (Real.exp_pos x).le
  have lawful : Always (applyOnlineUpdate Real.exp) (fun _ => Smooths short long)
      ({} : OnlineAdaptiveState ℝ σ) params :=
    .of_forall_mem fun update member _ => smooths update member
  have sound : Sound short long (run (applyOnlineUpdate Real.exp) {} params) :=
    lawful.invariant (fun _ _ sound smooths => sound.next nonneg smooths)
      (sound_initial short long)
  exact sound.law

/-- A crash that reached the target, and is smoothed so. -/
noncomputable def reachedUpdate (alpha : ℝ) (shortWindow : Number) : OnlineUpdate ℝ Unit where
  crashPoint := 2
  psiProbability := 0.65
  modelProbabilities := ∅
  sequenceState := ()
  regime := .normal
  alpha
  shortWindow

theorem online_lawful_reached
    : OnlineLaw 50 200 (run (applyOnlineUpdate Real.exp) {} [reachedUpdate 0.05 50]) := by
  refine online_lawful _ fun update member => ?_
  rw [List.mem_singleton.mp member]
  exact ⟨⟨by norm_num [reachedUpdate], by norm_num [reachedUpdate]⟩, by decide, by decide⟩

/-- The signed residual goes below zero, a smoothing by more than all goes beyond one, and a window
that held two values holds them when the next call asks for one.
-/
theorem residual_below_zero
    : (run (applyOnlineUpdate Real.exp) {} [reachedUpdate 0.05 50]).ewmaResidual < 0
      ∧ 1 < (run (applyOnlineUpdate Real.exp) {} [reachedUpdate 3 50]).ewmaHitRate
      ∧ (run (applyOnlineUpdate Real.exp) {} [reachedUpdate 0.05 50, reachedUpdate 0.05 50,
          reachedUpdate 0.05 1]).recentSquaredErrors.length = 2 := by
  have reached : acieTarget ≤ (2 : ℝ) := by norm_num [acieTarget]
  refine ⟨?_, ?_, rfl⟩
  · simp only [run_cons, run_nil, applyOnlineUpdate, reachedUpdate, reached, decide_true, if_true]
    norm_num
  · simp only [run_cons, run_nil, applyOnlineUpdate, reachedUpdate, reached, decide_true, if_true]
    norm_num

end OnlineAdaptiveState

end CrashWave.Acie
