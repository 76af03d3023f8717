import Mathlib.Analysis.Real.Sqrt
import CrashWave.Prediction.Acie.SequenceIntelligence

/-! What an estimate promises, and for which weights it keeps that. -/

namespace CrashWave.Acie

open JavaScript Mixtures

namespace PredictiveSequenceIntelligence

variable {K : Type} [Field K] [LinearOrder K]

/-- The law of an estimate: it is a probability off 0 and 1, its blend is by weights that are not
negative and sum to one, so that it lies between the estimates of the models, and the interval
holds it and lies between 0 and 1.
-/
structure EstimateLaw (sqrt : K → K) (params : EstimateParams K) : Prop where
  reported : (estimate sqrt params).estimatedProbability ∈ Set.Icc 0.01 0.99
  clamped : (estimate sqrt params).estimatedProbability
    = clamp01 (blend (runModels sqrt params)
        (resolveWeights (runModels sqrt params) params.history.length params.ensembleWeights))
  convex : IsMixture
    (resolveWeights (runModels sqrt params) params.history.length params.ensembleWeights)
  between (low high : K) :
    (∀ model ∈ runModels sqrt params, model.probability ∈ Set.Icc low high) →
    blend (runModels sqrt params)
        (resolveWeights (runModels sqrt params) params.history.length params.ensembleWeights)
      ∈ Set.Icc low high
  contained : (estimate sqrt params).estimatedProbability
    ∈ Set.Icc (estimate sqrt params).confidenceInterval.1
        (estimate sqrt params).confidenceInterval.2
  lower : 0 ≤ (estimate sqrt params).confidenceInterval.1
  upper : (estimate sqrt params).confidenceInterval.2 ≤ 1

/-- No weight of a model that is passed is negative, and one of them is positive; nothing is asked
where no weights are passed. A model without a weight counts with the equal one.
-/
def Usable (params : EstimateParams K) : Prop :=
  ∀ online, params.ensembleWeights = some online → online.entries ≠ [] →
    (∀ name ∈ modelNames, 0 ≤ (online.get name).getD equalWeight)
    ∧ ∃ name ∈ modelNames, 0 < (online.get name).getD equalWeight

section

variable [IsStrictOrderedRing K]

theorem clamp01_mem (x : K) : clamp01 x ∈ Set.Icc 0.01 0.99 := by
  have ordered : (0.01 : K) ≤ 0.99 := by norm_num
  unfold clamp01
  split
  · exact ⟨le_rfl, ordered⟩
  · next low =>
      split
      · exact ⟨ordered, le_rfl⟩
      · next high => exact ⟨not_lt.mp low, not_lt.mp high⟩

theorem clamp01_mono {x y : K} (ordered : x ≤ y) : clamp01 x ≤ clamp01 y := by
  by_cases low : x < 0.01
  · rw [clamp01, if_pos low]
    exact (clamp01_mem y).1
  · by_cases high : y > 0.99
    · have top : clamp01 y = 0.99 := by
        rw [clamp01, if_neg (by linarith), if_pos high]
      rw [top]
      exact (clamp01_mem x).2
    · rw [clamp01, if_neg low, if_neg (by linarith), clamp01, if_neg (by linarith), if_neg high]
      exact ordered

omit [IsStrictOrderedRing K] in
theorem clamp01_of_mem {x : K} (inside : x ∈ Set.Icc 0.01 0.99) : clamp01 x = x := by
  rw [clamp01, if_neg (not_lt.mpr inside.1), if_neg (not_lt.mpr inside.2)]

/-- The interval around a clamped mean holds it. -/
theorem mem_parametricUncertaintyInterval {mean : K} (inside : mean ∈ Set.Icc 0.01 0.99)
    (modelUnc : K)
    : mean ∈ Set.Icc (parametricUncertaintyInterval mean modelUnc).1
        (parametricUncertaintyInterval mean modelUnc).2 := by
  have spread : (0 : K) ≤ 1.64 * if modelUnc > 0.03 then modelUnc else 0.03 := by
    refine mul_nonneg (by norm_num) ?_
    split
    · next wide => linarith
    · norm_num
  have kept := clamp01_of_mem inside
  constructor
  · calc clamp01 (mean - 1.64 * if modelUnc > 0.03 then modelUnc else 0.03)
        ≤ clamp01 mean := clamp01_mono (sub_le_self mean spread)
      _ = mean := kept
  · calc mean
        = clamp01 mean := kept.symm
      _ ≤ clamp01 (mean + 1.64 * if modelUnc > 0.03 then modelUnc else 0.03) :=
          clamp01_mono (le_add_of_nonneg_right spread)

/-- Scaled weights are a mixture exactly if none of them is negative and their sum is positive. -/
theorem isMixture_scaled_iff {weights : List K}
    : IsMixture (scaled weights) ↔ (∀ weight ∈ weights, 0 ≤ weight) ∧ 0 < weights.sum := by
  by_cases positive : 0 < weights.sum
  · have same : scaled weights = weights.map (· / weights.sum) := by
      simp only [scaled, gt_iff_lt, if_pos positive, div_eq_mul_inv, one_mul]
    rw [same, isMixture_div_sum_iff positive]
    exact (and_iff_left positive).symm
  · refine iff_of_false (fun mixture => ?_) fun usable => positive usable.2
    -- Times one over their number, a sum that is not positive is not the sum one.
    have total : weights.sum * (1 / weights.length) = 1 := by
      have scaledTotal := mixture.total
      simp only [scaled, gt_iff_lt, if_neg positive] at scaledTotal
      rwa [List.sum_map_mul_right, List.map_id'] at scaledTotal
    have notPositive : weights.sum * (1 / weights.length) ≤ 0 :=
      mul_nonpos_of_nonpos_of_nonneg (not_lt.mp positive) (by positivity)
    linarith

theorem isMixture_staticWeights (sampleSize : Nat)
    : IsMixture (scaled (staticWeights sampleSize : List K)) := by
  refine isMixture_scaled_iff.mpr ?_
  unfold staticWeights
  split <;> norm_num

/-- Every model estimates a probability off 0 and 1. -/
theorem runModels_mem (sqrt : K → K) (params : EstimateParams K)
    : ∀ model ∈ runModels sqrt params, model.probability ∈ Set.Icc 0.01 0.99 := by
  simp only [runModels, modelNames, List.zipWith_cons_cons, List.zipWith_nil_left,
    List.forall_mem_cons, List.not_mem_nil, clamp01_mem, false_imp_iff, implies_true, and_self]

omit [IsStrictOrderedRing K] in
@[simp] theorem length_runModels (sqrt : K → K) (params : EstimateParams K)
    : (runModels sqrt params).length = modelNames.length := by
  simp [runModels, modelNames]

omit [IsStrictOrderedRing K] in
@[simp] theorem length_scaled (weights : List K) : (scaled weights).length = weights.length := by
  simp [scaled]

omit [IsStrictOrderedRing K] in
/-- There is one weight for every model. -/
theorem length_resolveWeights (sqrt : K → K) (params : EstimateParams K)
    : (resolveWeights (runModels sqrt params) params.history.length
        params.ensembleWeights).length = modelNames.length := by
  have static : (staticWeights params.history.length : List K).length = modelNames.length := by
    unfold staticWeights
    split <;> rfl
  unfold resolveWeights
  split
  · split
    · simp [lookedUp]
    · simpa using static
  · simpa using static

omit [IsStrictOrderedRing K] in
/-- The weights that are looked up for the models of a run. -/
theorem lookedUp_runModels (sqrt : K → K) (params : EstimateParams K) (online : Map String K)
    : lookedUp (runModels sqrt params) online
      = modelNames.map fun name => (online.get name).getD equalWeight := by
  simp [lookedUp, runModels, modelNames, equalWeight]

/-- A list of numbers that are not negative sums to something exactly if one of them does. -/
theorem sum_pos_iff_exists {weights : List K} (nonneg : ∀ weight ∈ weights, 0 ≤ weight)
    : 0 < weights.sum ↔ ∃ weight ∈ weights, 0 < weight := by
  induction weights with
  | nil => simp
  | cons weight rest ih =>
      obtain ⟨first, later⟩ := List.forall_mem_cons.mp nonneg
      rw [List.sum_cons, List.exists_mem_cons_iff, ← ih later]
      have others := List.sum_nonneg later
      constructor
      · intro positive
        by_cases some : 0 < weight
        · exact .inl some
        · exact .inr (by linarith)
      · rintro (some | some) <;> linarith

/-- The weights are a mixture exactly if those that are passed are usable. -/
theorem isMixture_resolveWeights_iff (sqrt : K → K) (params : EstimateParams K)
    : IsMixture
        (resolveWeights (runModels sqrt params) params.history.length params.ensembleWeights)
      ↔ Usable params := by
  have unasked (absent : ∀ online, params.ensembleWeights = some online → online.entries = [])
      : Usable params :=
    fun online passed some => absurd (absent online passed) some
  unfold resolveWeights
  cases weights : params.ensembleWeights with
  | none =>
      refine iff_of_true (isMixture_staticWeights _) (unasked fun online passed => ?_)
      rw [weights] at passed
      cases passed
  | some online =>
      dsimp only
      by_cases empty : online.entries = []
      · rw [if_neg (by simp [empty])]
        refine iff_of_true (isMixture_staticWeights _) (unasked fun other passed => ?_)
        rw [weights] at passed
        rwa [← Option.some.inj passed]
      · rw [if_pos (List.length_pos_iff.mpr empty), isMixture_scaled_iff, lookedUp_runModels]
        have forms : (∀ weight ∈ modelNames.map fun name => (online.get name).getD equalWeight,
              0 ≤ weight)
            ↔ ∀ name ∈ modelNames, 0 ≤ (online.get name).getD equalWeight :=
          List.forall_mem_map
        rw [and_congr_right sum_pos_iff_exists, forms]
        constructor
        · intro usable other passed _
          rw [weights] at passed
          rw [← Option.some.inj passed]
          exact ⟨usable.1, by simpa using usable.2⟩
        · intro usable
          obtain ⟨nonneg, positive⟩ := usable online weights empty
          exact ⟨nonneg, by simpa using positive⟩

end

/-- For every state and all weights, an estimate keeps its law exactly if the weights that are
passed are usable: with none that is positive, the blend is scaled by one over their number.
-/
theorem estimateLaw_iff (sqrt : ℝ → ℝ) (params : EstimateParams ℝ)
    : EstimateLaw sqrt params ↔ Usable params := by
  rw [← isMixture_resolveWeights_iff sqrt params]
  refine ⟨EstimateLaw.convex, fun mixture => ?_⟩
  have reported : (estimate sqrt params).estimatedProbability ∈ Set.Icc 0.01 0.99 := clamp01_mem _
  refine ⟨reported, rfl, mixture, ?_, mem_parametricUncertaintyInterval reported _, ?_, ?_⟩
  · intro low high inside
    refine mixture.mix_mem_Icc ?_ (by simpa using inside)
    rw [List.length_map, length_runModels, length_resolveWeights]
  · exact le_trans (by norm_num) (clamp01_mem _).1
  · exact le_trans (clamp01_mem _).2 (by norm_num)

/-- A first round whose models are all passed the weight zero. -/
noncomputable def unweighed : EstimateParams ℝ where
  crashPoints := []
  sequenceState := TemporalPatternLearner.computeSequenceState ⟨id, id, id⟩ []
  regime := .normal
  history := []
  ensembleWeights := some (weighted fun _ => 0)

/-- Then the blend is zero, which is less than any model estimates, and no mixture. -/
theorem blend_unweighed
    : blend (runModels Real.sqrt unweighed)
          (resolveWeights (runModels Real.sqrt unweighed) 0 unweighed.ensembleWeights) = 0
      ∧ (∀ model ∈ runModels Real.sqrt unweighed, 0 < model.probability)
      ∧ ¬ EstimateLaw Real.sqrt unweighed := by
  have found (name : String) (known : name ∈ modelNames)
      : (weighted fun _ => (0 : ℝ)).get name = some 0 := by
    rw [weighted, Map.get_foldl_set, if_pos known]
  have some : (weighted fun _ => (0 : ℝ)).entries ≠ [] := by
    intro empty
    have first := found "FrequencyModel" (by decide)
    simp [Map.get, empty] at first
  have weights : resolveWeights (runModels Real.sqrt unweighed) 0 unweighed.ensembleWeights
      = List.replicate 7 0 := by
    have zeros : (modelNames.map fun name =>
        ((weighted fun _ => (0 : ℝ)).get name).getD equalWeight) = List.replicate 7 0 := by
      refine List.eq_replicate_iff.mpr ⟨rfl, fun weight among => ?_⟩
      obtain ⟨name, known, rfl⟩ := List.mem_map.mp among
      rw [found name known]
      rfl
    simp only [resolveWeights, unweighed, gt_iff_lt, List.length_pos_iff.mpr some, if_true]
    rw [lookedUp_runModels, zeros]
    simp [scaled]
  refine ⟨?_, ?_, ?_⟩
  · rw [weights]
    simp [blend, mix, runModels, modelNames]
  · intro model among
    exact lt_of_lt_of_le (by norm_num) (runModels_mem Real.sqrt unweighed model among).1
  · intro law
    have usable := (isMixture_resolveWeights_iff Real.sqrt unweighed).mp law.convex
    obtain ⟨-, name, known, positive⟩ := usable _ rfl some
    rw [found name known] at positive
    exact lt_irrefl _ positive

end PredictiveSequenceIntelligence

end CrashWave.Acie
