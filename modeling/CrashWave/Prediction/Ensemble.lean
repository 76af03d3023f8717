import Mathlib.Algebra.BigOperators.Group.List.Basic
import Mathlib.Algebra.Order.Field.Basic
import Mathlib.Analysis.SpecialFunctions.Log.Basic
import CrashWave.JavaScript.Map
import CrashWave.Prediction.EntryDecision
import CrashWave.Drawdowns.Basic
import CrashWave.Runs.Basic

/-! The ensemble of the prediction models: what each of them has lost lately, and the weights that
their scores are combined with. Numbers are those of an ordered field; the square root and the
logarithm are the caller's. The recent hits of a model, which nothing reads, are left out.
-/

namespace CrashWave.Ensemble

open JavaScript Prediction Statistics Runs

variable {K : Type*} [Field K] [LinearOrder K] [IsStrictOrderedRing K]

/-- How a model did; a logarithmic loss is never negative. -/
structure ModelPerf (K : Type*) [Field K] [LinearOrder K] where
  ewmaLogLoss : K
  ewmaBrier : K
  count : Nat
  nonneg : 0 ≤ ewmaLogLoss

/-- `Math.log`, which is not positive up to one. -/
structure Logarithm (K : Type*) [Field K] [LinearOrder K] where
  log : K → K
  nonpos : ∀ q, 0 < q → q ≤ 1 → log q ≤ 0

/-- The natural logarithm of the reals. -/
noncomputable def Logarithm.natural : Logarithm ℝ where
  log := Real.log
  nonpos _ positive below := Real.log_nonpos positive.le below

abbrev ModelPerformanceTracker (K : Type*) [Field K] [LinearOrder K] := Map String (ModelPerf K)

theorem half_nonneg : (0 : K) ≤ 0.5 := by positivity

/-- The performance of a model that was not observed yet. -/
def ModelPerf.initial : ModelPerf K where
  ewmaLogLoss := 0.5
  ewmaBrier := 0.25
  count := 0
  nonneg := half_nonneg

/-- `q`: the probability, off both ends. -/
def observedProbability (probability : K) : K := min 0.999 (max 0.001 probability)

def logLoss (logarithm : Logarithm K) (probability : K) (actual : Bool) : K :=
  let q := observedProbability probability
  if actual then -logarithm.log q else -logarithm.log (1 - q)

theorem logLoss_nonneg (logarithm : Logarithm K) (probability : K) (actual : Bool)
    : 0 ≤ logLoss logarithm probability actual := by
  have low : (0.001 : K) ≤ observedProbability probability :=
    le_min (by norm_num) (le_max_left _ _)
  have high : observedProbability probability ≤ (0.999 : K) := min_le_left _ _
  have positive : (0 : K) < 0.001 := by norm_num
  have below : (0.999 : K) < 1 := by norm_num
  unfold logLoss
  split
  · exact neg_nonneg.mpr (logarithm.nonpos _ (positive.trans_le low) (high.trans below.le))
  · refine neg_nonneg.mpr (logarithm.nonpos _ (sub_pos.mpr (high.trans_lt below)) ?_)
    exact sub_le_self _ (positive.le.trans low)

theorem moved_nonneg {loss before : K} (nonneg : 0 ≤ loss) (nonneg' : 0 ≤ before)
    : 0 ≤ 0.05 * loss + (1 - 0.05) * before := by
  have rest : (0 : K) ≤ 1 - 0.05 := by norm_num
  positivity

def ModelPerf.observe (logarithm : Logarithm K) (p : ModelPerf K) (probability : K)
    (actual : Bool) : ModelPerf K where
  ewmaLogLoss := 0.05 * logLoss logarithm probability actual + (1 - 0.05) * p.ewmaLogLoss
  ewmaBrier :=
    0.05 * (observedProbability probability - if actual then 1 else 0) ^ 2
      + (1 - 0.05) * p.ewmaBrier
  count := p.count + 1
  nonneg := moved_nonneg (logLoss_nonneg logarithm probability actual) p.nonneg

def ModelPerformanceTracker.observe (logarithm : Logarithm K)
    (tracker : ModelPerformanceTracker K) (name : String) (probability : K) (actual : Bool)
    : ModelPerformanceTracker K :=
  let p := (tracker.get name).getD .initial
  tracker.set name (p.observe logarithm probability actual)

-----------------------------------------------------------------------------------------
-- Weights
-----------------------------------------------------------------------------------------

/-- How well a model did, the more the oftener it was observed. -/
def performanceScore (perf : Option (ModelPerf K)) : K :=
  match perf with
  | none => 1
  | some p =>
      if 20 ≤ p.count then
        let sampleConf := min 1 ((p.count : K) / 100.0)
        sampleConf * (1 / (0.05 + p.ewmaLogLoss)) + (1 - sampleConf) * 1
      else 1

/-- A sum to divide by, `|| 1`. -/
def orOne (sum : K) : K := if sum = 0 then 1 else sum

def computePerformanceWeights (modelNames : List String) (baseWeights : String → Option K)
    (perf : ModelPerformanceTracker K) (regimeFit : String → Option K) : List K :=
  let raw := modelNames.map fun name =>
    let base := (baseWeights name).getD (1 / modelNames.length)
    let regime := (regimeFit name).getD 1
    max 0 (base * performanceScore (perf.get name) * regime)
  raw.map (· / orOne raw.sum)

/-- The model was observed often enough, and loses clearly more than the baseline. -/
def underperforms (perf : ModelPerformanceTracker K) (baselineLogLoss : K) (name : String)
    : Bool :=
  (perf.get name).any fun p => 100 ≤ p.count ∧ baselineLogLoss * 1.25 < p.ewmaLogLoss

/-- What a model had expected of an outcome. -/
structure Observation (K : Type*) where
  name : String
  probability : K
  actual : Bool

namespace ModelPerformanceTracker

/-- How often a model was observed. -/
def count (tracker : ModelPerformanceTracker K) (name : String) : Nat :=
  ((tracker.get name).map (·.count)).getD 0

/-- `observe` with an observation. -/
def observeNext (logarithm : Logarithm K) (tracker : ModelPerformanceTracker K)
    (observation : Observation K) : ModelPerformanceTracker K :=
  tracker.observe logarithm observation.name observation.probability observation.actual

theorem count_observeNext (logarithm : Logarithm K) (tracker : ModelPerformanceTracker K)
    (observation : Observation K) (name : String)
    : (tracker.observeNext logarithm observation).count name
      = tracker.count name + if observation.name = name then 1 else 0 := by
  unfold observeNext observe count
  by_cases own : observation.name = name
  · subst own
    rw [Map.get_set_self, if_pos rfl]
    cases tracker.get observation.name <;> rfl
  · rw [Map.get_set_of_ne tracker _ (Ne.symm own), if_neg own]
    rfl

/-- A tracker counts the observations of every model, by induction on them. -/
theorem count_run (logarithm : Logarithm K) (tracker : ModelPerformanceTracker K)
    (observations : List (Observation K)) (name : String)
    : (run (observeNext logarithm) tracker observations).count name
      = tracker.count name + observations.countP (fun observation => observation.name = name) := by
  induction observations generalizing tracker with
  | nil => rfl
  | cons observation rest ih =>
      rw [run_cons, ih, count_observeNext, List.countP_cons, add_assoc, add_comm (ite ..)]
      simp only [decide_eq_true_eq]

/-- No model is held to underperform before it was observed a hundred times. -/
theorem not_underperforms_of_few (logarithm : Logarithm K) {name : String}
    {observations : List (Observation K)}
    (few : observations.countP (fun observation => observation.name = name) < 100)
    (baselineLogLoss : K)
    : underperforms (run (observeNext logarithm) ∅ observations) baselineLogLoss name = false := by
  have counted := count_run logarithm ∅ observations name
  rw [count, count, Map.get_empty, Option.map_none, Option.getD_none, zero_add] at counted
  unfold underperforms
  cases found : (run (observeNext logarithm) ∅ observations).get name with
  | none => rfl
  | some p =>
      rw [found, Option.map_some, Option.getD_some] at counted
      have below : ¬ 100 ≤ p.count := by omega
      simp [below]

example
    : underperforms (run (observeNext .natural) ∅ [⟨"FrequencyModel", 0.9, false⟩]) 0.65
        "FrequencyModel"
      = false :=
  not_underperforms_of_few .natural (by simp) 0.65

end ModelPerformanceTracker

def applySuppression (names : List String) (weights : List K) (perf : ModelPerformanceTracker K)
    (baselineLogLoss : K) : List K :=
  let out := List.zipWith
    (fun name weight => if underperforms perf baselineLogLoss name then 0 else weight)
    names weights
  if out.sum ≤ 0 then weights else out.map (· / out.sum)

-----------------------------------------------------------------------------------------
-- Agreement
-----------------------------------------------------------------------------------------

def modelDisagreement (sqrt : K → K) (probabilities : List K) : K :=
  if probabilities.length < 2 then 0
  else sqrt (squaredDeviations probabilities / probabilities.length)

def agreementScore (sqrt : K → K) (probabilities : List K) : K :=
  max 0 (1 - modelDisagreement sqrt probabilities * 2.0)

-----------------------------------------------------------------------------------------
-- Combining
-----------------------------------------------------------------------------------------

structure ModelScore (K : Type*) where
  modelName : String
  modelVersion : String
  probability : K
  confidence : K
  weight : K
  deriving DecidableEq

structure EnsembleResult (K : Type*) where
  probability : K
  confidence : K
  scores : List (ModelScore K)
  agreement : K
  disagreement : K
  recommendedAction : PipelineAction
  weights : Map String K

structure EnsembleFlags where
  enableAutocorrelation : Bool := false
  enableMarkov : Bool := false
  enableSpectral : Bool := false
  enableEntropy : Bool := false
  enableStreak : Bool := false
  deriving DecidableEq

/-- `BASE_WEIGHTS`. -/
def baseWeights : String → Option K
  | "FrequencyModel" => some 0.2
  | "ConditionalFrequencyModel" => some 0.25
  | "RegimeAdjustedModel" => some 0.15
  | "StreakAwareModel" => some 0.15
  | "MomentumReversionModel" => some 0.1
  | "ShortWindowBayesianModel" => some 0.1
  | "VolatilityAdjustedModel" => some 0.05
  | "AutocorrelationModel" => some 0
  | "MarkovChainModel" => some 0
  | "SpectralModel" => some 0
  | "EntropyModel" => some 0
  | _ => none

/-- A flag of the model is off. -/
def EnsembleFlags.isOff (flags : EnsembleFlags) (modelName : String) : Bool :=
  (modelName = "AutocorrelationModel" && !flags.enableAutocorrelation)
  || (modelName = "StreakAwareModel" && !flags.enableStreak)
  || (modelName = "MarkovChainModel" && !flags.enableMarkov)
  || (modelName = "SpectralModel" && !flags.enableSpectral)
  || (modelName = "EntropyModel" && !flags.enableEntropy)

/-- The name begins like the one of a candidate model. -/
def isCandidateName (modelName : String) : Bool :=
  ["Auto", "Markov", "Spectral", "Entropy"].any fun start =>
    start.toList.isPrefixOf modelName.toList

/-- A candidate that comes with no weight. -/
def ModelScore.isZeroed (score : ModelScore K) : Bool :=
  decide (score.weight = 0) && isCandidateName score.modelName

/-- The scores, without the weights of the models that are off. -/
def filterScores (flags : EnsembleFlags) (scores : List (ModelScore K)) : List (ModelScore K) :=
  scores.map fun s => if flags.isOff s.modelName then { s with weight := 0 } else s

def recommend (probability agreement : K) : PipelineAction :=
  if 0.62 ≤ probability ∧ 0.55 ≤ agreement then .entry
  else if 0.57 ≤ probability ∧ 0.4 ≤ agreement then .reducedEntry
  else .skip

/-- The scores and their weights in a loop, the weight by the name of the model. -/
def weightMap (weighed : List (ModelScore K × K)) : Map String K :=
  weighed.foldl (fun map (s, finalW) => map.set s.modelName finalW) ∅

def combine (sqrt : K → K) (flags : EnsembleFlags) (performance : ModelPerformanceTracker K)
    (scores : List (ModelScore K)) (baselineLogLoss : K) : EnsembleResult K :=
  if scores = [] then
    {
      probability := 0.5
      confidence := 0
      scores := []
      agreement := 0
      disagreement := 0
      recommendedAction := .skip
      weights := ∅
    }
  else
    let filtered := filterScores flags scores
    let names := filtered.map (·.modelName)
    let weights := applySuppression names
      (computePerformanceWeights names baseWeights performance fun _ => none) performance
      baselineLogLoss
    let weighed : List (ModelScore K × K) :=
      List.zipWith (fun s weight => (s, if s.isZeroed then 0 else weight)) filtered weights
    let wSum : K := (weighed.map fun (_, finalW) => finalW).sum
    let pSum : K := (weighed.map fun (s, finalW) => s.probability * finalW).sum
    let cSum : K := (weighed.map fun (s, finalW) => s.confidence * finalW).sum
    let probability := if 0 < wSum then pSum / wSum else 0.5
    let probs := filtered.map (·.probability)
    let agreement := agreementScore sqrt probs
    {
      probability
      confidence := if 0 < wSum then cSum / wSum else 0
      scores := List.zipWith
        (fun s weight => { s with weight := ((weightMap weighed).get s.modelName).getD weight })
        filtered weights
      agreement
      disagreement := modelDisagreement sqrt probs
      recommendedAction := recommend probability agreement
      weights := weightMap weighed
    }

end CrashWave.Ensemble
