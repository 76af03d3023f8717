import CrashWave.Prediction.EntryDecision
import CrashWave.Prediction.LiveDivergence
import CrashWave.Prediction.MultiTarget

/-! The prediction pipeline from the selection of a target on, under the restrictions of the
production controller. What the other components answer is an environment; the texts of the reasons
are left out.
-/

namespace CrashWave.Targets

open JavaScript Divergence Prediction

/-- `ProductionStatus`, without the models. -/
structure ProductionStatus where
  divergence : DivergenceSnapshot
  entriesAllowed : Bool
  kellyAllowed : Bool
  multiTargetAllowed : Bool
  dynamicThresholdsAllowed : Bool

/-- `ProductionController.status`, for what the monitor evaluates to. -/
def status (div : DivergenceSnapshot) : ProductionStatus where
  divergence := div
  entriesAllowed := !div.actions.fullSheathHaltEntries
  kellyAllowed := !div.actions.disableKelly
  multiTargetAllowed := !div.actions.disableMultiTargetSwitch
  dynamicThresholdsAllowed := !div.actions.disableDynamicThresholds

/-- `PipelineInput`, without what only the other components are given. -/
structure PipelineInput where
  predictionId : Option String := none
  modelAgreement : Option Number := none
  bankroll : Option Number := none
  baseThreshold : Option Number := none
  targetProbabilities : MultiTarget → Option Number := fun _ => none

/-- What the other components answer during one run. -/
structure PipelineEnvironment where
  /-- `globalLiveDivergence.evaluate()`. -/
  divergence : DivergenceSnapshot
  /-- `randomUUID()`. -/
  newPredictionId : String
  /-- The probability and the agreement of the ensemble. -/
  ensembleProbability : Number
  ensembleAgreement : Number
  metaProbability : Number
  /-- `calibrateWithShrinkage` of the blended probability. -/
  calibratedProbability : Number
  /-- `globalIncrementalState.hitRate`. -/
  hitRate : MultiTarget → Number
  /-- `globalCalibrationState.calibrate` in the regime. -/
  calibrate : Number → Number
  /-- How many crash points were counted. -/
  sampleCount : Number
  /-- `computeDynamicThreshold`, for a base threshold and an agreement. -/
  dynamicThreshold : Number → Number → Number
  /-- The score of an opportunity, for a target, a threshold and an agreement. -/
  opportunityScore : TargetAssessment → Number → Number → Number
  /-- The stake of `fractionalKellyStake`, for a target and an agreement. -/
  kellyStake : TargetAssessment → Number → Number

/-- What `runPredictionPipeline` returns. -/
structure PipelineOutcome where
  result : PipelineResult
  rawProbability : Number
  metaProbability : Number
  targetSelection : MultiTargetSelection
  kelly : Option Number
  production : ProductionStatus

variable (env : PipelineEnvironment) (input : PipelineInput)

def rawTargets : MultiTarget → Number
  | .onePointThree =>
      (input.targetProbabilities .onePointThree).getD env.calibratedProbability
  | .two => (input.targetProbabilities .two).getD (env.hitRate .two)
  | .five => (input.targetProbabilities .five).getD (env.hitRate .five)

/-- The targets are assessed with these probabilities, raw and calibrated. -/
def assessTargets (raw calibrated : MultiTarget → Number) : List TargetAssessment :=
  MultiTargetEngine.assess {}
    {
      probabilities := fun t => some (raw t)
      calibrated := fun t => some (calibrated t)
      confidence := input.modelAgreement.getD env.ensembleAgreement
      sampleSize := env.sampleCount
      historicalHitRates := fun t => some (env.hitRate t)
    }

/-- A probability for the default target only. -/
def defaultOnly (probability : MultiTarget → Number) (t : MultiTarget) : Number :=
  if t = defaultTarget then probability t else 0

/-- The selection, which is taken back to the default where no other target is allowed. -/
def restrict (production : ProductionStatus) (targetSelection : MultiTargetSelection)
    : MultiTargetSelection :=
  if !production.multiTargetAllowed && targetSelection.switchedFromDefault then
    let raw := rawTargets env input
    let onlyDefault :=
      assessTargets env input (defaultOnly raw) (defaultOnly fun t => env.calibrate (raw t))
    {
      selected :=
        (onlyDefault.find? (·.target = defaultTarget)).getD targetSelection.selected
      alternatives := []
      switchedFromDefault := false
    }
  else targetSelection

def runPredictionPipeline : Option PipelineOutcome := do
  let production := status env.divergence
  let predictionId := input.predictionId.getD env.newPredictionId
  let agreement := input.modelAgreement.getD env.ensembleAgreement
  let raw := rawTargets env input
  let assessed := assessTargets env input raw fun t => env.calibrate (raw t)
  let targetSelection := restrict env input production (← MultiTargetEngine.select {} assessed)
  let selected := targetSelection.selected
  let base := input.baseThreshold.getD (.finite 0.58)
  let threshold :=
    if production.dynamicThresholdsAllowed then env.dynamicThreshold base agreement else base
  return {
    result := {
      predictionId
      target := selected.target.value
      calibratedProbability := selected.calibratedProbability
      opportunityConfidence := selected.confidence
      opportunityScore := env.opportunityScore selected threshold agreement
      threshold
      entriesAllowed := production.entriesAllowed
    }
    rawProbability := env.ensembleProbability
    metaProbability := env.metaProbability
    targetSelection
    kelly :=
      if production.kellyAllowed ∧ 0 < input.bankroll.getD 0 then
        some (env.kellyStake selected agreement)
      else none
    production
  }

-----------------------------------------------------------------------------------------
-- What the restrictions decide
-----------------------------------------------------------------------------------------

/-- The default target is always assessed. -/
theorem find?_assessTargets (raw calibrated : MultiTarget → Number)
    : ∃ def', (assessTargets env input raw calibrated).find? (·.target = defaultTarget)
        = some def' :=
  ⟨_, rfl⟩

/-- Where no other target is allowed, the default one is selected. -/
theorem target_restrict {production : ProductionStatus} {assessments : List TargetAssessment}
    {def' : TargetAssessment} {selection : MultiTargetSelection}
    (law : SelectLaw {} assessments def' selection)
    (restricted : production.multiTargetAllowed = false)
    : (restrict env input production selection).selected.target = defaultTarget := by
  unfold restrict
  split
  · rfl
  · next stays =>
      have unswitched : selection.switchedFromDefault = false := by simpa [restricted] using stays
      by_contra other
      have switched := law.switched.mpr other
      exact absurd (unswitched.symm.trans switched) Bool.false_ne_true

/-- A list is selected from by law, next to its evaluation of the default target or, where it has
none, to its first one. The pipeline skips where entries are halted, and takes the default target
where no other one is allowed.
-/
theorem target_selection (policy : MultiTargetPolicy) (assessments : List TargetAssessment)
    (env : PipelineEnvironment) (input : PipelineInput)
    : (∀ def', (assessments.find? (·.target = defaultTarget)).or assessments.head? = some def'
        → ∃ selection, MultiTargetEngine.select policy assessments = some selection
          ∧ SelectLaw policy assessments def' selection)
      ∧ ∃ outcome, runPredictionPipeline env input = some outcome
        ∧ ((status env.divergence).entriesAllowed = false → outcome.result.action = .skip)
        ∧ ((status env.divergence).multiTargetAllowed = false
          → outcome.targetSelection.selected.target = defaultTarget
            ∧ outcome.result.target = .finite 1.3) := by
  refine ⟨fun def' found => select_law policy found, ?_⟩
  obtain ⟨def', found⟩ := find?_assessTargets env input (rawTargets env input)
    fun t => env.calibrate (rawTargets env input t)
  obtain ⟨selection, selected, law⟩ := select_law {} (Option.or_eq_some_iff.mpr (.inl found))
  refine ⟨_, by rw [runPredictionPipeline, selected]; rfl, ?_, ?_⟩
  · intro halted
    simp [PipelineResult.action, halted]
  · intro restricted
    have target := target_restrict env input law restricted
    exact ⟨target, congrArg MultiTarget.value target⟩

end CrashWave.Targets
