import CrashWave.Core.LiveBridge
import CrashWave.Prediction.Acie.Engine
import CrashWave.Prediction.CalibrationState
import CrashWave.Prediction.EntryDecision
import CrashWave.Prediction.StatePersistence
import CrashWave.Prediction.ModelLifecycle
import CrashWave.Runs.Basic

/-! What the prediction stack learns from crashes: `observeCrash` with the components that it
feeds, between decisions that leave a probability behind.
-/

namespace CrashWave.Prediction

open Acie Calibration CrashWave.Core Divergence Incremental JavaScript ModelLifecycle Runs

/-- A finite number of the unit interval. -/
structure UnitProbability where
  value : ℚ
  nonneg : 0 ≤ value
  le_one : value ≤ 1

theorem UnitProbability.eq_iff {first second : UnitProbability}
    : first = second ↔ first.value = second.value := by
  constructor
  · intro same
    rw [same]
  · intro same
    cases first
    cases second
    cases same
    rfl

instance : DecidableEq UnitProbability :=
  fun _ _ => decidable_of_iff _ UnitProbability.eq_iff.symm

def unitProbability : Number → Option UnitProbability
  | .finite value =>
      if bounds : 0 ≤ value ∧ value ≤ 1 then some ⟨value, bounds.1, bounds.2⟩ else none
  | .infinity _ | .nan => none

/-- A signal that a decision keeps for a round: what later feedback reads of it. -/
structure Emission where
  roundId : String
  probability : UnitProbability
  target : Number
  deriving DecidableEq

/-- The signal that `evaluateEntry` remembers as its last one. -/
def keptSignal (service : EntryDecisionService) (env : DecisionEnvironment)
    (ctx : EntryDecisionContext) : Option PredictionSignal :=
  if (ctx.isLive ∧ !env.readyForLive) ∨ !env.historyWarmed ∨ !enoughHistory env ctx then none
  else (candidateSignal service env ctx).join.filter (keepsSignal ctx)

def emission (service : EntryDecisionService) (env : DecisionEnvironment)
    (ctx : EntryDecisionContext) (roundId : String) : Option Emission :=
  (keptSignal service env ctx).bind fun signal =>
    (unitProbability signal.probability).map fun probability =>
      { roundId, probability, target := signal.target }

/-- A crash that is observed. -/
structure ObservedCrash where
  roundId : String
  crashPoint : Number
  deriving DecidableEq

/-- A crash that a bridge passes on. -/
def passedOn (payload : CrashPayload) : Option ObservedCrash :=
  payload.valid.map fun (roundId, crashPoint) => { roundId, crashPoint }

/-- How a crash comes to `observeCrash`: by a call, `onRoundCrashedForDryRun`, or
`onRoundCrashedForLive` with its configuration.
-/
inductive CrashDelivery where
  | direct (crash : ObservedCrash)
  | dryRun (payload : CrashPayload)
  | live (config : Value) (payload : CrashPayload)

/-- The call of `observeCrash` that a delivery makes. -/
def CrashDelivery.observed : CrashDelivery → Option ObservedCrash
  | .direct crash => some crash
  | .dryRun payload => passedOn payload
  | .live config payload => if bridgeMode config "" ≠ "live" then none else passedOn payload

/-- What is fed with a prediction and its outcome. -/
inductive FeedbackSink where
  | calibration
  | divergence
  deriving DecidableEq

/-- A prediction that was fed with an outcome, at the crash of a round. -/
structure FedPair where
  sink : FeedbackSink
  crash : ObservedCrash
  predicted : UnitProbability
  actual : Bool
  deriving DecidableEq

structure ConceptDriftMonitor where
  short : List ℚ := []
  long : List ℚ := []
  deriving DecidableEq

/-- `observe`, with windows of 50 and 200 errors. -/
def ConceptDriftMonitor.observe (monitor : ConceptDriftMonitor) (predicted : ℚ) (actual : Bool)
    : ConceptDriftMonitor :=
  let sq := (predicted - if actual then 1 else 0) ^ 2
  { short := pushWindow monitor.short 50 sq, long := pushWindow monitor.long 200 sq }

/-- The service and the components that it feeds. The last four fields record what was done, for
the statements about it: the signals kept, the crashes observed, the pairs fed and the rounds that
the adaptive engine learned.
-/
structure LearningStack (σ : Type) where
  lastEmittedProbability : Option UnitProbability := none
  acieSeeded : Bool := false
  crashCountForSnapshot : Nat := 0
  calibration : CalibrationState := .new
  production : ProductionController := { lifecycle := {}, divergence := .new none }
  drift : ConceptDriftMonitor := {}
  incremental : IncrementalStateEngine := {}
  acie : ACIEEngine σ := {}
  emissions : List Emission := []
  observed : List ObservedCrash := []
  fed : List FedPair := []
  learned : List String := []

/-- What happens to the stack: a decision, a crash, and between them the callback of the adaptive
engine, a refit, and evaluations and recoveries of the divergence monitor by others. `recent` is
the history that the adaptive engine is seeded from.
-/
inductive LearningEvent where
  | decide (roundId : String) (env : DecisionEnvironment) (ctx : EntryDecisionContext)
      (recent : List ACIERoundInput)
  | crash (delivery : CrashDelivery) (recent : List ACIERoundInput)
  | heavyEvidence (threw : Bool)
  | refit
  | evaluateDivergence
  | manualRecover (confirm : Bool)

namespace LearningStack

variable {σ : Type}

/-- The rounds among those with an outcome that were learned. -/
def learnedRounds (rounds : List ACIERoundInput) (outcomes : List IngestOutcome) : List String :=
  ((rounds.zip outcomes).filter fun entry => entry.2 = .learned).map fun entry => entry.1.roundId

/-- `ensureAcieSeeded`, which catches what the seed throws. -/
def ensureAcieSeeded (models : AcieModels σ) (stack : LearningStack σ)
    (recent : List ACIERoundInput) : LearningStack σ :=
  if stack.acieSeeded then stack
  else if recent.length < 20 then { stack with acieSeeded := true }
  else
    let (acie, outcomes) := stack.acie.seedHistory models recent
    { stack with
      acieSeeded := true
      acie
      learned := stack.learned ++ learnedRounds (lastOf 2000 recent) outcomes }

/-- The effect of `evaluateEntry`: the adaptive engine is evaluated, and a kept signal leaves its
probability.
-/
def evaluateEntry (models : AcieModels σ) (service : EntryDecisionService)
    (stack : LearningStack σ) (roundId : String) (env : DecisionEnvironment)
    (ctx : EntryDecisionContext) (recent : List ACIERoundInput) : LearningStack σ :=
  if (ctx.isLive ∧ !env.readyForLive) ∨ !env.historyWarmed then stack
  else
    let seeded := stack.ensureAcieSeeded models recent
    if !enoughHistory env ctx then seeded
    else
      let evaluated := { seeded with acie := seeded.acie.evaluateNext models }
      match emission service env ctx roundId with
      | none => evaluated
      | some kept =>
          { evaluated with
            lastEmittedProbability := some kept.probability
            emissions := seeded.emissions ++ [kept] }

/-- `globalCalibrationState.observe`. -/
def observeCalibration (stack : LearningStack σ) (crash : ObservedCrash)
    (predicted : UnitProbability) (actual : Bool) : LearningStack σ :=
  { stack with
    calibration := stack.calibration.observe predicted.value actual "global"
    fed := stack.fed ++ [{ sink := .calibration, crash, predicted, actual }] }

/-- `globalProductionController.observeOutcome`; whether it throws. -/
def observeOutcome (stack : LearningStack σ) (crash : ObservedCrash)
    (predicted : UnitProbability) (actual : Bool) : LearningStack σ × Bool :=
  let (production, snapshot) := stack.production.observeOutcome (.finite predicted.value) actual
  ({ stack with
      production
      fed := stack.fed ++ [{ sink := .divergence, crash, predicted, actual }] },
    snapshot.isNone)

/-- `globalLiveDivergence.observe`; whether it throws. -/
def observeDivergence (stack : LearningStack σ) (crash : ObservedCrash)
    (predicted : UnitProbability) (actual : Bool) : LearningStack σ × Bool :=
  let (divergence, snapshot) :=
    stack.production.divergence.observe (.finite predicted.value) actual
  ({ stack with
      production := { stack.production with divergence }
      fed := stack.fed ++ [{ sink := .divergence, crash, predicted, actual }] },
    snapshot.isNone)

/-- `feedbackPredictionPipeline`; whether it throws. -/
def feedbackPredictionPipeline (stack : LearningStack σ) (crash : ObservedCrash)
    (predicted : UnitProbability) (actual : Bool) : LearningStack σ × Bool :=
  match stack.observeOutcome crash predicted actual with
  | (after, true) => (after, true)
  | (after, false) =>
      let calibrated := after.observeCalibration crash predicted actual
      ({ calibrated with drift := stack.drift.observe predicted.value actual }, false)

/-- The feedback of `observeCrash` with the last emitted probability, where it is positive. -/
def feedback (stack : LearningStack σ) (crash : ObservedCrash) : LearningStack σ × Bool :=
  match stack.lastEmittedProbability with
  | none => (stack, false)
  | some predicted =>
      if 0 < predicted.value then
        let actual := decide (.finite 1.3 ≤ crash.crashPoint)
        let calibrated := stack.observeCalibration crash predicted actual
        match calibrated.feedbackPredictionPipeline crash predicted actual with
        | (after, true) => (after, true)
        | (after, false) => after.observeDivergence crash predicted actual
      else (stack, false)

/-- `globalProductionController.status`, which evaluates the divergence monitor. -/
def status (stack : LearningStack σ) : LearningStack σ :=
  { stack with
    production := { stack.production with
      divergence := stack.production.divergence.evaluate.1 } }

/-- `acie.onCrash`. -/
def learnCrash (models : AcieModels σ) (stack : LearningStack σ) (crash : ObservedCrash)
    : LearningStack σ :=
  let (acie, outcome) := stack.acie.onCrash models ⟨crash.roundId, crash.crashPoint⟩
  { stack with
    acie
    learned := if outcome = .learned then stack.learned ++ [crash.roundId] else stack.learned }

/-- `observeCrash`. What its feedback throws is caught; the status is then not read. -/
def observeCrash (models : AcieModels σ) (stack : LearningStack σ) (crash : ObservedCrash)
    (recent : List ACIERoundInput) : LearningStack σ :=
  let seeded := stack.ensureAcieSeeded models recent
  let updated :=
    { seeded with
      incremental := seeded.incremental.update crash.crashPoint
      observed := seeded.observed ++ [crash] }
  let (fed, threw) := updated.feedback crash
  let reported := if threw then fed else fed.status
  let counted := { reported with crashCountForSnapshot := reported.crashCountForSnapshot + 1 }
  counted.learnCrash models crash

def next (models : AcieModels σ) (service : EntryDecisionService) (stack : LearningStack σ)
    : LearningEvent → LearningStack σ
  | .decide roundId env ctx recent => stack.evaluateEntry models service roundId env ctx recent
  | .crash delivery recent =>
      match delivery.observed with
      | none => stack
      | some crash => stack.observeCrash models crash recent
  | .heavyEvidence threw =>
      if stack.acie.heavyEvidenceScheduled then
        { stack with acie := stack.acie.runHeavyEvidence threw }
      else stack
  | .refit => { stack with calibration := stack.calibration.refit }
  | .evaluateDivergence => stack.status
  | .manualRecover confirm =>
      { stack with
        production := { stack.production with
          divergence := (stack.production.divergence.manualRecover confirm).1 } }

end LearningStack

end CrashWave.Prediction
