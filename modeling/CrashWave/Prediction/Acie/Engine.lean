import CrashWave.JavaScript.Number
import CrashWave.Prediction.Acie.OnlineState

/-! The adaptive engine: every crash is learned once, and heavy validation follows on the event
loop. Of an evaluation only what the next crash is learned with counts.
-/

namespace CrashWave.Acie

open JavaScript

/-- A completed round. -/
structure ACIERoundInput where
  roundId : String
  crashPoint : Number
  deriving DecidableEq

/-- What the engine predicted before an outcome, over the type of sequence states. -/
structure PredictionContext (σ : Type) where
  history : List ℚ
  sequenceState : σ
  regime : RegimeLabel
  regimeDuration : Nat
  psiProbability : ℚ

/-- A recorded outcome with the context it was predicted in. -/
structure SOLRecord (K σ : Type) where
  roundId : String
  crashPoint : K
  reached130 : Bool
  previousOutcomes : List K
  sequenceState : σ
  regime : RegimeLabel
  regimeDuration : Nat
  psiProbability : K
  probabilityResidual : K
  squaredError : K

/-- What the models estimate from. -/
structure ModelInput (σ : Type) where
  crashPoints : List ℚ
  sequenceState : σ
  regime : RegimeLabel
  history : List (SOLRecord ℚ σ)
  ensembleWeights : Map String ℚ
  ewmaHitRate : ℚ

/-- The estimates of the engine: sequence states, regimes, the probability of the ensemble with
those of its models, and the exponential.
-/
structure AcieModels (σ : Type) where
  computeSequenceState : List ℚ → σ
  detectRegime : σ → RegimeLabel
  estimateWithModels : ModelInput σ → ℚ × Map String ℚ
  exp : ℚ → ℚ

structure ACIEEngine (σ : Type) where
  maxInMemory : Nat := 5000
  heavyEvery : Number := 50
  ewmaAlpha : ℚ := 0.05
  records : List (SOLRecord ℚ σ) := []
  crashPoints : List ℚ := []
  online : OnlineAdaptiveState ℚ σ := {}
  consecutiveLosses : Nat := 0
  /-- The rounds that were learned, the one that was added first at the head. -/
  processedRoundIds : List String := []
  pendingContext : Option (PredictionContext σ) := none
  lastModelProbabilities : Map String ℚ := ∅
  pendingHeavyEvidence : Bool := false
  heavyEvidenceScheduled : Bool := false

/-- What `exportSnapshot` returns. -/
structure AcieSnapshot (σ : Type) where
  online : OnlineAdaptiveState ℚ σ
  crashPoints : List ℚ
  consecutiveLosses : Nat

/-- What the engine does with a crash. -/
inductive IngestOutcome where
  | duplicate
  | invalid
  | learned
  deriving DecidableEq

/-- The last `count` values, as `slice(-count)`. -/
def lastOf {α : Type} (count : Nat) (values : List α) : List α :=
  values.drop (values.length - count)

namespace ACIEEngine

variable {σ : Type}

/-- The effect of `buildEvaluation`: what the next outcome is learned with. -/
def buildEvaluation (models : AcieModels σ) (engine : ACIEEngine σ) : ACIEEngine σ :=
  let sequenceState := models.computeSequenceState engine.crashPoints
  let regime := models.detectRegime sequenceState
  let (estimatedProbability, modelProbabilities) :=
    models.estimateWithModels
      {
        crashPoints := engine.crashPoints
        sequenceState
        regime
        history := engine.records
        ensembleWeights := engine.online.ensembleWeights
        ewmaHitRate := engine.online.ewmaHitRate
      }
  { engine with
    lastModelProbabilities := modelProbabilities
    pendingContext :=
      some
        {
          history := lastOf 20 engine.crashPoints
          sequenceState
          regime
          regimeDuration := engine.online.regimeDuration
          psiProbability := estimatedProbability
        } }

/-- The context of an outcome that was not predicted. -/
def context (models : AcieModels σ) (engine : ACIEEngine σ) : PredictionContext σ :=
  engine.pendingContext.getD
    {
      history := lastOf 20 engine.crashPoints
      sequenceState := models.computeSequenceState engine.crashPoints
      regime := models.detectRegime (models.computeSequenceState engine.crashPoints)
      regimeDuration := engine.online.regimeDuration
      psiProbability := engine.online.lastPsiProbability
    }

/-- `sol.record`. -/
def solRecord (roundId : String) (crashPoint : ℚ) (context : PredictionContext σ)
    : SOLRecord ℚ σ :=
  let reached130 := decide (acieTarget ≤ crashPoint)
  let p := max 0 (min 1 context.psiProbability)
  let residual := p - if reached130 then 1 else 0
  {
    roundId
    crashPoint
    reached130
    previousOutcomes := lastOf 20 context.history
    sequenceState := context.sequenceState
    regime := context.regime
    regimeDuration := context.regimeDuration
    psiProbability := p
    probabilityResidual := residual
    squaredError := residual * residual
  }

/-- Sets a callback for the heavy evidence, unless one is set. -/
def scheduleHeavyEvidence (engine : ACIEEngine σ) : ACIEEngine σ :=
  if engine.heavyEvidenceScheduled || !engine.pendingHeavyEvidence then engine
  else { engine with heavyEvidenceScheduled := true }

/-- The callback; `threw` says whether the evidence engine threw. -/
def runHeavyEvidence (engine : ACIEEngine σ) (threw : Bool) : ACIEEngine σ :=
  let engine := { engine with heavyEvidenceScheduled := false }
  if !engine.pendingHeavyEvidence then engine
  else if threw then { engine with pendingHeavyEvidence := false }
  else
    { engine with
      pendingHeavyEvidence := false
      online := { engine.online with
        sinceHeavyValidation := 0
        lastHeavyValidationAt := engine.online.observationCount } }

/-- A round is remembered, and the oldest of more than 5000 forgotten. -/
def markProcessed (engine : ACIEEngine σ) (roundId : String) : ACIEEngine σ :=
  if roundId = "" then engine
  else
    let ids := engine.processedRoundIds ++ [roundId]
    { engine with processedRoundIds := if ids.length > 5000 then ids.drop 1 else ids }

/-- `ingestCrash` for a valid crash, up to the evaluation of the next round. -/
def learn (models : AcieModels σ) (engine : ACIEEngine σ) (roundId : String) (crashPoint : ℚ)
    : ACIEEngine σ :=
  let ctx := engine.context models
  let crashPoints := lastOf 2000 (engine.crashPoints ++ [crashPoint])
  let sequenceState := models.computeSequenceState crashPoints
  let online := engine.online.applyOnlineUpdate models.exp
    {
      crashPoint
      psiProbability := ctx.psiProbability
      modelProbabilities := engine.lastModelProbabilities
      sequenceState
      regime := models.detectRegime sequenceState
      alpha := engine.ewmaAlpha
    }
  let engine :=
    { engine with
      records := lastOf engine.maxInMemory (engine.records ++ [solRecord roundId crashPoint ctx])
      crashPoints
      consecutiveLosses := if crashPoint < acieTarget then engine.consecutiveLosses + 1 else 0
      online
      pendingContext := none }
  if engine.heavyEvery ≤ .finite online.sinceHeavyValidation then
    { engine with pendingHeavyEvidence := true }.scheduleHeavyEvidence
  else engine

/-- The next round is evaluated, unless the engine is being seeded. -/
def decideNext (models : AcieModels σ) (skipDecision : Bool) (engine : ACIEEngine σ)
    : ACIEEngine σ :=
  if skipDecision then engine else engine.buildEvaluation models

/-- `ingestCrash`, which throws at an invalid crash point after it has marked the round. -/
def ingestCrash (models : AcieModels σ) (engine : ACIEEngine σ) (round : ACIERoundInput)
    (skipDecision : Bool) : ACIEEngine σ × IngestOutcome :=
  if round.roundId ≠ "" ∧ round.roundId ∈ engine.processedRoundIds then
    (engine.decideNext models skipDecision, .duplicate)
  else
    let engine := engine.markProcessed round.roundId
    match round.crashPoint with
    | .finite crashPoint =>
        if crashPoint ≤ 0 then (engine, .invalid)
        else
          ((engine.learn models round.roundId crashPoint).decideNext models skipDecision,
            .learned)
    | .infinity _ | .nan => (engine, .invalid)

/-- `onCrash`. -/
def onCrash (models : AcieModels σ) (engine : ACIEEngine σ) (round : ACIERoundInput)
    : ACIEEngine σ × IngestOutcome :=
  engine.ingestCrash models round false

/-- `evaluateNext`. -/
def evaluateNext (models : AcieModels σ) (engine : ACIEEngine σ) : ACIEEngine σ :=
  engine.buildEvaluation models

/-- The loop of `seedHistory`, by recursion on the rounds, with the outcome for each of them up to
one that throws.
-/
def seedRounds (models : AcieModels σ) (engine : ACIEEngine σ)
    : List ACIERoundInput → ACIEEngine σ × List IngestOutcome
  | [] => (engine, [])
  | round :: rest =>
      let (after, outcome) := engine.ingestCrash models round true
      if outcome = .invalid then (after, [outcome])
      else
        let (seeded, outcomes) := after.seedRounds models rest
        (seeded, outcome :: outcomes)

/-- `seedHistory`, with the outcomes of its loop. -/
def seedHistory (models : AcieModels σ) (engine : ACIEEngine σ) (rounds : List ACIERoundInput)
    : ACIEEngine σ × List IngestOutcome :=
  let (seeded, outcomes) := engine.seedRounds models (lastOf 2000 rounds)
  (if .invalid ∈ outcomes then seeded else seeded.evaluateNext models, outcomes)

def exportSnapshot (engine : ACIEEngine σ) : AcieSnapshot σ where
  online := engine.online
  crashPoints := lastOf 2000 engine.crashPoints
  consecutiveLosses := engine.consecutiveLosses

/-- The rounds that a snapshot's crash points are seeded as. -/
def restoredRounds (crashPoints : List ℚ) : List ACIERoundInput :=
  crashPoints.zipIdx.map fun (crashPoint, index) => ⟨s!"restore-{index}", .finite crashPoint⟩

/-- `importSnapshot`; what a throwing seed leaves is left. -/
def importSnapshot (models : AcieModels σ) (engine : ACIEEngine σ) (crashPoints : List ℚ)
    (online : Option (OnlineAdaptiveState ℚ σ)) (consecutiveLosses : Option Nat)
    : ACIEEngine σ :=
  let (seeded, outcomes) :=
    if crashPoints = [] then (engine, [])
    else engine.seedHistory models (restoredRounds crashPoints)
  if .invalid ∈ outcomes then seeded
  else
    { seeded with
      online := online.getD seeded.online
      consecutiveLosses := consecutiveLosses.getD seeded.consecutiveLosses }

-----------------------------------------------------------------------------------------
-- Invariants
-----------------------------------------------------------------------------------------

section

variable {models : AcieModels σ} {engine : ACIEEngine σ} {invariant : ACIEEngine σ → Prop}

theorem decideNext_invariant
    (evaluated : ∀ engine, invariant engine → invariant (engine.buildEvaluation models))
    (holds : invariant engine) (skipDecision : Bool)
    : invariant (engine.decideNext models skipDecision) := by
  cases skipDecision
  · exact evaluated engine holds
  · exact holds

/-- What marking, learning and evaluating keep is kept when a round is ingested. -/
theorem ingestCrash_invariant
    (marked : ∀ engine roundId, invariant engine → invariant (engine.markProcessed roundId))
    (learned : ∀ engine roundId crashPoint, 0 < crashPoint → invariant engine →
      invariant (engine.learn models roundId crashPoint))
    (evaluated : ∀ engine, invariant engine → invariant (engine.buildEvaluation models))
    (holds : invariant engine) (round : ACIERoundInput) (skipDecision : Bool)
    : invariant (engine.ingestCrash models round skipDecision).1 := by
  have held := marked engine round.roundId holds
  unfold ingestCrash
  split
  · exact decideNext_invariant evaluated holds skipDecision
  · split
    · split
      · exact held
      · next above =>
          exact decideNext_invariant evaluated
            (learned _ round.roundId _ (not_le.mp above) held) skipDecision
    · exact held
    · exact held

/-- What ingesting the rounds keeps is kept by the loop over them, by induction on them. -/
theorem seedRounds_invariant {rounds : List ACIERoundInput}
    (ingested : ∀ round ∈ rounds, ∀ engine, invariant engine →
      invariant (engine.ingestCrash models round true).1)
    (holds : invariant engine)
    : invariant (engine.seedRounds models rounds).1 := by
  induction rounds generalizing engine with
  | nil => exact holds
  | cons round rest ih =>
      obtain ⟨first, later⟩ := List.forall_mem_cons.mp ingested
      have held := first engine holds
      simp only [seedRounds]
      split
      · exact held
      · exact ih later held

theorem seedHistory_invariant {rounds : List ACIERoundInput}
    (ingested : ∀ round ∈ lastOf 2000 rounds, ∀ engine, invariant engine →
      invariant (engine.ingestCrash models round true).1)
    (evaluated : ∀ engine, invariant engine → invariant (engine.buildEvaluation models))
    (holds : invariant engine)
    : invariant (engine.seedHistory models rounds).1 := by
  have seeded := seedRounds_invariant ingested holds
  simp only [seedHistory]
  generalize engine.seedRounds models (lastOf 2000 rounds) = result at seeded ⊢
  split
  · exact seeded
  · exact evaluated result.1 seeded

/-- The callback leaves what the crashes left, but for when the last heavy validation was. -/
theorem runHeavyEvidence_same (engine : ACIEEngine σ) (threw : Bool)
    : (engine.runHeavyEvidence threw).crashPoints = engine.crashPoints
      ∧ (engine.runHeavyEvidence threw).consecutiveLosses = engine.consecutiveLosses
      ∧ (engine.runHeavyEvidence threw).processedRoundIds = engine.processedRoundIds
      ∧ (engine.runHeavyEvidence threw).online.consecutiveBelow
        = engine.online.consecutiveBelow := by
  simp only [runHeavyEvidence]
  split
  · exact ⟨rfl, rfl, rfl, rfl⟩
  · split
    · exact ⟨rfl, rfl, rfl, rfl⟩
    · exact ⟨rfl, rfl, rfl, rfl⟩

end

end ACIEEngine

end CrashWave.Acie
