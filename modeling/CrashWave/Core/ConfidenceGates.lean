import CrashWave.Core.LiveRiskAgreement
import CrashWave.Core.StateMachine.Guards

/-! The confidence of an observation at the two gates of an entry: the guard of the state machine
asks for the configured minimum, the risk engine for a high confidence.
-/

namespace CrashWave.Core

open CrashWave.Betting CrashWave.StateMachine JavaScript

/-- The confidence that both gates read; no round counts as low. -/
def observedConfidence (roundState : Option RoundState) : ObservationConfidence :=
  (roundState.map (·.confidence)).getD .low

/-- The gates say the same of the confidence of the context's round. -/
def ConfidenceGatesAgree (circuitOpen : Bool) (now : Number) (input : RiskEvaluationInput)
    (ctx : StateMachineContext) : Prop :=
  let judged := evaluateRisk circuitOpen now { input with roundState := ctx.roundState }
  judged.conditions.observationConfidenceHigh = true ↔ guardObservationConfidence ctx = .permitted

theorem guardObservationConfidence_eq_permitted {ctx : StateMachineContext}
    : guardObservationConfidence ctx = .permitted
      ↔ ctx.minConfidenceForEntry.level ≤ (observedConfidence ctx.roundState).level := by
  simp [guardObservationConfidence, observedConfidence]

/-- The risk engine does not read the minimum of its input. -/
theorem observationConfidenceHigh_iff {circuitOpen : Bool} {now : Number}
    {input : RiskEvaluationInput}
    : (evaluateRisk circuitOpen now input).conditions.observationConfidenceHigh = true
      ↔ observedConfidence input.roundState = .high := by
  rw [evaluateRisk_conditions]
  exact decide_eq_true_iff

/-- No confidence is above a high one. -/
theorem ObservationConfidence.level_le_high (confidence : ObservationConfidence)
    : confidence.level ≤ ObservationConfidence.high.level := by
  cases confidence <;> decide

/-- The gates agree exactly when the observation is of high confidence, or below the configured
minimum.
-/
theorem confidence_gates_agree_iff (circuitOpen : Bool) (now : Number)
    (input : RiskEvaluationInput) (ctx : StateMachineContext)
    : ConfidenceGatesAgree circuitOpen now input ctx
      ↔ observedConfidence ctx.roundState = .high
        ∨ (observedConfidence ctx.roundState).level < ctx.minConfidenceForEntry.level := by
  rw [ConfidenceGatesAgree, observationConfidenceHigh_iff,
    guardObservationConfidence_eq_permitted]
  constructor
  · intro agree
    rcases Nat.lt_or_ge (observedConfidence ctx.roundState).level
        ctx.minConfidenceForEntry.level with below | reached
    · exact .inr below
    · exact .inl (agree.mpr reached)
  · intro decided
    rcases decided with high | below
    · rw [high]
      exact iff_of_true rfl (ObservationConfidence.level_le_high _)
    · refine iff_of_false ?_ (by omega)
      intro high
      rw [high] at below
      have := ObservationConfidence.level_le_high ctx.minConfidenceForEntry
      omega

/-- Under the default minimum of the configuration, a round of medium confidence passes the
guard and fails in the risk engine.
-/
theorem medium_confidence_disagrees
    : let ctx := createDefaultContext "s1"
        { minConfidenceForEntry := some .medium
          roundState := some (some (.starting "r1" .medium)) }
      ¬ ConfidenceGatesAgree false 9000 (buildRiskInput liveDeps "r1") ctx := by
  intro ctx agree
  have rejected : observedConfidence ctx.roundState ≠ .high := by decide
  have passed : guardObservationConfidence ctx = .permitted := by decide
  exact rejected (observationConfidenceHigh_iff.mp (agree.mpr passed))

/-- Every round that the live bridge enters is one of these: it states a medium confidence and
a medium minimum.
-/
theorem liveBridge_confidence_disagrees (circuitOpen : Bool) (now : Number)
    (deps : LiveRoundDeps) (roundId : String) (ctx : StateMachineContext)
    : ¬ ConfidenceGatesAgree circuitOpen now (buildRiskInput deps roundId)
        { ctx with
          roundState := (buildRiskInput deps roundId).roundState
          minConfidenceForEntry := .medium } := by
  intro agree
  have passed := agree.mpr (guardObservationConfidence_eq_permitted.mpr le_rfl)
  have high := observationConfidenceHigh_iff.mp passed
  cases high

end CrashWave.Core
