import CrashWave.Prediction.Acie.SequenceIntelligence
import CrashWave.Prediction.ProcessedRounds

/-! The streak of crashes below the target, which the engine and its online state count and the
pattern learner reads off the crash points: all three agree.
-/

namespace CrashWave.Acie

open JavaScript Persisted Runs

-----------------------------------------------------------------------------------------
-- The streak that is read off the crash points
-----------------------------------------------------------------------------------------

section

variable {K : Type} [Field K] [LinearOrder K]

/-- The crash points since the last one that reached the target, given the last one first. -/
def below (newestFirst : List K) : List K := newestFirst.takeWhile fun c => decide (c < acieTarget)

/-- Once a crash that reached the target is counted, none below it is: by induction. -/
theorem streaks_above {above : Nat} (some : 0 < above) (newestFirst : List K)
    : (streaks 0 above newestFirst).1 = 0 := by
  induction newestFirst generalizing above with
  | nil => rfl
  | cons crashPoint older ih =>
      unfold streaks
      by_cases low : crashPoint < acieTarget
      · rw [if_pos low, if_pos some]
      · rw [if_neg low, if_neg (Nat.lt_irrefl 0)]
        exact ih (Nat.succ_pos above)

/-- The streak below the target goes as far as no crash reached it, by induction. -/
theorem streaks_below (count : Nat) (newestFirst : List K)
    : (streaks count 0 newestFirst).1 = count + (below newestFirst).length := by
  induction newestFirst generalizing count with
  | nil => rfl
  | cons crashPoint older ih =>
      unfold streaks
      by_cases low : crashPoint < acieTarget
      · rw [if_pos low, if_neg (Nat.lt_irrefl 0), ih, below, below,
          List.takeWhile_cons_of_pos (by simpa using low), List.length_cons]
        omega
      · rw [if_neg low, below, List.takeWhile_cons_of_neg (by simpa using low), List.length_nil]
        split
        · rfl
        · next none =>
            rw [Nat.eq_zero_of_not_pos none]
            exact streaks_above Nat.zero_lt_one older

theorem currentStreakBelow130_eq (functions : MathFunctions K) (crashPoints : List K)
    : (TemporalPatternLearner.computeSequenceState functions crashPoints).currentStreakBelow130
      = (below crashPoints.reverse).length := by
  have counted := streaks_below 0 crashPoints.reverse
  rw [Nat.zero_add] at counted
  exact counted

/-- The streak of the last crash points is the streak of all, as far as they go back. -/
theorem below_lastOf (count : Nat) (crashPoints : List K)
    : below (lastOf count crashPoints).reverse = (below crashPoints.reverse).take count := by
  rw [lastOf, ← List.take_reverse, below, below, List.take_takeWhile]

theorem below_concat (crashPoints : List K) (crashPoint : K)
    : below (crashPoints ++ [crashPoint]).reverse
      = if crashPoint < acieTarget then crashPoint :: below crashPoints.reverse else [] := by
  rw [List.reverse_concat, below, List.takeWhile_cons]
  simp [below]

end

-----------------------------------------------------------------------------------------
-- The three streaks
-----------------------------------------------------------------------------------------

/-- The online state counts the losses of the engine, and the pattern learner reads as many off the
crash points as these hold.
-/
structure StreaksAgree (functions : MathFunctions ℚ) (engine : ACIEEngine (SequenceState ℚ))
    : Prop where
  online : engine.online.consecutiveBelow = engine.consecutiveLosses
  learner :
    (TemporalPatternLearner.computeSequenceState functions engine.crashPoints).currentStreakBelow130
      = min engine.consecutiveLosses 2000

namespace StreaksAgree

variable {functions : MathFunctions ℚ} {engine : ACIEEngine (SequenceState ℚ)}

theorem congr {other : ACIEEngine (SequenceState ℚ)} (agree : StreaksAgree functions engine)
    (counted : other.online.consecutiveBelow = engine.online.consecutiveBelow)
    (losses : other.consecutiveLosses = engine.consecutiveLosses)
    (points : other.crashPoints = engine.crashPoints)
    : StreaksAgree functions other where
  online := by rw [counted, losses, agree.online]
  learner := by rw [points, losses, agree.learner]

/-- How the two counters go on: both count a crash below the target, and start again at others. -/
theorem learn_counters {σ : Type} (models : AcieModels σ) (engine : ACIEEngine σ)
    (roundId : String) (crashPoint : ℚ)
    : (engine.learn models roundId crashPoint).consecutiveLosses
        = (if crashPoint < acieTarget then engine.consecutiveLosses + 1 else 0)
      ∧ (engine.learn models roundId crashPoint).online.consecutiveBelow
        = if crashPoint < acieTarget then engine.online.consecutiveBelow + 1 else 0 := by
  have counted (params : OnlineUpdate ℚ σ) (same : params.crashPoint = crashPoint)
      : (engine.online.applyOnlineUpdate models.exp params).consecutiveBelow
        = if crashPoint < acieTarget then engine.online.consecutiveBelow + 1 else 0 := by
    simp only [OnlineAdaptiveState.applyOnlineUpdate, same, decide_eq_true_eq]
    by_cases low : crashPoint < acieTarget
    · rw [if_pos low, if_neg (not_le.mpr low)]
    · rw [if_neg low, if_pos (not_lt.mp low)]
  simp only [ACIEEngine.learn, ACIEEngine.scheduleHeavyEvidence]
  split
  · split
    · exact ⟨rfl, counted _ rfl⟩
    · exact ⟨rfl, counted _ rfl⟩
  · exact ⟨rfl, counted _ rfl⟩

/-- Learning a crash keeps the agreement. -/
theorem learn (agree : StreaksAgree functions engine) (models : AcieModels (SequenceState ℚ))
    (roundId : String) (crashPoint : ℚ)
    : StreaksAgree functions (engine.learn models roundId crashPoint) := by
  obtain ⟨losses, counted⟩ := learn_counters models engine roundId crashPoint
  obtain ⟨-, points, -⟩ := Seeded.learn_fields models engine roundId crashPoint
  have streak := agree.learner
  rw [currentStreakBelow130_eq] at streak
  constructor
  · rw [losses, counted, agree.online]
  · rw [currentStreakBelow130_eq, points, below_lastOf, below_concat, losses, List.length_take]
    by_cases low : crashPoint < acieTarget
    · rw [if_pos low, if_pos low, List.length_cons, streak]
      omega
    · rw [if_neg low, if_neg low]
      rfl

theorem ingestCrash (agree : StreaksAgree functions engine)
    (models : AcieModels (SequenceState ℚ)) (round : ACIERoundInput) (skipDecision : Bool)
    : StreaksAgree functions (engine.ingestCrash models round skipDecision).1 := by
  refine ACIEEngine.ingestCrash_invariant ?_ ?_ ?_ agree round skipDecision
  · intro engine roundId held
    obtain ⟨ids, same⟩ := Seeded.markProcessed_eq engine roundId
    rw [same]
    exact held.congr rfl rfl rfl
  · exact fun _ roundId crashPoint _ held => held.learn models roundId crashPoint
  · exact fun _ held => held.congr rfl rfl rfl

/-- Every event keeps the agreement. -/
theorem after (agree : StreaksAgree functions engine) (models : AcieModels (SequenceState ℚ))
    (event : EngineEvent)
    : StreaksAgree functions (engine.after models event) := by
  cases event with
  | ingestCrash round skipDecision => exact agree.ingestCrash models round skipDecision
  | seedHistory rounds =>
      refine ACIEEngine.seedHistory_invariant ?_ ?_ agree
      · exact fun round _ _ held => held.ingestCrash models round true
      · exact fun _ held => held.congr rfl rfl rfl
  | evaluateNext => exact agree.congr rfl rfl rfl
  | heavyEvidence threw =>
      obtain ⟨points, losses, -, counted⟩ := engine.runHeavyEvidence_same threw
      simp only [ACIEEngine.after, settledEngine]
      split
      · exact agree.congr counted losses points
      · exact agree

end StreaksAgree

/-- After every sequence of seeded and ingested crashes, evaluations and validations, the streak
that the engine counts is the one of its online state, and the pattern learner's up to the 2000
crash points that are kept.
-/
theorem streaks_agree (functions : MathFunctions ℚ) (maxInMemory : Nat) (heavyEvery : Number)
    (ewmaAlpha : ℚ) (events : List EngineEvent)
    : StreaksAgree functions
        (run (ACIEEngine.after (acieModels functions))
          (freshEngine maxInMemory heavyEvery ewmaAlpha) events) :=
  run_invariant (fun _ event agree => agree.after (acieModels functions) event) events
    ⟨rfl, rfl⟩

end CrashWave.Acie
