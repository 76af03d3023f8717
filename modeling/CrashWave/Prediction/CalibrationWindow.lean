import Mathlib.Analysis.SpecialFunctions.Log.Basic
import CrashWave.JavaScript.RelatedMaps
import CrashWave.Prediction.CalibrationState
import CrashWave.Runs.Basic

/-! The calibration state against plain lists of the pairs that were observed: what it holds is a
window of them, and after a refit it reports the metrics of the window.
-/

namespace CrashWave.Calibration

open JavaScript Isotonic Rings Runs

/-- The last pairs that were observed, as many as are kept. -/
def window (maxPairs : Nat) (observed : List Pair) : List Pair :=
  observed.drop (observed.length - maxPairs)

/-- The metrics of some pairs. -/
def metricsOf {K : Type} [Field K] (log : K → K) (pairs : List Pair) : CalibrationMetrics K where
  ece := expectedCalibrationError (pairs.foldl updateBin emptyBins)
  brier := if pairs.length > 0 then (pairs.map brierScore).sum / pairs.length else 0
  logLoss := if pairs.length > 0 then (pairs.map (logLoss log)).sum / pairs.length else 0
  n := pairs.length
  version := "cal-v2"

-----------------------------------------------------------------------------------------
-- What was observed
-----------------------------------------------------------------------------------------

/-- All pairs that were observed, and for each regime of the table those since it came into it. -/
structure Observations where
  global : List Pair := []
  byRegime : Map String (List Pair) := ∅

inductive CalibrationCall where
  | observe (rawProbability : ℚ) (actual : Bool) (regime : String)
  | refit

namespace Observations

def after (maxRegimes : Nat) (observations : Observations) : CalibrationCall → Observations
  | .observe rawProbability actual regime =>
      let pair := clampedPair rawProbability actual
      let earlier := (observations.byRegime.get regime).getD []
      {
        global := observations.global ++ [pair]
        byRegime :=
          if regime ≠ "global" then
            observations.byRegime.setBounded maxRegimes regime (earlier ++ [pair])
          else observations.byRegime
      }
  | .refit => observations

/-- The pairs that the metrics of a regime are about. -/
def regarding (observations : Observations) (regime : String) : List Pair :=
  if regime = "global" then observations.global
  else (observations.byRegime.get regime).getD observations.global

end Observations

def CalibrationState.after (state : CalibrationState) : CalibrationCall → CalibrationState
  | .observe rawProbability actual regime => state.observe rawProbability actual regime
  | .refit => state.refit

/-- The call refits the calibrators. -/
def Refits (state : CalibrationState) : CalibrationCall → Prop
  | .observe .. => state.refitEvery ≤ state.sinceRefit + 1
  | .refit => True

/-- The calibrators hold the windows of what was observed. -/
structure WindowLaw (maxPairs : Nat) (state : CalibrationState) (observations : Observations)
    : Prop where
  global : state.global.pairsArray maxPairs = window maxPairs observations.global
  byRegime : ∀ regime,
    (state.byRegime.get regime).map (·.pairsArray maxPairs)
      = (observations.byRegime.get regime).map (window maxPairs)

/-- The metrics are those of the windows. -/
def MetricsLaw {K : Type} [Field K] (log : K → K) (maxPairs : Nat) (state : CalibrationState)
    (observations : Observations) : Prop :=
  ∀ regime, state.metrics log regime
    = metricsOf log (window maxPairs (observations.regarding regime))

-----------------------------------------------------------------------------------------
-- One calibrator
-----------------------------------------------------------------------------------------

/-- The calibrator holds the last pairs observed; its sums are those of the pairs that it counts,
which are all that were observed as long as these are too few for a refit.
-/
structure Tracks (maxPairs : Nat) (c : RegimeCalibrator) (observed : List Pair) : Prop where
  records : c.Records maxPairs observed
  bins : c.bins = c.logLossTerms.foldl updateBin emptyBins
  brierSum : c.brierSum = (c.logLossTerms.map brierScore).sum
  n : c.n = c.logLossTerms.length
  few : observed.length < 20 → c.logLossTerms = observed

namespace Tracks

variable {maxPairs : Nat} {c : RegimeCalibrator} {observed : List Pair}

theorem create (maxPairs : Nat) : Tracks maxPairs (.create maxPairs) [] where
  records := .create maxPairs
  bins := rfl
  brierSum := rfl
  n := rfl
  few := fun _ => rfl

theorem pairsArray (tracks : Tracks maxPairs c observed)
    : c.pairsArray maxPairs = window maxPairs observed :=
  tracks.records.pairsArray_eq

theorem record (tracks : Tracks maxPairs c observed) (pair : Pair)
    : Tracks maxPairs (c.record maxPairs pair) (observed ++ [pair]) where
  records := tracks.records.record pair
  bins := by simp [RegimeCalibrator.record, tracks.bins]
  brierSum := by simp [RegimeCalibrator.record, tracks.brierSum]
  n := by simp [RegimeCalibrator.record, tracks.n]
  few := by
    intro few
    rw [List.length_append, List.length_singleton] at few
    rw [RegimeCalibrator.record, tracks.few (by omega)]

theorem length_window (maxPairs : Nat) (observed : List Pair)
    : (window maxPairs observed).length = min observed.length maxPairs := by
  rw [window, List.length_drop]
  omega

/-- A refit, after which the calibrator counts the pairs of the window, if that has room for as
many as a refit asks for.
-/
theorem fitOne (tracks : Tracks maxPairs c observed)
    : Tracks maxPairs (c.fitOne maxPairs) observed
      ∧ (20 ≤ maxPairs → (c.fitOne maxPairs).logLossTerms = window maxPairs observed) := by
  have kept := tracks.records.fitOne
  have length := length_window maxPairs observed
  unfold RegimeCalibrator.fitOne at kept ⊢
  simp only [tracks.pairsArray] at kept ⊢
  split
  · next few =>
      -- Too few pairs are all that were observed, and all are counted.
      refine ⟨tracks, fun enough => ?_⟩
      rw [tracks.few (by omega), window, Nat.sub_eq_zero_of_le (by omega), List.drop_zero]
  · next many =>
      rw [if_neg many] at kept
      exact ⟨⟨kept, rfl, rfl, rfl, fun few => absurd few (by omega)⟩, fun _ => rfl⟩

/-- A calibrator that counts the pairs of the window reports its metrics. -/
theorem metrics_eq {K : Type} [Field K] (log : K → K) (tracks : Tracks maxPairs c observed)
    (counted : c.logLossTerms = window maxPairs observed)
    : c.metrics log = metricsOf log (window maxPairs observed) := by
  have n := tracks.n
  have count : c.pairCount = (window maxPairs observed).length := by
    rw [tracks.records.pairCount, length_window, held]
  rw [counted] at n
  simp only [RegimeCalibrator.metrics, metricsOf, tracks.bins, tracks.brierSum, counted, n, count,
    ite_self]

end Tracks

-----------------------------------------------------------------------------------------
-- The state
-----------------------------------------------------------------------------------------

/-- Every calibrator of the state tracks what was observed for it. -/
structure StateTracks (state : CalibrationState) (observations : Observations) : Prop where
  global : Tracks state.maxPairs state.global observations.global
  byRegime : Map.Related (Tracks state.maxPairs) state.byRegime observations.byRegime
  table : 0 < state.maxRegimes → state.byRegime.entries.length ≤ state.maxRegimes

namespace StateTracks

variable {state : CalibrationState} {observations : Observations}

theorem initial (maxPairs maxRegimes refitEvery : Nat)
    : StateTracks (.withOptions maxPairs maxRegimes refitEvery) {} where
  global := .create maxPairs
  byRegime := Map.related_empty
  table := fun _ => Nat.zero_le _

theorem windowLaw (tracks : StateTracks state observations)
    : WindowLaw state.maxPairs state observations where
  global := tracks.global.pairsArray
  byRegime := by
    intro regime
    rcases tracks.byRegime.get_cases regime with
      ⟨lacks, lacks'⟩ | ⟨c, observed, known, known', held⟩
    · rw [lacks, lacks']
      rfl
    · rw [known, known']
      exact congrArg some held.pairsArray

/-- The calibrator of a regime, or a new one, with a pair. -/
theorem recordRegime_eq (state : CalibrationState) (regime : String) (pair : Pair)
    : state.recordRegime regime pair
      = state.byRegime.setBounded state.maxRegimes regime
          (((state.byRegime.get regime).getD (.create state.maxPairs)).record state.maxPairs
            pair) := by
  unfold CalibrationState.recordRegime Map.setBounded
  cases state.byRegime.get regime with
  | none =>
      rw [if_pos rfl, Map.evictFirst]
      cases state.byRegime.entries <;> rfl
  | some known =>
      rw [if_neg (Option.some_ne_none known)]
      rfl

/-- A regime with one more pair. -/
theorem recordRegime (tracks : StateTracks state observations) (regime : String) (pair : Pair)
    : Map.Related (Tracks state.maxPairs) (state.recordRegime regime pair)
        (observations.byRegime.setBounded state.maxRegimes regime
          ((observations.byRegime.get regime).getD [] ++ [pair])) := by
  rw [recordRegime_eq]
  refine tracks.byRegime.setBounded state.maxRegimes regime ?_
  refine Tracks.record ?_ pair
  rcases tracks.byRegime.get_cases regime with ⟨lacks, lacks'⟩ | ⟨c, observed, known, known', held⟩
  · rw [lacks, lacks']
    exact .create state.maxPairs
  · rw [known, known']
    exact held

/-- A refit keeps track, and leaves the metrics of the windows. -/
theorem refit {K : Type} [Field K] (log : K → K) (tracks : StateTracks state observations)
    : StateTracks state.refit observations
      ∧ (20 ≤ state.maxPairs → MetricsLaw log state.maxPairs state.refit observations) := by
  obtain ⟨global, counted⟩ := tracks.global.fitOne
  refine ⟨⟨global, ?_, ?_⟩, ?_⟩
  · exact tracks.byRegime.mapValues fun _ _ held => held.fitOne.1
  · simpa [CalibrationState.refit, Map.mapValues] using tracks.table
  · intro enough regime
    have whole := global.metrics_eq log (counted enough)
    unfold CalibrationState.metrics Observations.regarding
    by_cases all : regime = "global"
    · rw [if_pos all, if_pos all]
      exact whole
    · rw [if_neg all, if_neg all]
      simp only [CalibrationState.refit, Map.get_mapValues]
      rcases tracks.byRegime.get_cases regime with
        ⟨lacks, lacks'⟩ | ⟨c, observed, known, known', held⟩
      · rw [lacks, lacks']
        exact whole
      · obtain ⟨refitted, terms⟩ := held.fitOne
        rw [known, known']
        exact refitted.metrics_eq log (terms enough)

/-- Every call keeps track; and if it refits, it leaves the metrics of the windows. -/
theorem after {K : Type} [Field K] (log : K → K) (tracks : StateTracks state observations)
    (call : CalibrationCall)
    : StateTracks (state.after call) (observations.after state.maxRegimes call)
      ∧ (20 ≤ state.maxPairs → Refits state call →
          MetricsLaw log state.maxPairs (state.after call)
            (observations.after state.maxRegimes call)) := by
  cases call with
  | refit =>
      obtain ⟨kept, metrics⟩ := tracks.refit log
      exact ⟨kept, fun enough _ => metrics enough⟩
  | observe rawProbability actual regime =>
      let pair := clampedPair rawProbability actual
      let recorded : CalibrationState :=
        { state with
          global := state.global.record state.maxPairs pair
          byRegime :=
            if regime ≠ "global" then state.recordRegime regime pair else state.byRegime
          sinceRefit := state.sinceRefit + 1 }
      have next : StateTracks recorded
          (observations.after state.maxRegimes (.observe rawProbability actual regime)) := by
        refine ⟨tracks.global.record pair, ?_, ?_⟩
        · simp only [recorded, Observations.after]
          split
          · exact tracks.recordRegime regime pair
          · exact tracks.byRegime
        · intro positive
          simp only [recorded]
          split
          · rw [recordRegime_eq]
            exact Map.length_setBounded_le positive (tracks.table positive) _ _
          · exact tracks.table positive
      simp only [CalibrationState.after, CalibrationState.observe, Refits]
      by_cases refits : state.refitEvery ≤ state.sinceRefit + 1
      · rw [if_pos refits]
        obtain ⟨kept, metrics⟩ := next.refit log
        exact ⟨⟨kept.global, kept.byRegime, kept.table⟩, fun enough _ => metrics enough⟩
      · rw [if_neg refits]
        exact ⟨next, fun _ asked => absurd asked refits⟩

theorem options_after (state : CalibrationState) (call : CalibrationCall)
    : (state.after call).maxPairs = state.maxPairs
      ∧ (state.after call).maxRegimes = state.maxRegimes := by
  cases call with
  | refit => exact ⟨rfl, rfl⟩
  | observe rawProbability actual regime =>
      simp only [CalibrationState.after, CalibrationState.observe]
      split <;> exact ⟨rfl, rfl⟩

end StateTracks

-----------------------------------------------------------------------------------------
-- Runs
-----------------------------------------------------------------------------------------

/-- A run keeps track, by induction on its calls. -/
theorem stateTracks_run {state : CalibrationState} {observations : Observations}
    (tracks : StateTracks state observations) (calls : List CalibrationCall)
    : StateTracks (run CalibrationState.after state calls)
        (run (Observations.after state.maxRegimes) observations calls) := by
  induction calls generalizing state observations with
  | nil => exact tracks
  | cons call rest ih =>
      have next := (tracks.after (id : ℚ → ℚ) call).1
      have later := ih next
      rwa [(StateTracks.options_after state call).2] at later

end CrashWave.Calibration
