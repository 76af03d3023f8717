import Mathlib.Data.Rat.Floor
import Mathlib.Tactic.NormNum
import CrashWave.JavaScript.Map
import CrashWave.Prediction.IsotonicMonotonicity
import CrashWave.Rings.Basic

/-! The calibration state: the pairs that were observed, over all regimes and for each of them, in
rings of bounded size. Platt scaling is left out; the logarithms are the caller's.
-/

namespace CrashWave.Calibration

open JavaScript Isotonic Rings

structure ReliabilityBin where
  count : Nat := 0
  sumPredicted : ℚ := 0
  sumActual : Nat := 0
  deriving DecidableEq

structure RegimeCalibrator where
  isotonic : IsotonicCalibrator
  pairs : List (Option Pair)
  writeIdx : Nat
  pairCount : Nat
  bins : List ReliabilityBin
  brierSum : ℚ
  /-- The pairs of which `logLossSum` sums the losses. -/
  logLossTerms : List Pair
  n : Nat

structure CalibrationState where
  maxPairs : Nat
  maxRegimes : Nat
  refitEvery : Nat
  global : RegimeCalibrator
  byRegime : Map String RegimeCalibrator
  sinceRefit : Nat

/-- `Math.min(0.999, Math.max(0.001, rawProbability))`. -/
def clampProbability (rawProbability : ℚ) : ℚ := min 0.999 (max 0.001 rawProbability)

/-- The pair that is recorded for a probability. -/
def clampedPair (rawProbability : ℚ) (actual : Bool) : Pair where
  p := clampProbability rawProbability
  y := actual
  nonneg := le_min (by norm_num) (le_max_of_le_left (by norm_num))
  le_one := (min_le_left _ _).trans (by norm_num)

def emptyBins : List ReliabilityBin := List.replicate 10 {}

/-- `updateBin`. -/
def updateBin (bins : List ReliabilityBin) (pair : Pair) : List ReliabilityBin :=
  let p := clampProbability pair.p
  bins.modify (min (bins.length - 1) ⌊p * bins.length⌋.toNat) fun bin =>
    {
      count := bin.count + 1
      sumPredicted := bin.sumPredicted + p
      sumActual := bin.sumActual + if pair.y then 1 else 0
    }

def brierScore (pair : Pair) : ℚ := (pair.p - if pair.y then 1 else 0) ^ 2

def logLoss {K : Type} [Field K] (log : K → K) (pair : Pair) : K :=
  let p : K := (clampProbability pair.p : ℚ)
  if pair.y then -log p else -log (1 - p)

/-- The loop of `expectedCalibrationError`: the total and the error so far. -/
def addBin (sums : Nat × ℚ) (b : ReliabilityBin) : Nat × ℚ :=
  if b.count = 0 then sums
  else
    let conf := b.sumPredicted / b.count
    let acc : ℚ := b.sumActual / b.count
    (sums.1 + b.count, sums.2 + b.count * |conf - acc|)

def expectedCalibrationError (bins : List ReliabilityBin) : ℚ :=
  let (total, ece) := bins.foldl addBin (0, 0)
  if total > 0 then ece / total else 0

/-- What `metrics` returns; the logarithmic loss is a number of the field of the logarithm. -/
structure CalibrationMetrics (K : Type) where
  ece : ℚ
  brier : ℚ
  logLoss : K
  n : Nat
  version : String

namespace RegimeCalibrator

/-- `createRegime`. -/
def create (maxPairs : Nat) : RegimeCalibrator where
  isotonic := .new
  pairs := List.replicate maxPairs none
  writeIdx := 0
  pairCount := 0
  bins := emptyBins
  brierSum := 0
  logLossTerms := []
  n := 0

/-- `record`. -/
def record (c : RegimeCalibrator) (maxPairs : Nat) (pair : Pair) : RegimeCalibrator :=
  { c with
    pairs := c.pairs.set (c.writeIdx % maxPairs) (some pair)
    writeIdx := c.writeIdx + 1
    pairCount := if c.pairCount < maxPairs then c.pairCount + 1 else c.pairCount
    bins := updateBin c.bins pair
    brierSum := c.brierSum + brierScore pair
    logLossTerms := c.logLossTerms ++ [pair]
    n := c.n + 1 }

/-- `pairsArray`: the pairs that are held, the oldest one first. -/
def pairsArray (c : RegimeCalibrator) (maxPairs : Nat) : List Pair :=
  if c.pairCount = 0 then []
  else if c.pairCount < maxPairs then (c.pairs.take c.pairCount).filterMap id
  else (readFrom none maxPairs c.pairs (c.writeIdx % maxPairs) maxPairs).filterMap id

/-- `fitOne`. -/
def fitOne (c : RegimeCalibrator) (maxPairs : Nat) : RegimeCalibrator :=
  let pairs := c.pairsArray maxPairs
  if pairs.length < 20 then c
  else
    { c with
      bins := pairs.foldl updateBin emptyBins
      brierSum := (pairs.map brierScore).sum
      logLossTerms := pairs
      n := pairs.length
      isotonic := if 80 ≤ pairs.length then c.isotonic.fit pairs else c.isotonic }

/-- The metrics of a calibrator. -/
def metrics {K : Type} [Field K] (log : K → K) (c : RegimeCalibrator) : CalibrationMetrics K where
  ece := expectedCalibrationError c.bins
  brier := if c.n > 0 then c.brierSum / c.n else 0
  logLoss := if c.n > 0 then (c.logLossTerms.map (Calibration.logLoss log)).sum / c.n else 0
  n := if c.pairCount ≠ 0 then c.pairCount else c.n
  version := "cal-v2"

end RegimeCalibrator

namespace CalibrationState

/-- `new CalibrationState()`. -/
def new : CalibrationState where
  maxPairs := 2000
  maxRegimes := 32
  refitEvery := 500
  global := .create 2000
  byRegime := ∅
  sinceRefit := 0

/-- `new CalibrationState({ maxPairs, refitEvery, maxRegimes })`. -/
def withOptions (maxPairs maxRegimes refitEvery : Nat) : CalibrationState where
  maxPairs
  maxRegimes
  refitEvery
  global := .create maxPairs
  byRegime := ∅
  sinceRefit := 0

def refit (state : CalibrationState) : CalibrationState :=
  { state with
    global := state.global.fitOne state.maxPairs
    byRegime := state.byRegime.mapValues (·.fitOne state.maxPairs) }

/-- A regime with its pair; a new one may evict the regime that was added first. -/
def recordRegime (state : CalibrationState) (regime : String) (pair : Pair)
    : Map String RegimeCalibrator :=
  match state.byRegime.get regime with
  | some known => state.byRegime.set regime (known.record state.maxPairs pair)
  | none =>
      let kept :=
        match state.byRegime.entries with
        | (first, _) :: others =>
            if state.maxRegimes ≤ others.length + 1 then state.byRegime.delete first
            else state.byRegime
        | [] => state.byRegime
      kept.set regime ((RegimeCalibrator.create state.maxPairs).record state.maxPairs pair)

/-- `observe`. -/
def observe (state : CalibrationState) (rawProbability : ℚ) (actual : Bool) (regime : String)
    : CalibrationState :=
  let pair := clampedPair rawProbability actual
  let recorded :=
    { state with
      global := state.global.record state.maxPairs pair
      byRegime := if regime ≠ "global" then state.recordRegime regime pair else state.byRegime
      sinceRefit := state.sinceRefit + 1 }
  if state.refitEvery ≤ recorded.sinceRefit then { recorded.refit with sinceRefit := 0 }
  else recorded

/-- `metrics`: those of the regime, or over all regimes if it is not known. -/
def metrics {K : Type} [Field K] (log : K → K) (state : CalibrationState) (regime : String)
    : CalibrationMetrics K :=
  if regime = "global" then state.global.metrics log
  else ((state.byRegime.get regime).getD state.global).metrics log

end CalibrationState

-----------------------------------------------------------------------------------------
-- The pairs that are held
-----------------------------------------------------------------------------------------

/-- The calibrator holds the last pairs of those that were observed. -/
structure RegimeCalibrator.Records (c : RegimeCalibrator) (maxPairs : Nat) (observed : List Pair)
    : Prop where
  cells : Holds maxPairs c.pairs (observed.map some)
  writeIdx : c.writeIdx = observed.length
  pairCount : c.pairCount = held maxPairs observed.length

namespace RegimeCalibrator.Records

variable {c : RegimeCalibrator} {maxPairs : Nat} {observed : List Pair}

theorem create (maxPairs : Nat) : (RegimeCalibrator.create maxPairs).Records maxPairs [] where
  cells := holds_nil (List.length_replicate ..)
  writeIdx := rfl
  pairCount := by simp [RegimeCalibrator.create, held]

theorem record (records : c.Records maxPairs observed) (pair : Pair)
    : (c.record maxPairs pair).Records maxPairs (observed ++ [pair]) where
  cells := by
    have written := records.cells.write (some pair)
    rw [List.length_map] at written
    rw [List.map_append, RegimeCalibrator.record, records.writeIdx]
    exact written
  writeIdx := by simp [RegimeCalibrator.record, records.writeIdx]
  pairCount := by
    simp only [RegimeCalibrator.record, records.pairCount, held, List.length_append,
      List.length_singleton]
    split <;> omega

theorem fitOne (records : c.Records maxPairs observed)
    : (c.fitOne maxPairs).Records maxPairs observed := by
  unfold RegimeCalibrator.fitOne
  extract_lets pairs
  split
  · exact records
  · exact ⟨records.cells, records.writeIdx, records.pairCount⟩

/-- The first cells, as long as none was overwritten. -/
theorem take_pairs (records : c.Records maxPairs observed) (few : observed.length < maxPairs)
    : c.pairs.take observed.length = observed.map some := by
  refine List.ext_getElem? ?_
  intro index
  by_cases inside : index < observed.length
  · have cell := records.cells.cell index (by simpa using inside)
      (by simp only [List.length_map]; omega)
    rw [Nat.mod_eq_of_lt (by omega)] at cell
    rw [List.getElem?_take_of_lt inside, cell]
  · rw [List.getElem?_eq_none (by simp only [List.length_take]; omega),
      List.getElem?_eq_none (by simpa using inside)]

/-- What the calibrators are fitted to: the last pairs observed. -/
theorem pairsArray_eq (records : c.Records maxPairs observed)
    : c.pairsArray maxPairs = observed.drop (observed.length - maxPairs) := by
  unfold RegimeCalibrator.pairsArray
  rw [records.pairCount, records.writeIdx]
  split
  · next none =>
      rw [held] at none
      exact (List.drop_eq_nil_of_le (by omega)).symm
  · split
    · next few =>
        have few : observed.length < maxPairs := by
          rw [held] at few
          omega
        have all : held maxPairs observed.length = observed.length := by
          rw [held]
          omega
        rw [all, records.take_pairs few, Nat.sub_eq_zero_of_le few.le, List.drop_zero]
        simp [List.filterMap_map]
    · next full =>
        have many : maxPairs ≤ observed.length := by
          rw [held] at full
          omega
        have oldest : observed.length % maxPairs % maxPairs
            = (observed.length - maxPairs) % maxPairs := by
          rw [Nat.mod_mod]
          exact Nat.mod_eq_sub_mod many
        have read : readFrom none maxPairs c.pairs (observed.length % maxPairs) maxPairs = _ :=
          records.cells.readFrom_eq none oldest
            (by simp only [List.length_map]; omega) (by simp only [List.length_map]; omega)
        rw [read, List.take_of_length_le (by simp only [List.length_drop, List.length_map]; omega),
          ← List.map_drop]
        simp [List.filterMap_map]

end RegimeCalibrator.Records

@[simp] theorem CalibrationState.observe_maxPairs (state : CalibrationState)
    (rawProbability : ℚ) (actual : Bool) (regime : String)
    : (state.observe rawProbability actual regime).maxPairs = state.maxPairs := by
  simp only [CalibrationState.observe]
  split <;> rfl

/-- An observation is one more pair of those over all regimes. -/
theorem CalibrationState.observe_records {state : CalibrationState} {observed : List Pair}
    (records : state.global.Records state.maxPairs observed) (rawProbability : ℚ) (actual : Bool)
    (regime : String)
    : (state.observe rawProbability actual regime).global.Records state.maxPairs
        (observed ++ [clampedPair rawProbability actual]) := by
  have recorded := records.record (clampedPair rawProbability actual)
  simp only [CalibrationState.observe]
  split
  · exact recorded.fitOne
  · exact recorded

theorem CalibrationState.refit_records {state : CalibrationState} {observed : List Pair}
    (records : state.global.Records state.maxPairs observed)
    : state.refit.global.Records state.maxPairs observed :=
  records.fitOne

end CrashWave.Calibration
