import CrashWave.Mixtures.Basic
import CrashWave.Prediction.Datasets
import Mathlib.Algebra.Order.BigOperators.Group.List
import Mathlib.Algebra.Order.Field.Basic
import Mathlib.Tactic.Linarith

/-! How the forecasts of a model are judged: the counts of hits and misses, and how far the
forecasts are from the outcomes, one by one and bin by bin.
-/

namespace CrashWave.Datasets

open JavaScript Mixtures

-----------------------------------------------------------------------------------------
-- Bins
-----------------------------------------------------------------------------------------

/-- What a bin sums up: its forecasts, their outcomes and how many they are. -/
structure Bin where
  sumP : ℚ := 0
  sumA : ℚ := 0
  count : Nat := 0
  deriving DecidableEq

namespace Bin

def add (bin : Bin) (p a : ℚ) : Bin where
  sumP := bin.sumP + p
  sumA := bin.sumA + a
  count := bin.count + 1

/-- How far the forecasts of a bin and their outcomes are apart in sum. -/
def apart (bin : Bin) : ℚ := |bin.sumP - bin.sumA|

theorem apart_add_le (bin : Bin) (p a : ℚ) : (bin.add p a).apart ≤ bin.apart + |p - a| := by
  have split : (bin.add p a).sumP - (bin.add p a).sumA = (bin.sumP - bin.sumA) + (p - a) := by
    simp only [add]
    ring
  rw [apart, split]
  exact abs_add_le _ _

end Bin

structure ReliabilityBin where
  binLower : ℚ
  binUpper : ℚ
  count : Nat
  meanPredicted : ℚ
  meanActual : ℚ
  gap : ℚ
  deriving DecidableEq

structure CalibrationReport where
  brierScore : ℚ
  expectedCalibrationError : ℚ
  meanAbsoluteError : ℚ
  reliabilityBins : List ReliabilityBin
  deriving DecidableEq

/-- The sums of the loop. -/
structure Sums where
  brierSum : ℚ := 0
  absSum : ℚ := 0
  bins : List Bin
  deriving DecidableEq

/-- `Math.max(0, Math.min(1, probability))`. -/
def clamp (probability : Number) : Number := Number.max 0 (Number.min 1 probability)

/-- The bin of a forecast. -/
def binIdx (numBins : Nat) (p : ℚ) : Nat := min (numBins - 1) ⌊p * numBins⌋.toNat

/-- The turn of the loop; a forecast that is no number has no bin. -/
def Sums.turn (numBins : Nat) (sums : Sums) (forecast : Number × Number) : Except String Sums :=
  match clamp forecast.1, sums.bins[0]? with
  | .finite p, some _ =>
      let a : ℚ := if forecast.2 = 1 then 1 else 0
      .ok {
        brierSum := sums.brierSum + (p - a) ^ 2
        absSum := sums.absSum + |p - a|
        bins := sums.bins.modify (binIdx numBins p) fun bin => bin.add p a }
  | _, _ => .error "Cannot read properties of undefined (reading 'sumP')"

def reliabilityBin (numBins : Nat) (bin : Bin) (i : Nat) : ReliabilityBin :=
  let meanPredicted := bin.sumP / bin.count
  let meanActual := bin.sumA / bin.count
  if bin.count = 0 then
    { binLower := i / numBins, binUpper := (i + 1 : Nat) / numBins, count := 0,
      meanPredicted := 0, meanActual := 0, gap := 0 }
  else
    { binLower := i / numBins, binUpper := (i + 1 : Nat) / numBins, count := bin.count,
      meanPredicted, meanActual, gap := |meanPredicted - meanActual| }

/-- The report on the sums of a loop. -/
def Sums.report (numBins : Nat) (sums : Sums) (n : Nat) : CalibrationReport :=
  let reliabilityBins := sums.bins.zipIdx.map fun entry => reliabilityBin numBins entry.1 entry.2
  { brierScore := sums.brierSum / n
    expectedCalibrationError :=
      (reliabilityBins.map fun bin => (bin.count / n : ℚ) * bin.gap).sum
    meanAbsoluteError := sums.absSum / n
    reliabilityBins }

def computeCalibration (probabilities actuals : List Number) (numBins : Nat)
    : Except String CalibrationReport := do
  let n := min probabilities.length actuals.length
  if n = 0 then
    return { brierScore := 0, expectedCalibrationError := 0, meanAbsoluteError := 0,
             reliabilityBins := [] }
  let sums ← (probabilities.zip actuals).foldlM (Sums.turn numBins)
    { bins := List.replicate numBins {} }
  return sums.report numBins n

-----------------------------------------------------------------------------------------
-- Hits and misses
-----------------------------------------------------------------------------------------

structure ValidationMetrics where
  sampleSize : Nat
  baselineProbability : ℚ
  conditionalProbability : ℚ
  precision : ℚ
  «recall» : ℚ
  f1 : ℚ
  falsePositiveRate : ℚ
  falseNegativeRate : ℚ
  calibrationError : ℚ
  confidenceInterval95 : Number × Number
  brierScore : ℚ
  expectedCalibrationError : ℚ
  deriving DecidableEq

def emptyMetrics : ValidationMetrics where
  sampleSize := 0
  baselineProbability := 0
  conditionalProbability := 0
  precision := 0
  «recall» := 0
  f1 := 0
  falsePositiveRate := 0
  falseNegativeRate := 0
  calibrationError := 0
  confidenceInterval95 := (0, 0)
  brierScore := 0
  expectedCalibrationError := 0

/-- A share, which is zero of nothing. -/
def share (part whole : Nat) : ℚ := if 0 < whole then part / whole else 0

def wilsonInterval (platform : Platform) (successes total : Nat) : Number × Number :=
  if total = 0 then (0, 0)
  else
    let z : ℚ := 1.96
    let p : ℚ := successes / total
    let denom := 1 + z * z / total
    let centre := p + z * z / (2 * total)
    let margin := .finite z
      * platform.sqrt (.finite ((p * (1 - p) + z * z / (4 * total)) / total))
    (Number.max 0 ((.finite centre - margin) / .finite denom),
      Number.min 1 ((.finite centre + margin) / .finite denom))

/-- The label of a row for a target, or none of them. -/
def actual (platform : Platform) (target : Number) (row : DatasetRow) : Nat :=
  (row.label.thresholds.get (platform.toFixed target 2)).getD 0

/-- A forecast as it is judged: whether it says yes, and the label. -/
def judged (platform : Platform) (target decisionThreshold : Number)
    (forecast : Number × DatasetRow) : Bool × Nat :=
  (decide (decisionThreshold ≤ forecast.1), actual platform target forecast.2)

/-- The cells that forecasts fall into; whatever is in no other is a false negative. -/
structure Confusion where
  tp : Nat
  fp : Nat
  tn : Nat
  fn : Nat
  deriving DecidableEq

def confusion (results : List (Bool × Nat)) : Confusion where
  tp := results.countP fun result => result.1 && result.2 = 1
  fp := results.countP fun result => result.1 && result.2 = 0
  tn := results.countP fun result => !result.1 && result.2 = 0
  fn := results.countP fun result =>
    !((result.1 && result.2 = 1) || (result.1 && result.2 = 0) || (!result.1 && result.2 = 0))

/-- The metrics of forecasts that are judged, with the report on them. -/
def metricsOf (platform : Platform) (results : List (Bool × Nat)) (cal : CalibrationReport)
    : ValidationMetrics :=
  let n := results.length
  let cells := confusion results
  let precision := share cells.tp (cells.tp + cells.fp)
  let «recall» := share cells.tp (cells.tp + cells.fn)
  let f1 :=
    if 0 < precision + «recall» then 2 * precision * «recall» / (precision + «recall») else 0
  { sampleSize := n
    baselineProbability := (results.countP fun result => result.2 = 1 : Nat) / n
    conditionalProbability := precision
    precision
    «recall»
    f1
    falsePositiveRate := share cells.fp (cells.fp + cells.tn)
    falseNegativeRate := share cells.fn (cells.fn + cells.tp)
    calibrationError := cal.meanAbsoluteError
    confidenceInterval95 := wilsonInterval platform cells.tp (cells.tp + cells.fp)
    brierScore := cal.brierScore
    expectedCalibrationError := cal.expectedCalibrationError }

def evaluate (platform : Platform) (scores : List Number) (rows : List DatasetRow)
    (target : Number) (decisionThreshold : Number := .finite 0.5)
    : Except String ValidationMetrics := do
  let n := min scores.length rows.length
  if n = 0 then
    return emptyMetrics
  let results := (scores.zip rows).map (judged platform target decisionThreshold)
  let cal ← computeCalibration ((scores.take n).map clamp)
    (results.map fun result => .finite result.2) 10
  return metricsOf platform results cal

def unconditionalBaseline (platform : Platform) (rows : List DatasetRow) (target : Number) : ℚ :=
  if rows = [] then 0
  else (rows.countP fun row => actual platform target row = 1 : Nat) / rows.length

-----------------------------------------------------------------------------------------
-- The loop over the bins
-----------------------------------------------------------------------------------------

theorem clamp_finite (value : ℚ) : clamp (.finite value) = .finite (max 0 (min 1 value)) := by
  have least (a b : ℚ) : Number.min (.finite a) (.finite b) = .finite (min a b) := by
    change (if decide (a ≤ b) = true then Number.finite a else .finite b) = _
    by_cases ordered : a ≤ b
    · rw [min_eq_left ordered, if_pos (decide_eq_true ordered)]
    · rw [min_eq_right (not_le.mp ordered).le, if_neg (by simpa using ordered)]
  have greatest (a b : ℚ) : Number.max (.finite a) (.finite b) = .finite (max a b) := by
    change (if decide (a ≤ b) = true then Number.finite b else .finite a) = _
    by_cases ordered : a ≤ b
    · rw [max_eq_right ordered, if_pos (decide_eq_true ordered)]
    · rw [max_eq_left (not_le.mp ordered).le, if_neg (by simpa using ordered)]
  change Number.max (.finite ((0 : Nat) : ℚ)) (Number.min (.finite ((1 : Nat) : ℚ)) (.finite value))
    = _
  rw [least, greatest, Nat.cast_zero, Nat.cast_one]

/-- A number that is clamped is a share, or it was none. -/
theorem clamp_cases (probability : Number)
    : (probability = .nan ∧ clamp probability = .nan)
      ∨ probability ≠ .nan ∧ ∃ p, clamp probability = .finite p ∧ 0 ≤ p ∧ p ≤ 1 := by
  rcases probability with value | negative | -
  · refine .inr ⟨nofun, _, clamp_finite value, le_max_left _ _, ?_⟩
    exact max_le zero_le_one (min_le_left _ _)
  · refine .inr ⟨nofun, ?_⟩
    cases negative with
    | false => exact ⟨1, rfl, zero_le_one, le_rfl⟩
    | true => exact ⟨0, rfl, le_rfl, zero_le_one⟩
  · exact .inl ⟨rfl, rfl⟩

/-- A bin within its bounds, with no more ones among its outcomes than outcomes. -/
structure Bin.Within (numBins i : Nat) (bin : Bin) : Prop where
  lower : bin.count * ((i : ℚ) / numBins) ≤ bin.sumP
  upper : bin.sumP ≤ bin.count * (((i + 1 : Nat) : ℚ) / numBins)
  nonneg : 0 ≤ bin.sumA
  ones : bin.sumA ≤ bin.count

/-- The sums after so many forecasts. -/
structure Tallied (numBins count : Nat) (sums : Sums) : Prop where
  length : sums.bins.length = numBins
  counted : (sums.bins.map Bin.count).sum = count
  spread : (sums.bins.map Bin.apart).sum ≤ sums.absSum
  nonneg : 0 ≤ sums.brierSum
  squared : sums.brierSum ≤ sums.absSum
  bounded : sums.absSum ≤ count
  within : ∀ i bin, sums.bins[i]? = some bin → Bin.Within numBins i bin

variable {numBins count : Nat} {sums next : Sums}

theorem tallied_initial (numBins : Nat)
    : Tallied numBins 0 { bins := List.replicate numBins {} } := by
  constructor
  · exact List.length_replicate
  · simp
  · simp [Bin.apart]
  · exact le_rfl
  · exact le_rfl
  · exact le_rfl
  · intro i bin found
    obtain rfl := (List.mem_replicate.mp (List.mem_of_getElem? found)).2
    constructor <;> simp

/-- A share lies within the bounds of its bin. -/
theorem binIdx_bounds {p : ℚ} (some : 0 < numBins) (nonneg : 0 ≤ p) (atMost : p ≤ 1)
    : binIdx numBins p < numBins
      ∧ (binIdx numBins p : ℚ) / numBins ≤ p
      ∧ p ≤ ((binIdx numBins p + 1 : Nat) : ℚ) / numBins := by
  have positive : (0 : ℚ) < numBins := Nat.cast_pos.mpr some
  have floor : ((⌊p * numBins⌋.toNat : Nat) : ℚ) = (⌊p * numBins⌋ : ℚ) := by
    have known := Int.toNat_of_nonneg (Int.floor_nonneg.mpr (mul_nonneg nonneg positive.le))
    exact_mod_cast known
  refine ⟨(Nat.min_le_left _ _).trans_lt (Nat.sub_lt some Nat.zero_lt_one), ?_, ?_⟩
  · rw [div_le_iff₀ positive]
    refine le_trans ?_ (Int.floor_le (p * numBins))
    rw [← floor]
    exact Nat.cast_le.mpr (Nat.min_le_right _ _)
  · rw [le_div_iff₀ positive]
    rcases Nat.le_total (numBins - 1) ⌊p * numBins⌋.toNat with last | inner
    · rw [binIdx, Nat.min_eq_left last, Nat.sub_add_cancel some]
      exact mul_le_of_le_one_left positive.le atMost
    · rw [binIdx, Nat.min_eq_right inner, Nat.cast_add, floor, Nat.cast_one]
      exact (Int.lt_floor_add_one _).le

theorem Bin.Within.add {i : Nat} {bin : Bin} (inside : Bin.Within numBins i bin) {p a : ℚ}
    (lower : (i : ℚ) / numBins ≤ p) (upper : p ≤ ((i + 1 : Nat) : ℚ) / numBins)
    (outcome : a = 0 ∨ a = 1)
    : Bin.Within numBins i (bin.add p a) := by
  obtain ⟨below, above, nonneg, ones⟩ := inside
  have bounds : 0 ≤ a ∧ a ≤ 1 := by
    rcases outcome with rfl | rfl
    · exact ⟨le_rfl, zero_le_one⟩
    · exact ⟨zero_le_one, le_rfl⟩
  constructor
  · simp only [Bin.add, Nat.cast_add, Nat.cast_one, add_mul, one_mul]
    exact add_le_add below lower
  · simp only [Bin.add, Nat.cast_add, Nat.cast_one, add_mul, one_mul] at above upper ⊢
    exact add_le_add above upper
  · exact add_nonneg nonneg bounds.1
  · simp only [Bin.add, Nat.cast_add, Nat.cast_one]
    exact add_le_add ones bounds.2

/-- A turn tallies one forecast more. -/
theorem Tallied.turn (tallied : Tallied numBins count sums) {forecast : Number × Number}
    (turned : sums.turn numBins forecast = .ok next)
    : Tallied numBins (count + 1) next := by
  rw [Sums.turn] at turned
  split at turned
  · next p first clamped found =>
      cases turned
      have some : 0 < numBins := tallied.length ▸ (List.getElem?_eq_some_iff.mp found).1
      have bounds : 0 ≤ p ∧ p ≤ 1 := by
        rcases clamp_cases forecast.1 with ⟨-, none⟩ | ⟨-, share, known, nonneg, atMost⟩
        · rw [none] at clamped
          cases clamped
        · rw [known] at clamped
          cases clamped
          exact ⟨nonneg, atMost⟩
      set a : ℚ := if forecast.2 = 1 then 1 else 0 with outcome
      have binary : a = 0 ∨ a = 1 := by
        rw [outcome]
        split
        · exact .inr rfl
        · exact .inl rfl
      have close : |p - a| ≤ 1 := by
        rw [abs_le]
        rcases binary with zero | one
        · rw [zero]
          constructor <;> linarith [bounds.1, bounds.2]
        · rw [one]
          constructor <;> linarith [bounds.1, bounds.2]
      have square : (p - a) ^ 2 ≤ |p - a| := by
        rw [← sq_abs]
        exact pow_le_of_le_one (abs_nonneg _) close two_ne_zero
      obtain ⟨inside, lower, upper⟩ := binIdx_bounds some bounds.1 bounds.2
      constructor
      · rw [List.length_modify]
        exact tallied.length
      · rw [sum_count_modify Bin.count (fun bin => rfl) (tallied.length ▸ inside), tallied.counted]
      · have more :=
          sum_map_modify_le (abs_nonneg (p - a)) (fun bin : Bin => bin.apart_add_le p a) sums.bins
            (binIdx numBins p)
        exact more.trans (add_le_add_left tallied.spread _)
      · exact add_nonneg tallied.nonneg (sq_nonneg _)
      · exact add_le_add tallied.squared square
      · push_cast
        exact add_le_add tallied.bounded close
      · intro i bin found
        rw [List.getElem?_modify] at found
        obtain ⟨old, foundOld, rfl⟩ := Option.map_eq_some_iff.mp found
        have within := tallied.within i old foundOld
        by_cases same : binIdx numBins p = i
        · subst same
          rw [if_pos rfl]
          exact within.add lower upper binary
        · rw [if_neg same]
          exact within
  · cases turned

theorem exists_turn_iff (tallied : Tallied numBins count sums) (some : 0 < numBins)
    (forecast : Number × Number)
    : (∃ next, sums.turn numBins forecast = .ok next) ↔ forecast.1 ≠ .nan := by
  obtain ⟨first, found⟩ : ∃ first, sums.bins[0]? = Option.some first :=
    ⟨_, List.getElem?_eq_getElem (tallied.length.symm ▸ some)⟩
  rcases clamp_cases forecast.1 with ⟨none, clamped⟩ | ⟨number, p, clamped, -⟩
  · refine ⟨fun ⟨next, turned⟩ => ?_, fun number => absurd none number⟩
    simp only [Sums.turn, clamped, found] at turned
    cases turned
  · refine ⟨fun _ => number, fun _ => ?_⟩
    simp only [Sums.turn, clamped, found]
    exact ⟨_, rfl⟩

/-- The loop comes to its end if all forecasts are numbers, and has tallied them then, by induction
on the forecasts.
-/
theorem foldlM_turn (some : 0 < numBins) (forecasts : List (Number × Number))
    {count : Nat} {sums : Sums} (tallied : Tallied numBins count sums)
    : ((∃ next, forecasts.foldlM (Sums.turn numBins) sums = .ok next)
        ↔ ∀ forecast ∈ forecasts, forecast.1 ≠ .nan)
      ∧ ∀ next, forecasts.foldlM (Sums.turn numBins) sums = .ok next →
          Tallied numBins (count + forecasts.length) next := by
  induction forecasts generalizing count sums with
  | nil =>
      refine ⟨⟨fun _ _ member => absurd member List.not_mem_nil, fun _ => ⟨sums, rfl⟩⟩, ?_⟩
      intro next ended
      cases ended
      exact tallied
  | cons forecast rest ih =>
      have turns := exists_turn_iff tallied some forecast
      rw [List.foldlM_cons]
      cases turned : sums.turn numBins forecast with
      | error error =>
          have fails : ¬ forecast.1 ≠ .nan := by
            intro number
            obtain ⟨next, other⟩ := turns.mpr number
            rw [turned] at other
            cases other
          refine ⟨⟨fun ⟨_, ended⟩ => (nomatch ended), fun all => ?_⟩, fun _ ended => nomatch ended⟩
          exact absurd (all forecast List.mem_cons_self) fails
      | ok next =>
          obtain ⟨ends, tallies⟩ := ih (tallied.turn turned)
          refine ⟨ends.trans ?_, ?_⟩
          · rw [List.forall_mem_cons]
            exact ⟨fun all => ⟨turns.mp ⟨next, turned⟩, all⟩, fun both => both.2⟩
          · intro last ended
            rw [List.length_cons, Nat.add_comm rest.length, ← Nat.add_assoc]
            exact tallies last ended

-----------------------------------------------------------------------------------------
-- The report
-----------------------------------------------------------------------------------------

/-- What every bin of a report has that is not empty: the mean of its forecasts within its bounds
and a share of its outcomes.
-/
structure ReliabilityBin.Sound (bin : ReliabilityBin) : Prop where
  lower : bin.binLower ≤ bin.meanPredicted
  upper : bin.meanPredicted ≤ bin.binUpper
  nonneg : 0 ≤ bin.meanActual
  atMost : bin.meanActual ≤ 1
  gap : bin.gap = |bin.meanPredicted - bin.meanActual|

/-- What every report on so many forecasts has. -/
structure CalibrationReport.Sound (report : CalibrationReport) (count : Nat) : Prop where
  nonneg : 0 ≤ report.brierScore
  squared : report.brierScore ≤ report.meanAbsoluteError
  bounded : report.meanAbsoluteError ≤ 1
  calibrated : 0 ≤ report.expectedCalibrationError
  spread : report.expectedCalibrationError ≤ report.meanAbsoluteError
  counted : (report.reliabilityBins.map ReliabilityBin.count).sum = count
  bins : ∀ bin ∈ report.reliabilityBins, 0 < bin.count → bin.Sound

theorem Bin.Within.reliabilityBin {i : Nat} {bin : Bin} (inside : Bin.Within numBins i bin)
    (some : 0 < bin.count) : (reliabilityBin numBins bin i).Sound := by
  have positive : (0 : ℚ) < bin.count := Nat.cast_pos.mpr some
  rw [Datasets.reliabilityBin, if_neg some.ne']
  constructor
  · rw [le_div_iff₀ positive, mul_comm]
    exact inside.lower
  · rw [div_le_iff₀ positive, mul_comm]
    exact inside.upper
  · exact div_nonneg inside.nonneg positive.le
  · exact (div_le_one positive).mpr inside.ones
  · rfl

theorem count_reliabilityBin (numBins : Nat) (bin : Bin) (i : Nat)
    : (reliabilityBin numBins bin i).count = bin.count := by
  rw [reliabilityBin]
  split
  · next none => exact none.symm
  · rfl

/-- A bin counts towards the calibration error no more than its forecasts are from their outcomes in
sum.
-/
theorem weighed_gap_le (numBins : Nat) (bin : Bin) (i : Nat) {n : ℚ} (positive : 0 < n)
    : 0 ≤ ((reliabilityBin numBins bin i).count / n : ℚ) * (reliabilityBin numBins bin i).gap
      ∧ ((reliabilityBin numBins bin i).count / n : ℚ) * (reliabilityBin numBins bin i).gap
        ≤ bin.apart / n := by
  rw [count_reliabilityBin]
  by_cases none : bin.count = 0
  · rw [none, Nat.cast_zero, zero_div, zero_mul]
    exact ⟨le_rfl, div_nonneg (abs_nonneg _) positive.le⟩
  · have some : (0 : ℚ) < bin.count := Nat.cast_pos.mpr (Nat.pos_of_ne_zero none)
    have gap : (reliabilityBin numBins bin i).gap = bin.apart / bin.count := by
      rw [reliabilityBin, if_neg none, Bin.apart, ← sub_div, abs_div, abs_of_pos some]
    have same : (bin.count / n : ℚ) * (bin.apart / bin.count) = bin.apart / n := by
      field_simp
    rw [gap, same]
    exact ⟨div_nonneg (abs_nonneg _) positive.le, le_rfl⟩

/-- Sums over the places of a list, one by one, by induction on it. -/
theorem sum_zipIdx_bounds {value : Bin → Nat → ℚ} {bound : Bin → ℚ} (bins : List Bin) (start : Nat)
    (nonneg : ∀ bin i, 0 ≤ value bin i) (below : ∀ bin i, value bin i ≤ bound bin)
    : 0 ≤ ((bins.zipIdx start).map fun entry => value entry.1 entry.2).sum
      ∧ ((bins.zipIdx start).map fun entry => value entry.1 entry.2).sum
        ≤ (bins.map bound).sum := by
  induction bins generalizing start with
  | nil => exact ⟨le_rfl, le_rfl⟩
  | cons bin rest ih =>
      obtain ⟨more, less⟩ := ih (start + 1)
      rw [List.zipIdx_cons, List.map_cons, List.sum_cons, List.map_cons, List.sum_cons]
      exact ⟨add_nonneg (nonneg bin start) more, add_le_add (below bin start) less⟩

theorem Tallied.report (tallied : Tallied numBins count sums) (positive : (0 : ℚ) < count)
    : (sums.report numBins count).Sound count := by
  have error : (sums.report numBins count).expectedCalibrationError
      = (sums.bins.zipIdx.map fun entry =>
          ((reliabilityBin numBins entry.1 entry.2).count / count : ℚ)
            * (reliabilityBin numBins entry.1 entry.2).gap).sum := by
    rw [Sums.report, List.map_map]
    rfl
  have bounds := sum_zipIdx_bounds sums.bins 0
    (fun bin i => (weighed_gap_le numBins bin i positive).1)
    (fun bin i => (weighed_gap_le numBins bin i positive).2)
  have spread : (sums.bins.map fun bin => bin.apart / (count : ℚ)).sum ≤ sums.absSum / count := by
    simp only [div_eq_mul_inv]
    rw [List.sum_map_mul_right]
    exact mul_le_mul_of_nonneg_right tallied.spread (inv_nonneg.mpr positive.le)
  constructor
  · exact div_nonneg tallied.nonneg positive.le
  · exact div_le_div_of_nonneg_right tallied.squared positive.le
  · exact (div_le_one positive).mpr tallied.bounded
  · rw [error]
    exact bounds.1
  · rw [error]
    exact bounds.2.trans spread
  · have counts : ((sums.report numBins count).reliabilityBins.map ReliabilityBin.count)
        = sums.bins.zipIdx.map (Bin.count ∘ Prod.fst) := by
      rw [Sums.report, List.map_map]
      exact List.map_congr_left fun entry _ => count_reliabilityBin numBins entry.1 entry.2
    rw [counts, ← List.map_map, List.zipIdx_map_fst]
    exact tallied.counted
  · intro bin member some
    obtain ⟨⟨sum, i⟩, among, rfl⟩ := List.mem_map.mp member
    rw [count_reliabilityBin] at some
    exact (tallied.within i sum (List.mem_zipIdx_iff_getElem?.mp among)).reliabilityBin some

theorem computeCalibration_sound (some : 0 < numBins) (probabilities actuals : List Number)
    : ((∃ report, computeCalibration probabilities actuals numBins = .ok report)
        ↔ ∀ forecast ∈ probabilities.zip actuals, forecast.1 ≠ .nan)
      ∧ ∀ report, computeCalibration probabilities actuals numBins = .ok report →
          report.Sound (min probabilities.length actuals.length) := by
  have length : (probabilities.zip actuals).length = min probabilities.length actuals.length :=
    List.length_zip
  rw [computeCalibration]
  by_cases none : min probabilities.length actuals.length = 0
  · have nothing : probabilities.zip actuals = [] :=
      List.eq_nil_of_length_eq_zero (length.trans none)
    rw [nothing]
    simp only [none, if_true]
    refine ⟨⟨fun _ _ member => absurd member List.not_mem_nil, fun _ => ⟨_, rfl⟩⟩, ?_⟩
    intro report made
    cases made
    exact ⟨le_rfl, le_rfl, zero_le_one, le_rfl, le_rfl, rfl, fun _ member =>
      absurd member List.not_mem_nil⟩
  · obtain ⟨ends, tallies⟩ := foldlM_turn some (probabilities.zip actuals) (tallied_initial numBins)
    rw [Nat.zero_add, length] at tallies
    simp only [none, if_false]
    cases ended : (probabilities.zip actuals).foldlM (Sums.turn numBins)
      { bins := List.replicate numBins {} } with
    | error error =>
        rw [ended] at ends
        refine ⟨⟨fun ⟨_, made⟩ => (nomatch made), fun all => ?_⟩, fun _ made => nomatch made⟩
        obtain ⟨_, other⟩ := ends.mpr all
        cases other
    | ok sums =>
        have tallied := tallies sums ended
        have positive : (0 : ℚ) < (min probabilities.length actuals.length : Nat) :=
          Nat.cast_pos.mpr (Nat.pos_of_ne_zero none)
        refine ⟨⟨fun _ => ends.mp ⟨sums, ended⟩, fun _ => ⟨_, rfl⟩⟩, ?_⟩
        intro report made
        cases made
        exact tallied.report positive

-----------------------------------------------------------------------------------------
-- The metrics
-----------------------------------------------------------------------------------------

theorem share_bounds {part whole : Nat} (within : part ≤ whole)
    : 0 ≤ share part whole ∧ share part whole ≤ 1 := by
  rw [share]
  split
  · next some =>
      have positive : (0 : ℚ) < whole := Nat.cast_pos.mpr some
      exact ⟨div_nonneg part.cast_nonneg positive.le,
        (div_le_one positive).mpr (Nat.cast_le.mpr within)⟩
  · exact ⟨le_rfl, zero_le_one⟩

theorem share_mul {part whole : Nat} (within : part ≤ whole) : share part whole * whole = part := by
  rw [share]
  split
  · next some => exact div_mul_cancel₀ _ (Nat.cast_ne_zero.mpr some.ne')
  · next none =>
      have zero : part = 0 := by omega
      rw [zero_mul, zero, Nat.cast_zero]

/-- The harmonic mean lies between what it is of. -/
theorem harmonic_bounds {p r : ℚ} (nonneg : 0 ≤ p) (nonneg' : 0 ≤ r)
    : let f1 := if 0 < p + r then 2 * p * r / (p + r) else 0
      min p r ≤ f1 ∧ f1 ≤ max p r := by
  intro f1
  by_cases some : 0 < p + r
  · have mean : f1 = 2 * p * r / (p + r) := if_pos some
    rw [mean, le_div_iff₀ some, div_le_iff₀ some]
    rcases le_total p r with ordered | ordered
    · rw [min_eq_left ordered, max_eq_right ordered]
      constructor <;> nlinarith
    · rw [min_eq_right ordered, max_eq_left ordered]
      constructor <;> nlinarith
  · have zero : p = 0 ∧ r = 0 := by
      constructor <;> linarith
    have mean : f1 = 0 := if_neg some
    rw [mean, zero.1, zero.2]
    exact ⟨min_le_left _ _, le_max_left _ _⟩

theorem harmonic_metricsOf (platform : Platform) (results : List (Bool × Nat))
    (cal : CalibrationReport)
    : let metrics := metricsOf platform results cal
      min metrics.precision metrics.recall ≤ metrics.f1
      ∧ metrics.f1 ≤ max metrics.precision metrics.recall :=
  harmonic_bounds (share_bounds (Nat.le_add_right _ _)).1 (share_bounds (Nat.le_add_right _ _)).1

theorem metricsOf_rates (platform : Platform) (results : List (Bool × Nat))
    (cal : CalibrationReport)
    : let metrics := metricsOf platform results cal
      ∀ rate ∈ [metrics.precision, metrics.recall, metrics.f1, metrics.falsePositiveRate,
          metrics.falseNegativeRate],
        0 ≤ rate ∧ rate ≤ 1 := by
  intro metrics
  have precision : 0 ≤ metrics.precision ∧ metrics.precision ≤ 1 :=
    share_bounds (Nat.le_add_right _ _)
  have recalled : 0 ≤ metrics.recall ∧ metrics.recall ≤ 1 := share_bounds (Nat.le_add_right _ _)
  obtain ⟨low, high⟩ := harmonic_metricsOf platform results cal
  simp only [List.forall_mem_cons, List.not_mem_nil, false_implies, implies_true, and_true]
  refine ⟨precision, recalled, ⟨?_, ?_⟩, share_bounds (Nat.le_add_right _ _),
    share_bounds (Nat.le_add_right _ _)⟩
  · exact (le_min precision.1 recalled.1).trans low
  · exact high.trans (max_le precision.2 recalled.2)

/-- Forecasts are judged if they all are numbers, and their metrics agree then: the squared error
and the error over the bins are no more than the mean error, the rates are shares, the harmonic mean
of precision and recall lies between the two, and the baseline is that of the rows.
-/
theorem metrics_sound (platform : Platform) (scores : List Number) (rows : List DatasetRow)
    (target decisionThreshold : Number)
    : ((∃ metrics, evaluate platform scores rows target decisionThreshold = .ok metrics)
        ↔ ∀ score ∈ scores.take rows.length, score ≠ .nan)
      ∧ ∀ metrics, evaluate platform scores rows target decisionThreshold = .ok metrics →
          metrics.sampleSize = min scores.length rows.length
          ∧ (0 ≤ metrics.brierScore ∧ metrics.brierScore ≤ metrics.calibrationError
              ∧ metrics.calibrationError ≤ 1)
          ∧ (0 ≤ metrics.expectedCalibrationError
              ∧ metrics.expectedCalibrationError ≤ metrics.calibrationError)
          ∧ (∀ rate ∈ [metrics.precision, metrics.recall, metrics.f1, metrics.falsePositiveRate,
                metrics.falseNegativeRate],
              0 ≤ rate ∧ rate ≤ 1)
          ∧ (min metrics.precision metrics.recall ≤ metrics.f1
              ∧ metrics.f1 ≤ max metrics.precision metrics.recall)
          ∧ (rows.length ≤ scores.length →
              metrics.baselineProbability = unconditionalBaseline platform rows target) := by
  rw [evaluate]
  by_cases none : min scores.length rows.length = 0
  · have nothing : scores.take rows.length = [] := by
      rw [← List.length_eq_zero_iff, List.length_take, Nat.min_comm]
      exact none
    rw [nothing]
    simp only [none, if_true]
    refine ⟨⟨fun _ _ member => absurd member List.not_mem_nil, fun _ => ⟨_, rfl⟩⟩, ?_⟩
    intro metrics judged
    cases judged
    refine ⟨rfl, ⟨le_rfl, le_rfl, zero_le_one⟩, ⟨le_rfl, le_rfl⟩, ?_,
      ⟨min_le_left _ _, le_max_left _ _⟩, ?_⟩
    · intro rate member
      have zero : rate = 0 := by simpa [emptyMetrics] using member
      rw [zero]
      exact ⟨le_rfl, zero_le_one⟩
    · intro enough
      rw [Nat.min_eq_right enough] at none
      rw [unconditionalBaseline, if_pos (List.eq_nil_of_length_eq_zero none)]
      rfl
  · let results := (scores.zip rows).map (judged platform target decisionThreshold)
    let probs := (scores.take (min scores.length rows.length)).map clamp
    let actuals := results.map fun result => Number.finite result.2
    have length : results.length = min scores.length rows.length := by
      rw [List.length_map, List.length_zip]
    have same : probs.length = actuals.length := by
      rw [List.length_map, List.length_map, length, List.length_take]
      omega
    have numbers : (∀ forecast ∈ probs.zip actuals, forecast.1 ≠ .nan)
        ↔ ∀ score ∈ scores.take rows.length, score ≠ .nan := by
      have firsts : (probs.zip actuals).map Prod.fst = probs := List.map_fst_zip same.le
      have short : scores.take (min scores.length rows.length) = scores.take rows.length := by
        rw [List.take_eq_take_iff]
        omega
      rw [← List.forall_mem_map (P := fun probability : Number => probability ≠ .nan), firsts,
        List.forall_mem_map, short]
      refine forall_congr' fun score => forall_congr' fun _ => not_congr ?_
      rcases clamp_cases score with ⟨none, clamped⟩ | ⟨number, p, clamped, -⟩
      · exact ⟨fun _ => none, fun _ => clamped⟩
      · rw [clamped]
        exact ⟨nofun, fun none => absurd none number⟩
    obtain ⟨ends, sounds⟩ := computeCalibration_sound (by decide : 0 < 10) probs actuals
    simp only [none, if_false]
    change ((∃ metrics, (computeCalibration probs actuals 10).bind _ = _) ↔ _)
      ∧ ∀ metrics, (computeCalibration probs actuals 10).bind _ = _ → _
    cases made : computeCalibration probs actuals 10 with
    | error error =>
        rw [made] at ends
        refine ⟨⟨fun ⟨_, judged⟩ => (nomatch judged), fun all => ?_⟩,
          fun _ judged => nomatch judged⟩
        obtain ⟨_, other⟩ := ends.mpr (numbers.mpr all)
        cases other
    | ok cal =>
        have sound := sounds cal made
        refine ⟨⟨fun _ => numbers.mp (ends.mp ⟨cal, made⟩), fun _ => ⟨_, rfl⟩⟩, ?_⟩
        intro metrics judged
        cases judged
        have baseline : rows.length ≤ scores.length
            → results.countP (fun result => result.2 = 1)
              = rows.countP fun row => actual platform target row = 1 := by
          intro enough
          have seconds : (scores.zip rows).map Prod.snd = rows := List.map_snd_zip enough
          rw [← seconds, List.countP_map, List.countP_map]
          rfl
        refine ⟨length, ⟨sound.nonneg, sound.squared, sound.bounded⟩,
          ⟨sound.calibrated, sound.spread⟩, metricsOf_rates platform results cal,
          harmonic_metricsOf platform results cal, ?_⟩
        intro enough
        have some : rows ≠ [] := by
          rintro rfl
          exact none (Nat.min_zero _)
        rw [Nat.min_eq_right enough] at length
        change ((results.countP fun result => result.2 = 1 : Nat) / (results.length : ℚ)) = _
        rw [unconditionalBaseline, if_neg some, length, baseline enough]

end CrashWave.Datasets
