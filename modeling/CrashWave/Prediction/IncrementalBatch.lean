import Mathlib.Data.List.PeriodicityLemma
import CrashWave.Prediction.StatePersistence
import CrashWave.Runs.Basic
import CrashWave.Drawdowns.Basic
import CrashWave.Streaks.Basic

/-! The incremental engine against statistics that are computed from all crash points at once, and
the recent points that it returns.
-/

namespace CrashWave.Incremental

open JavaScript Persisted Rings Runs Statistics Streaks

-----------------------------------------------------------------------------------------
-- The statistics of crash points
-----------------------------------------------------------------------------------------

def reached13 (crashPoint : ℚ) : Bool := decide (1.3 ≤ crashPoint)

def HitCounters.ofPoints (points : List ℚ) : HitCounters where
  t13 := points.countP reached13
  t20 := points.countP (2 ≤ ·)
  t50 := points.countP (5 ≤ ·)

def WelfordState.ofPoints (points : List ℚ) : WelfordState where
  n := points.length
  mean := Statistics.mean points
  m2 := squaredDeviations points

/-- How many points are on one side of 1.3 and have the next one on a given side. -/
def transitions (fromAbove toAbove : Bool) (points : List ℚ) : Nat :=
  (points.zip points.tail).countP fun (previous, next) =>
    reached13 previous == fromAbove && reached13 next == toAbove

def MarkovState.ofPoints (points : List ℚ) : MarkovState where
  belowToBelow := transitions false false points
  belowToAbove := transitions false true points
  aboveToBelow := transitions true false points
  aboveToAbove := transitions true true points
  lastAbove13 := points.getLast?.map reached13

/-- The runs at the end of the points, and the longest ones. -/
structure RunState.Of (points : List ℚ) (runs : RunState) : Prop where
  below13 : runs.below13 = currentRun (!reached13 ·) points
  above13 : runs.above13 = currentRun reached13 points
  below15 : runs.below15 = currentRun (· < 1.5) points
  above20 : runs.above20 = currentRun (2 ≤ ·) points
  maxBelow13 : LongestRun (!reached13 ·) points runs.maxBelow13
  maxAbove13 : LongestRun reached13 points runs.maxAbove13

/-- The statistics of the short window are those of the last points. -/
structure ShortStatistics (points : List ℚ) (engine : IncrementalStateEngine) : Prop where
  shortLen : engine.shortLen = (points.rtake shortCap).length
  shortSum : engine.shortSum = (points.rtake shortCap).sum
  shortSumSq : engine.shortSumSq = ((points.rtake shortCap).map fun point => point * point).sum
  shortHits13 : engine.shortHits13 = (points.rtake shortCap).countP reached13

/-- The engine has the statistics of the points, and the last of them as lags. -/
structure Batch (points : List ℚ) (engine : IncrementalStateEngine) : Prop where
  count : engine.count = points.length
  lastCrash : engine.lastCrash = points.getLast?
  welford : engine.welford = .ofPoints points
  hits : engine.hits = .ofPoints points
  runs : engine.runs.Of points
  markov : engine.markov = .ofPoints points
  short : ShortStatistics points engine
  lags : engine.getLagArray = points.rtake lagCap

-----------------------------------------------------------------------------------------
-- One point more
-----------------------------------------------------------------------------------------

theorem HitCounters.ofPoints_concat (points : List ℚ) (crashPoint : ℚ)
    : HitCounters.ofPoints (points ++ [crashPoint])
      = (HitCounters.ofPoints points).add crashPoint := by
  simp only [HitCounters.ofPoints, HitCounters.add, List.countP_append, List.countP_singleton,
    reached13, decide_eq_true_eq]
  congr 1 <;> split <;> rfl

theorem WelfordState.ofPoints_concat (points : List ℚ) (crashPoint : ℚ)
    : WelfordState.ofPoints (points ++ [crashPoint])
      = (WelfordState.ofPoints points).add crashPoint := by
  simp only [WelfordState.ofPoints, WelfordState.add, squaredDeviations_concat, mean_concat,
    List.length_append, List.length_singleton]

/-- The pairs of neighbours with one item more, by induction on the items before it. -/
theorem zip_tail_concat {α : Type} (items : List α) (item : α)
    : (items ++ [item]).zip (items ++ [item]).tail
      = items.zip items.tail ++ (items.getLast?.map (·, item)).toList := by
  induction items with
  | nil => rfl
  | cons first rest ih =>
      cases rest with
      | nil => rfl
      | cons second others =>
          rw [List.getLast?_cons_cons]
          exact congrArg ((first, second) :: ·) ih

theorem transitions_concat (fromAbove toAbove : Bool) (points : List ℚ) (crashPoint : ℚ)
    : transitions fromAbove toAbove (points ++ [crashPoint])
      = transitions fromAbove toAbove points
        + if points.getLast?.map reached13 = some fromAbove ∧ reached13 crashPoint = toAbove
          then 1 else 0 := by
  rw [transitions, zip_tail_concat, List.countP_append, transitions]
  congr 1
  cases points.getLast? with
  | none => simp
  | some last => simp [List.countP_singleton]

theorem MarkovState.ofPoints_concat (points : List ℚ) (crashPoint : ℚ)
    : MarkovState.ofPoints (points ++ [crashPoint])
      = (MarkovState.ofPoints points).add crashPoint := by
  have side : decide (1.3 ≤ crashPoint) = reached13 crashPoint := rfl
  simp only [MarkovState.ofPoints, MarkovState.add, transitions_concat, List.getLast?_concat,
    Option.map_some, side]
  cases points.getLast?.map reached13 with
  | none => simp
  | some last => cases last <;> cases reached13 crashPoint <;> simp

theorem RunState.Of.add {points : List ℚ} {runs : RunState} (of : runs.Of points)
    (crashPoint : ℚ)
    : (runs.add crashPoint).Of (points ++ [crashPoint]) := by
  have below : (if reached13 crashPoint then 0 else runs.below13 + 1)
      = currentRun (!reached13 ·) (points ++ [crashPoint]) := by
    rw [currentRun_concat, of.below13]
    cases reached13 crashPoint <;> rfl
  have above : (if reached13 crashPoint then runs.above13 + 1 else 0)
      = currentRun reached13 (points ++ [crashPoint]) := by
    rw [currentRun_concat, of.above13]
  constructor
  · exact below
  · exact above
  · simp [RunState.add, currentRun_concat, of.below15]
  · simp [RunState.add, currentRun_concat, of.above20]
  · have longest := of.maxBelow13.concat crashPoint
    rwa [← below] at longest
  · have longest := of.maxAbove13.concat crashPoint
    rwa [← above] at longest

-----------------------------------------------------------------------------------------
-- The windows
-----------------------------------------------------------------------------------------

namespace IncrementalStateEngine

variable {engine : IncrementalStateEngine} {points : List ℚ}

/-- The short ring holds the points of its statistics. -/
structure ShortWindow (points : List ℚ) (engine : IncrementalStateEngine)
    : Prop extends ShortStatistics points engine where
  ring : Holds shortCap engine.shortRing points
  shortPos : engine.shortPos = points.length % shortCap

theorem shortWindow_initial : ShortWindow [] {} where
  shortLen := rfl
  shortSum := rfl
  shortSumSq := rfl
  shortHits13 := rfl
  ring := holds_nil (List.length_replicate ..)
  shortPos := rfl

/-- The sums of a full window, without the point that a new one evicts and with the new one. -/
theorem ShortWindow.push_full (window : ShortWindow points engine)
    (full : shortCap ≤ points.length) (crashPoint : ℚ)
    : ShortStatistics (points ++ [crashPoint]) (engine.pushShort crashPoint) := by
  have last := window.ring.rtake_eq_cons (by decide) full 0
  rw [← window.shortPos] at last
  have next := rtake_concat_of_full (by decide) full crashPoint
  have counted := length_rtake shortCap points
  rw [held, Nat.min_eq_right full] at counted
  have length : engine.shortLen = shortCap := window.shortLen.trans counted
  have sum := window.shortSum
  have sumSq := window.shortSumSq
  have hits := window.shortHits13
  rw [last] at counted sum sumSq hits
  generalize evictedEq : engine.shortRing.getD engine.shortPos 0 = evicted
    at last counted sum sumSq hits
  generalize (points.rtake shortCap).tail = kept at last next counted sum sumSq hits
  constructor <;> rw [next] <;> simp only [pushShort, length, decide_true, if_true, evictedEq]
  · rw [List.length_append, List.length_singleton, ← counted, List.length_cons]
  · rw [sum, List.sum_cons, add_sub_cancel_left, List.sum_append, List.sum_singleton]
  · rw [sumSq, List.map_cons, List.sum_cons, add_sub_cancel_left, List.map_append,
      List.sum_append, List.map_singleton, List.sum_singleton]
  · rw [hits, List.countP_cons, List.countP_append, List.countP_singleton]
    simp only [reached13, Bool.true_and, decide_eq_true_eq]
    split <;> split <;> omega

/-- A window with room takes the new point. -/
theorem ShortWindow.push_room (window : ShortWindow points engine)
    (room : points.length < shortCap) (crashPoint : ℚ)
    : ShortStatistics (points ++ [crashPoint]) (engine.pushShort crashPoint) := by
  have before : points.rtake shortCap = points := rtake_eq_self room.le
  have next : (points ++ [crashPoint]).rtake shortCap = points ++ [crashPoint] := by
    apply rtake_eq_self
    rw [List.length_append, List.length_singleton]
    exact room
  have length := window.shortLen
  have sum := window.shortSum
  have sumSq := window.shortSumSq
  have hits := window.shortHits13
  rw [before] at length sum sumSq hits
  have notFull : decide (engine.shortLen = shortCap) = false := by
    rw [length]
    exact decide_eq_false room.ne
  constructor <;> rw [next] <;> simp only [pushShort, notFull, Bool.false_eq_true, if_false]
  · rw [length, List.length_append, List.length_singleton]
  · rw [sum, sub_zero, List.sum_append, List.sum_singleton]
  · rw [sumSq, mul_zero, sub_zero, List.map_append, List.sum_append, List.map_singleton,
      List.sum_singleton]
  · rw [hits, List.countP_append, List.countP_singleton]
    simp only [reached13, Bool.false_and, decide_eq_true_eq, Bool.false_eq_true, if_false]
    split <;> rfl

theorem ShortWindow.push (window : ShortWindow points engine) (crashPoint : ℚ)
    : ShortWindow (points ++ [crashPoint]) (engine.pushShort crashPoint) where
  toShortStatistics := by
    rcases Nat.lt_or_ge points.length shortCap with room | full
    · exact window.push_room room crashPoint
    · exact window.push_full full crashPoint
  ring := by
    have written := window.ring.write crashPoint
    rwa [← window.shortPos] at written
  shortPos := by
    have next : (engine.pushShort crashPoint).shortPos = (engine.shortPos + 1) % shortCap := rfl
    rw [next, window.shortPos, List.length_append, List.length_singleton, Nat.mod_add_mod]

/-- The lags are the last points. -/
theorem getLagArray_eq (follows : Follows engine points)
    : engine.getLagArray = points.rtake lagCap := by
  rw [rtake_eq_drop, getLagArray, follows.lagLen]
  split
  · next none =>
      have empty : points.length = 0 := by
        simp only [held, lagCap] at none
        omega
      simp [List.length_eq_zero_iff.mp empty]
  · extract_lets start
    have aligned : start % lagCap = (points.length - held lagCap points.length) % lagCap := by
      simp only [start, follows.lagPos, held, lagCap]
      split <;> omega
    exact follows.ring.readHeld 0 aligned

/-- The statistics that `add` updates at once, of the points that the engine follows. -/
structure Accumulated (points : List ℚ) (engine : IncrementalStateEngine) : Prop where
  follows : Follows engine points
  lastCrash : engine.lastCrash = points.getLast?
  welford : engine.welford = .ofPoints points
  hits : engine.hits = .ofPoints points
  runs : engine.runs.Of points
  markov : engine.markov = .ofPoints points
  window : ShortWindow points engine

theorem accumulated_initial : Accumulated [] {} where
  follows := .initial
  lastCrash := rfl
  welford := by simp [WelfordState.ofPoints, Statistics.mean, squaredDeviations]
  hits := rfl
  runs := ⟨rfl, rfl, rfl, rfl, longestRun_nil, longestRun_nil⟩
  markov := rfl
  window := shortWindow_initial

theorem Accumulated.update (before : Accumulated points engine) (crashPoint : Number)
    : Accumulated (points ++ (accepted crashPoint).toList) (engine.update crashPoint) := by
  have follows := before.follows.update crashPoint
  cases taken : accepted crashPoint with
  | none =>
      rw [IncrementalStateEngine.update, taken, Option.toList_none, List.append_nil]
      exact before
  | some point =>
      rw [IncrementalStateEngine.update, taken, Option.toList_some] at follows ⊢
      -- The accumulators are updated one by one, none of them from another.
      have window := before.window.push point
      constructor
      · exact follows
      · simp [IncrementalStateEngine.add]
      · rw [WelfordState.ofPoints_concat, ← before.welford]
        rfl
      · rw [HitCounters.ofPoints_concat, ← before.hits]
        rfl
      · exact before.runs.add point
      · rw [MarkovState.ofPoints_concat, ← before.markov]
        rfl
      · exact ⟨⟨window.shortLen, window.shortSum, window.shortSumSq, window.shortHits13⟩,
          window.ring, window.shortPos⟩

/-- The engine keeps up with the points that it accepts, by induction on the run backwards. -/
theorem accumulated_run (crashPoints : List Number)
    : Accumulated (crashPoints.filterMap accepted)
        (run IncrementalStateEngine.update {} crashPoints) := by
  induction crashPoints using List.reverseRecOn with
  | nil => exact accumulated_initial
  | append_singleton crashPoints last ih =>
      have after := ih.update last
      rw [run, List.foldl_append, List.filterMap_append]
      cases taken : accepted last <;> simpa [run, taken] using after

theorem batch_run (crashPoints : List Number)
    : Batch (crashPoints.filterMap accepted)
        (run IncrementalStateEngine.update {} crashPoints) := by
  have after := accumulated_run crashPoints
  exact {
    count := after.follows.count
    lastCrash := after.lastCrash
    welford := after.welford
    hits := after.hits
    runs := after.runs
    markov := after.markov
    short := after.window.toShortStatistics
    lags := getLagArray_eq after.follows
  }

-----------------------------------------------------------------------------------------
-- The recent points
-----------------------------------------------------------------------------------------

/-- The first items are the last ones as well exactly when the items repeat at the distance of the
two.
-/
theorem take_eq_rtake_iff {α : Type} (items : List α) (count : Nat)
    : items.take count = items.rtake count ↔ items.HasPeriod (items.length - count) := by
  have first : items.take count = items.take (items.drop (items.length - count)).length := by
    rw [List.length_drop, List.take_eq_take_iff]
    omega
  rw [List.rtake, first, eq_comm, ← List.prefix_iff_eq_take]
  generalize items.length - count = distance
  constructor
  · intro begins
    have whole := (List.prefix_append_right_inj (items.take distance)).mpr begins
    rwa [List.take_append_drop] at whole
  · exact List.HasPeriod.drop_prefix distance

/-- The points that are returned are the last ones exactly when the stored points repeat at the
distance of what is returned from what is stored; at no distance every list does.
-/
theorem getRecentPoints_eq_iff (crashPoints : List Number) (max : Nat)
    : let engine := run IncrementalStateEngine.update {} crashPoints
      let observed := crashPoints.filterMap accepted
      engine.getRecentPoints max = observed.rtake (min max engine.lagLen)
        ↔ (observed.rtake lagCap).HasPeriod (held lagCap observed.length - max) := by
  intro engine observed
  have follows : Follows engine observed := (accumulated_run crashPoints).follows
  have stored := length_rtake lagCap observed
  have last : observed.rtake (min max engine.lagLen) = (observed.rtake lagCap).rtake max := by
    rw [follows.lagLen, List.rtake, rtake_eq_drop, List.rtake, List.drop_drop, List.length_drop]
    congr 1
    simp only [held]
    omega
  rw [follows.getRecentPoints_eq_take, ← rtake_eq_drop, last, ← stored]
  exact take_eq_rtake_iff _ _

/-- Asked for one of two points, the engine returns the older one. -/
theorem getRecentPoints_oldest
    : let crashPoints := [.finite 1.1, .finite 2.2]
      let engine := run IncrementalStateEngine.update {} crashPoints
      engine.getRecentPoints 1 = [1.1]
        ∧ (crashPoints.filterMap accepted).rtake (min 1 engine.lagLen) = [2.2] := by
  decide +kernel

end IncrementalStateEngine

end CrashWave.Incremental
