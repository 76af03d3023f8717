import CrashWave.Analytics.Types
import CrashWave.Streaks.Basic
import Mathlib.Algebra.Order.Field.Basic
import Mathlib.Algebra.Order.Field.Rat

/-! The drawdown metrics of an equity curve, and the episodes below its peak, which a second loop
collects. Amounts are exact.
-/

namespace CrashWave.Analytics

open JavaScript Streaks

/-- An episode that `findConsecutiveDrawdowns` returns. -/
structure DrawdownEpisode (K : Type*) where
  startIndex : Nat
  endIndex : Nat
  depth : K
  duration : Nat
  deriving DecidableEq

variable {K : Type*} [Field K] [LinearOrder K]

-----------------------------------------------------------------------------------------
-- The equity curve
-----------------------------------------------------------------------------------------

/-- The variables of the loop of `buildEquityCurve`. -/
structure CurveLoop (K : Type*) where
  curve : List (DrawdownPoint K) := []
  equity : K
  peakEquity : K
  underwaterDuration : Nat := 0

/-- The equity after an outcome; one that failed or is unknown changes nothing. -/
def equityAfter (equity : K) (outcome : BetOutcomeRecord K) : K :=
  if outcome.outcome = .win ∨ outcome.outcome = .loss then equity + outcome.pnl else equity

def CurveLoop.turn (loop : CurveLoop K) (outcome : BetOutcomeRecord K) : CurveLoop K :=
  let equity := equityAfter loop.equity outcome
  let newPeak : Bool := loop.peakEquity < equity
  let peakEquity := if newPeak then equity else loop.peakEquity
  let duration := if newPeak then 0 else loop.underwaterDuration
  let isUnderwater : Bool := equity < peakEquity
  let underwaterDuration := if isUnderwater then duration + 1 else duration
  { curve := loop.curve ++
      [{ timestamp := outcome.timestamp
         equity
         peakEquity
         drawdown := peakEquity - equity
         isUnderwater
         durationUnderwater := underwaterDuration }]
    equity
    peakEquity
    underwaterDuration }

def curveLoop (startingEquity : K) (outcomes : List (BetOutcomeRecord K)) : CurveLoop K :=
  outcomes.foldl CurveLoop.turn { equity := startingEquity, peakEquity := startingEquity }

def buildEquityCurve (outcomes : List (BetOutcomeRecord K)) (startingEquity : K)
    : List (DrawdownPoint K) :=
  (curveLoop startingEquity outcomes).curve

-----------------------------------------------------------------------------------------
-- The metrics
-----------------------------------------------------------------------------------------

def classifyDrawdownSeverity (drawdown : K) : DrawdownSeverity :=
  if drawdown ≤ 0 then .none
  else if 7000.0 ≤ drawdown then .critical
  else if 3500.0 ≤ drawdown then .severe
  else if 1500.0 ≤ drawdown then .moderate
  else if 500.0 ≤ drawdown then .mild
  else .none

/-- The variables of the loop of `computeDrawdownMetrics`. -/
structure MetricsLoop (K : Type*) where
  maxDrawdown : K
  maxUnderwaterDuration : Nat := 0
  recoveryCount : Nat := 0
  wasUnderwater : Bool := false

def MetricsLoop.turn (loop : MetricsLoop K) (point : DrawdownPoint K) : MetricsLoop K where
  maxDrawdown := max loop.maxDrawdown point.drawdown
  maxUnderwaterDuration := max loop.maxUnderwaterDuration point.durationUnderwater
  recoveryCount :=
    if loop.wasUnderwater && !point.isUnderwater then loop.recoveryCount + 1
    else loop.recoveryCount
  wasUnderwater := point.isUnderwater

def metricsLoop (curve : List (DrawdownPoint K)) : MetricsLoop K :=
  curve.foldl MetricsLoop.turn { maxDrawdown := 0 }

def computeDrawdownMetrics (curve : List (DrawdownPoint K)) : DrawdownMetrics K :=
  match curve.getLast? with
  | none =>
      { maxDrawdown := 0
        currentDrawdown := 0
        peakEquity := 0
        currentEquity := 0
        underwaterDuration := 0
        maxUnderwaterDuration := 0
        recoveryCount := 0
        isUnderwater := false
        drawdownSeverity := .none }
  | some lastPoint =>
      let loop := metricsLoop curve
      { maxDrawdown := loop.maxDrawdown
        currentDrawdown := lastPoint.drawdown
        peakEquity := lastPoint.peakEquity
        currentEquity := lastPoint.equity
        underwaterDuration := lastPoint.durationUnderwater
        maxUnderwaterDuration := loop.maxUnderwaterDuration
        recoveryCount := loop.recoveryCount
        isUnderwater := lastPoint.isUnderwater
        drawdownSeverity := classifyDrawdownSeverity loop.maxDrawdown }

-----------------------------------------------------------------------------------------
-- The episodes
-----------------------------------------------------------------------------------------

/-- The variables of the loop of `findConsecutiveDrawdowns`, with the index of the next point. -/
structure EpisodesLoop (K : Type*) where
  drawdowns : List (DrawdownEpisode K) := []
  inDrawdown : Bool := false
  startIndex : Nat := 0
  maxDepth : K
  index : Nat := 0

/-- The episode that ends before the next point. -/
def EpisodesLoop.episode (loop : EpisodesLoop K) : DrawdownEpisode K where
  startIndex := loop.startIndex
  endIndex := loop.index - 1
  depth := loop.maxDepth
  duration := loop.index - loop.startIndex

def EpisodesLoop.turn (loop : EpisodesLoop K) (point : DrawdownPoint K) : EpisodesLoop K :=
  let index := loop.index + 1
  match point.isUnderwater, loop.inDrawdown with
  | true, false =>
      { loop with inDrawdown := true, startIndex := loop.index, maxDepth := point.drawdown, index }
  | true, true => { loop with maxDepth := max loop.maxDepth point.drawdown, index }
  | false, true =>
      { loop with
        drawdowns := loop.drawdowns ++ [loop.episode]
        inDrawdown := false
        maxDepth := 0
        index }
  | false, false => { loop with index }

def episodesLoop (curve : List (DrawdownPoint K)) : EpisodesLoop K :=
  curve.foldl EpisodesLoop.turn { maxDepth := 0 }

def findConsecutiveDrawdowns (curve : List (DrawdownPoint K)) : List (DrawdownEpisode K) :=
  let loop := episodesLoop curve
  if loop.inDrawdown then loop.drawdowns ++ [loop.episode] else loop.drawdowns

-----------------------------------------------------------------------------------------
-- Equities and the highest ones before them
-----------------------------------------------------------------------------------------

/-- An equity with the highest one before it. -/
structure Standing (K : Type*) where
  peak : K
  equity : K

/-- The equity falls below the highest one before it. -/
def Standing.below (standing : Standing K) : Bool := standing.equity < standing.peak

/-- The equity rises above the highest one before it. -/
def Standing.rises (standing : Standing K) : Bool := standing.peak < standing.equity

/-- The standings after each of the outcomes. -/
def standings (peak equity : K) : List (BetOutcomeRecord K) → List (Standing K)
  | [] => []
  | outcome :: rest =>
      let next := equityAfter equity outcome
      { peak, equity := next } :: standings (max peak next) next rest

/-- A stretch of outcomes without a new peak has no more of them below the peak than some
unbroken run of outcomes below the peak.
-/
def Unbroken (startingEquity : K) (outcomes : List (BetOutcomeRecord K)) : Prop :=
  let all := standings startingEquity startingEquity outcomes
  ∀ stretch, stretch <:+: all → (∀ standing ∈ stretch, standing.rises = false) →
    ∃ run, run <:+: all ∧ (∀ standing ∈ run, standing.below)
      ∧ stretch.countP Standing.below ≤ run.length

/-- The largest of some values, or zero. -/
def largest {L : Type*} [Zero L] [Max L] (values : List L) : L := values.foldl max 0

theorem largest_concat {L : Type*} [Zero L] [Max L] (values : List L) (value : L)
    : largest (values ++ [value]) = max (largest values) value := by
  rw [largest, List.foldl_append]
  rfl

/-- The metrics say the same of the curve as its episodes: the largest depth, the largest duration
and how many of them end before the last point.
-/
structure MetricsAgree (curve : List (DrawdownPoint K)) : Prop where
  maxDrawdown
    : (computeDrawdownMetrics curve).maxDrawdown
      = largest ((findConsecutiveDrawdowns curve).map (·.depth))
  maxUnderwaterDuration
    : (computeDrawdownMetrics curve).maxUnderwaterDuration
      = largest ((findConsecutiveDrawdowns curve).map (·.duration))
  recoveryCount
    : (computeDrawdownMetrics curve).recoveryCount
      = (findConsecutiveDrawdowns curve).countP (·.endIndex < curve.length - 1)

theorem largest_nonneg {L : Type*} [Zero L] [LinearOrder L] (values : List L)
    : 0 ≤ largest values := by
  induction values using List.reverseRecOn with
  | nil => exact le_refl _
  | append_singleton values value ih =>
      rw [largest_concat]
      exact le_max_of_le_left ih

-----------------------------------------------------------------------------------------
-- The loops over a curve
-----------------------------------------------------------------------------------------

theorem metricsLoop_concat (curve : List (DrawdownPoint K)) (point : DrawdownPoint K)
    : metricsLoop (curve ++ [point]) = (metricsLoop curve).turn point := by
  rw [metricsLoop, List.foldl_append]
  rfl

theorem episodesLoop_concat (curve : List (DrawdownPoint K)) (point : DrawdownPoint K)
    : episodesLoop (curve ++ [point]) = (episodesLoop curve).turn point := by
  rw [episodesLoop, List.foldl_append]
  rfl

/-- Without any points the metrics are those that the loop starts with. -/
theorem computeDrawdownMetrics_loop (curve : List (DrawdownPoint K))
    : (computeDrawdownMetrics curve).maxDrawdown = (metricsLoop curve).maxDrawdown
      ∧ (computeDrawdownMetrics curve).maxUnderwaterDuration
        = (metricsLoop curve).maxUnderwaterDuration
      ∧ (computeDrawdownMetrics curve).recoveryCount = (metricsLoop curve).recoveryCount := by
  unfold computeDrawdownMetrics
  cases last : curve.getLast? with
  | none =>
      rw [List.getLast?_eq_none_iff.mp last]
      exact ⟨rfl, rfl, rfl⟩
  | some point => exact ⟨rfl, rfl, rfl⟩

theorem findConsecutiveDrawdowns_open {curve : List (DrawdownPoint K)}
    (inside : (episodesLoop curve).inDrawdown = true)
    : findConsecutiveDrawdowns curve
      = (episodesLoop curve).drawdowns ++ [(episodesLoop curve).episode] := by
  rw [findConsecutiveDrawdowns, if_pos inside]

theorem findConsecutiveDrawdowns_closed {curve : List (DrawdownPoint K)}
    (outside : (episodesLoop curve).inDrawdown = false)
    : findConsecutiveDrawdowns curve = (episodesLoop curve).drawdowns := by
  rw [findConsecutiveDrawdowns, if_neg (by rw [outside]; exact Bool.false_ne_true)]

/-- The two loops have followed the standings: the one with the metrics and the one with the
episodes agree on the points so far, and the episodes last as long as the runs below the peak.
-/
structure Followed (metrics : MetricsLoop K) (episodes : EpisodesLoop K)
    (seen : List (Standing K))
    : Prop where
  counted : episodes.index = seen.length
  underwater : metrics.wasUnderwater = episodes.inDrawdown
  recoveries : metrics.recoveryCount = episodes.drawdowns.length
  ended : ∀ episode ∈ episodes.drawdowns, episode.endIndex + 1 < episodes.index
  running
    : episodes.inDrawdown →
        0 < currentRun Standing.below seen
        ∧ episodes.startIndex + currentRun Standing.below seen = episodes.index
  resting : episodes.inDrawdown = false → currentRun Standing.below seen = 0
  longest
    : LongestRun Standing.below seen
        (max (largest (episodes.drawdowns.map (·.duration))) (currentRun Standing.below seen))
  deepest
    : metrics.maxDrawdown
      = max (largest (episodes.drawdowns.map (·.depth)))
          (if episodes.inDrawdown then episodes.maxDepth else 0)

theorem followed_nil : Followed ({ maxDrawdown := 0 } : MetricsLoop K) { maxDepth := 0 } [] where
  counted := rfl
  underwater := rfl
  recoveries := rfl
  ended _ among := by cases among
  running begun := by cases begun
  resting _ := currentRun_nil _
  longest := longestRun_nil
  deepest := (max_self 0).symm

/-- The point stands as the standing does, and is at its peak where it is not below it. -/
structure DrawdownPoint.At (point : DrawdownPoint K) (standing : Standing K) : Prop where
  below : standing.below = point.isUnderwater
  depth : 0 ≤ point.drawdown
  peak : point.isUnderwater = false → point.drawdown = 0

section

variable {metrics : MetricsLoop K} {episodes : EpisodesLoop K} {seen : List (Standing K)}
  {point : DrawdownPoint K} {standing : Standing K}

/-- A point below the peak goes on with the run at the end, and another one ends it. -/
theorem DrawdownPoint.At.currentRun_concat (at_ : point.At standing)
    : currentRun Standing.below (seen ++ [standing])
      = if point.isUnderwater then currentRun Standing.below seen + 1 else 0 := by
  rw [Streaks.currentRun_concat, at_.below]

/-- A point below the peak where none was before begins an episode. -/
theorem Followed.enters (followed : Followed metrics episodes seen) (at_ : point.At standing)
    (under : point.isUnderwater = true) (outside : episodes.inDrawdown = false)
    : Followed (metrics.turn point) (episodes.turn point) (seen ++ [standing]) := by
  have turned
      : episodes.turn point
        = { episodes with
            inDrawdown := true
            startIndex := episodes.index
            maxDepth := point.drawdown
            index := episodes.index + 1 } := by
    rw [EpisodesLoop.turn, under, outside]
  have run : currentRun Standing.below (seen ++ [standing]) = 1 := by
    rw [at_.currentRun_concat, if_pos under, followed.resting outside]
  have grown := followed.longest.concat standing
  rw [turned]
  refine
    { counted := by simp [followed.counted]
      underwater := under
      recoveries := ?_
      ended := fun episode among => (followed.ended episode among).trans (Nat.lt_succ_self _)
      running := ?_
      resting := by intro rests; cases rests
      longest := ?_
      deepest := ?_ }
  · simp [MetricsLoop.turn, under, followed.recoveries]
  · intro _
    rw [run]
    exact ⟨Nat.one_pos, rfl⟩
  · rwa [followed.resting outside, Nat.max_zero] at grown
  · have deepest := followed.deepest
    rw [outside, if_neg Bool.false_ne_true] at deepest
    rw [MetricsLoop.turn, deepest, if_pos rfl, max_assoc, max_eq_right at_.depth]

/-- A further point below the peak goes on with the episode. -/
theorem Followed.stays (followed : Followed metrics episodes seen) (at_ : point.At standing)
    (under : point.isUnderwater = true) (inside : episodes.inDrawdown = true)
    : Followed (metrics.turn point) (episodes.turn point) (seen ++ [standing]) := by
  have turned
      : episodes.turn point
        = { episodes with
            maxDepth := max episodes.maxDepth point.drawdown
            index := episodes.index + 1 } := by
    rw [EpisodesLoop.turn, under, inside]
  have run
      : currentRun Standing.below (seen ++ [standing])
        = currentRun Standing.below seen + 1 := by
    rw [at_.currentRun_concat, if_pos under]
  have grown := followed.longest.concat standing
  obtain ⟨begun, since⟩ := followed.running inside
  rw [turned]
  refine
    { counted := by simp [followed.counted]
      underwater := under.trans inside.symm
      recoveries := ?_
      ended := fun episode among => (followed.ended episode among).trans (Nat.lt_succ_self _)
      running := ?_
      resting := by intro rests; cases inside.symm.trans rests
      longest := ?_
      deepest := ?_ }
  · simp [MetricsLoop.turn, under, followed.recoveries]
  · intro _
    rw [run]
    exact ⟨Nat.succ_pos _, congrArg (· + 1) since⟩
  · have longer : currentRun Standing.below seen ≤ currentRun Standing.below (seen ++ [standing]) :=
      run ▸ Nat.le_succ _
    rwa [max_assoc, max_eq_right longer] at grown
  · have deepest := followed.deepest
    rw [inside, if_pos rfl] at deepest
    rw [MetricsLoop.turn, deepest, if_pos inside, max_assoc]

/-- A point back at the peak ends the episode, and is a recovery. -/
theorem Followed.leaves (followed : Followed metrics episodes seen) (at_ : point.At standing)
    (back : point.isUnderwater = false) (inside : episodes.inDrawdown = true)
    : Followed (metrics.turn point) (episodes.turn point) (seen ++ [standing]) := by
  have turned
      : episodes.turn point
        = { episodes with
            drawdowns := episodes.drawdowns ++ [episodes.episode]
            inDrawdown := false
            maxDepth := 0
            index := episodes.index + 1 } := by
    rw [EpisodesLoop.turn, back, inside]
  have run : currentRun Standing.below (seen ++ [standing]) = 0 := by
    rw [at_.currentRun_concat, back, if_neg Bool.false_ne_true]
  have grown := followed.longest.concat standing
  obtain ⟨begun, since⟩ := followed.running inside
  have lasted : episodes.episode.duration = currentRun Standing.below seen :=
    Nat.sub_eq_of_eq_add (since.symm.trans (Nat.add_comm _ _))
  rw [turned]
  refine
    { counted := by simp [followed.counted]
      underwater := back
      recoveries := ?_
      ended := ?_
      running := by intro goes; cases goes
      resting := fun _ => run
      longest := ?_
      deepest := ?_ }
  · simp [MetricsLoop.turn, back, followed.underwater, inside, followed.recoveries]
  · intro episode among
    rcases List.mem_append.mp among with before | new
    · exact (followed.ended episode before).trans (Nat.lt_succ_self _)
    · rw [List.mem_singleton.mp new]
      show episodes.index - 1 + 1 < episodes.index + 1
      omega
  · rw [List.map_append, List.map_singleton, largest_concat, lasted]
    exact run ▸ grown
  · have deepest := followed.deepest
    rw [inside, if_pos rfl] at deepest
    rw [MetricsLoop.turn, deepest, if_neg Bool.false_ne_true, at_.peak back, List.map_append,
      List.map_singleton, largest_concat, EpisodesLoop.episode]

/-- A further point at the peak changes nothing. -/
theorem Followed.rests (followed : Followed metrics episodes seen) (at_ : point.At standing)
    (back : point.isUnderwater = false) (outside : episodes.inDrawdown = false)
    : Followed (metrics.turn point) (episodes.turn point) (seen ++ [standing]) := by
  have turned : episodes.turn point = { episodes with index := episodes.index + 1 } := by
    rw [EpisodesLoop.turn, back, outside]
  have run : currentRun Standing.below (seen ++ [standing]) = 0 := by
    rw [at_.currentRun_concat, back, if_neg Bool.false_ne_true]
  have grown := followed.longest.concat standing
  rw [turned]
  refine
    { counted := by simp [followed.counted]
      underwater := back.trans outside.symm
      recoveries := ?_
      ended := fun episode among => (followed.ended episode among).trans (Nat.lt_succ_self _)
      running := by intro goes; cases outside.symm.trans goes
      resting := fun _ => run
      longest := ?_
      deepest := ?_ }
  · simp [MetricsLoop.turn, back, followed.underwater, outside, followed.recoveries]
  · rw [followed.resting outside, Nat.max_zero] at grown
    exact grown
  · have deepest := followed.deepest
    rw [outside, if_neg Bool.false_ne_true] at deepest
    simp only [MetricsLoop.turn, deepest, at_.peak back, outside, max_assoc, max_self]
    simp

theorem Followed.turn (followed : Followed metrics episodes seen) (at_ : point.At standing)
    : Followed (metrics.turn point) (episodes.turn point) (seen ++ [standing]) := by
  cases under : point.isUnderwater with
  | true =>
      cases inside : episodes.inDrawdown with
      | true => exact followed.stays at_ under inside
      | false => exact followed.enters at_ under inside
  | false =>
      cases inside : episodes.inDrawdown with
      | true => exact followed.leaves at_ under inside
      | false => exact followed.rests at_ under inside

end

-----------------------------------------------------------------------------------------
-- The curve of the outcomes
-----------------------------------------------------------------------------------------

/-- The loop of the curve has come to the standings: its duration tallies those below the peak
since the last new one, and the other two loops have followed the points.
-/
structure Charted (loop : CurveLoop K) (seen : List (Standing K)) : Prop where
  length : loop.curve.length = seen.length
  tallied : loop.underwaterDuration = currentTally Standing.below Standing.rises seen
  largest
    : LargestTally Standing.below Standing.rises seen
        (metricsLoop loop.curve).maxUnderwaterDuration
  followed : Followed (metricsLoop loop.curve) (episodesLoop loop.curve) seen

theorem charted_nil (startingEquity : K)
    : Charted { equity := startingEquity, peakEquity := startingEquity } [] where
  length := rfl
  tallied := rfl
  largest := largestTally_nil
  followed := followed_nil

/-- The standing that an outcome leads to. -/
def CurveLoop.next (loop : CurveLoop K) (outcome : BetOutcomeRecord K) : Standing K where
  peak := loop.peakEquity
  equity := equityAfter loop.equity outcome

/-- The point that the loop adds, and what it keeps of it. -/
theorem CurveLoop.turn_point [IsStrictOrderedRing K] (loop : CurveLoop K)
    (outcome : BetOutcomeRecord K)
    : ∃ point, (loop.turn outcome).curve = loop.curve ++ [point]
        ∧ point.At (loop.next outcome)
        ∧ point.durationUnderwater = (loop.turn outcome).underwaterDuration
        ∧ (loop.turn outcome).underwaterDuration
          = if (loop.next outcome).rises then 0
            else loop.underwaterDuration + if (loop.next outcome).below then 1 else 0 := by
  refine ⟨_, rfl, ?_, rfl, ?_⟩
  · by_cases rises : loop.peakEquity < equityAfter loop.equity outcome
    · exact
        { below := decide_eq_decide.mpr (by simp [CurveLoop.next, rises, rises.le])
          depth := by simp [rises]
          peak := by simp [rises] }
    · have reached := not_lt.mp rises
      exact
        { below := decide_eq_decide.mpr (by simp [CurveLoop.next, rises])
          depth := by
            simp only [rises, decide_false, Bool.false_eq_true, if_false, sub_nonneg, reached]
          peak := by
            intro back
            simp only [rises, decide_false, Bool.false_eq_true, if_false] at back ⊢
            have least := not_lt.mp (of_decide_eq_false back)
            rw [le_antisymm reached least, sub_self] }
  · by_cases rises : loop.peakEquity < equityAfter loop.equity outcome
    · simp [CurveLoop.turn, Standing.rises, CurveLoop.next, rises]
    · by_cases below : equityAfter loop.equity outcome < loop.peakEquity
      · simp [CurveLoop.turn, Standing.rises, Standing.below, CurveLoop.next, rises, below]
      · simp [CurveLoop.turn, Standing.rises, Standing.below, CurveLoop.next, rises, below]

theorem CurveLoop.turn_equities (loop : CurveLoop K) (outcome : BetOutcomeRecord K)
    : (loop.turn outcome).equity = (loop.next outcome).equity
      ∧ (loop.turn outcome).peakEquity = max loop.peakEquity (loop.next outcome).equity := by
  refine ⟨rfl, ?_⟩
  by_cases rises : loop.peakEquity < equityAfter loop.equity outcome
  · simp [CurveLoop.turn, CurveLoop.next, rises, rises.le]
  · simp [CurveLoop.turn, CurveLoop.next, rises, not_lt.mp rises]

theorem Charted.turn [IsStrictOrderedRing K] {loop : CurveLoop K} {seen : List (Standing K)}
    (charted : Charted loop seen) (outcome : BetOutcomeRecord K)
    : Charted (loop.turn outcome) (seen ++ [loop.next outcome]) := by
  obtain ⟨point, curve, at_, kept, duration⟩ := loop.turn_point outcome
  have tallied
      : (loop.turn outcome).underwaterDuration
        = currentTally Standing.below Standing.rises (seen ++ [loop.next outcome]) := by
    rw [duration, currentTally_concat, charted.tallied]
  refine { length := ?_, tallied := tallied, largest := ?_, followed := ?_ }
  · rw [curve, List.length_append, List.length_append, charted.length]
    rfl
  · rw [curve, metricsLoop_concat, MetricsLoop.turn, kept, tallied]
    exact charted.largest.concat (loop.next outcome)
  · rw [curve, metricsLoop_concat, episodesLoop_concat]
    exact charted.followed.turn at_

/-- The loop comes to the standings after all the outcomes, by induction on them. -/
theorem Charted.run [IsStrictOrderedRing K] {loop : CurveLoop K} {seen : List (Standing K)}
    (charted : Charted loop seen) (outcomes : List (BetOutcomeRecord K))
    : Charted (outcomes.foldl CurveLoop.turn loop)
        (seen ++ standings loop.peakEquity loop.equity outcomes) := by
  induction outcomes generalizing loop seen with
  | nil => rwa [standings, List.append_nil]
  | cons outcome rest ih =>
      obtain ⟨equity, peak⟩ := loop.turn_equities outcome
      have further := ih (charted.turn outcome)
      rw [equity, peak, List.append_assoc] at further
      exact further

theorem charted_curve [IsStrictOrderedRing K] (startingEquity : K)
    (outcomes : List (BetOutcomeRecord K))
    : Charted (curveLoop startingEquity outcomes)
        (standings startingEquity startingEquity outcomes) :=
  (charted_nil startingEquity).run outcomes

-----------------------------------------------------------------------------------------
-- The metrics and the episodes
-----------------------------------------------------------------------------------------

section

variable {loop : CurveLoop K} {seen : List (Standing K)} (charted : Charted loop seen)

include charted

/-- The episodes last as long as the longest run of points below the peak. -/
theorem Charted.durations
    : LongestRun Standing.below seen
        (Analytics.largest ((findConsecutiveDrawdowns loop.curve).map (·.duration))) := by
  have longest := charted.followed.longest
  cases inside : (episodesLoop loop.curve).inDrawdown with
  | true =>
      obtain ⟨begun, since⟩ := charted.followed.running inside
      have lasted : (episodesLoop loop.curve).episode.duration = currentRun Standing.below seen :=
        Nat.sub_eq_of_eq_add (since.symm.trans (Nat.add_comm _ _))
      rw [findConsecutiveDrawdowns_open inside, List.map_append, List.map_singleton,
        largest_concat, lasted]
      exact longest
  | false =>
      rw [charted.followed.resting inside, Nat.max_zero] at longest
      rwa [findConsecutiveDrawdowns_closed inside]

theorem Charted.depths
    : (computeDrawdownMetrics loop.curve).maxDrawdown
      = Analytics.largest ((findConsecutiveDrawdowns loop.curve).map (·.depth)) := by
  rw [(computeDrawdownMetrics_loop loop.curve).1, charted.followed.deepest]
  cases inside : (episodesLoop loop.curve).inDrawdown with
  | true =>
      rw [if_pos rfl, findConsecutiveDrawdowns_open inside, List.map_append, List.map_singleton,
        largest_concat, EpisodesLoop.episode]
  | false =>
      rw [if_neg Bool.false_ne_true, findConsecutiveDrawdowns_closed inside]
      exact max_eq_left (largest_nonneg _)

theorem Charted.recoveries
    : (computeDrawdownMetrics loop.curve).recoveryCount
      = (findConsecutiveDrawdowns loop.curve).countP (·.endIndex < loop.curve.length - 1) := by
  have counted : (episodesLoop loop.curve).index = loop.curve.length :=
    charted.followed.counted.trans charted.length.symm
  have all
      : (episodesLoop loop.curve).drawdowns.countP (·.endIndex < loop.curve.length - 1)
        = (episodesLoop loop.curve).drawdowns.length := by
    apply List.countP_eq_length.mpr
    intro episode among
    have ended := charted.followed.ended episode among
    rw [counted] at ended
    exact decide_eq_true (Nat.lt_sub_of_add_lt ended)
  rw [(computeDrawdownMetrics_loop loop.curve).2.2, charted.followed.recoveries]
  cases inside : (episodesLoop loop.curve).inDrawdown with
  | true =>
      rw [findConsecutiveDrawdowns_open inside, List.countP_append, all, List.countP_singleton,
        EpisodesLoop.episode, counted]
      simp
  | false => rw [findConsecutiveDrawdowns_closed inside, all]

end

theorem Standing.rises_of_below {L : Type*} [LinearOrder L] (standing : Standing L)
    (below : standing.below)
    : standing.rises = false :=
  decide_eq_false (of_decide_eq_true below).not_gt

/-- The largest depth and the number of recoveries are always those of the episodes. The largest
duration is so exactly if the outcomes are unbroken: back at the peak, but not above it, the
curve goes on with the duration, where the episode has ended.
-/
theorem metricsAgree_iff_unbroken [IsStrictOrderedRing K] (outcomes : List (BetOutcomeRecord K))
    (startingEquity : K)
    : MetricsAgree (buildEquityCurve outcomes startingEquity)
      ↔ Unbroken startingEquity outcomes := by
  have charted := charted_curve startingEquity outcomes
  have same := charted.largest.eq_iff charted.durations Standing.rises_of_below
  rw [← (computeDrawdownMetrics_loop _).2.1] at same
  constructor
  · intro agree
    exact same.mp agree.maxUnderwaterDuration
  · intro unbroken
    exact
      { maxDrawdown := charted.depths
        maxUnderwaterDuration := same.mpr unbroken
        recoveryCount := charted.recoveries }

/-- A bet of stake 1 that ended at the instant. -/
def settled (epochMs : Int) (outcome : BetOutcome) (pnl : ℚ) : BetOutcomeRecord ℚ where
  betId := "bet"
  roundId := "round"
  dailyKey := "1970-01-01"
  timestamp := .iso epochMs
  outcome
  pnl
  stake := 1
  target := 2
  cashOutMultiplier := none
  latencyMs := none
  cashOutSuccess := none
  failureReason := none

/-- Two outcomes below the peak, one above it and one below it. -/
theorem newPeak_unbroken
    : Unbroken 0
        [settled 0 .loss (-1), settled 1 .failed 0, settled 2 .win 2, settled 3 .loss (-1)] :=
  (metricsAgree_iff_unbroken _ _).mp
    { maxDrawdown := by decide +kernel
      maxUnderwaterDuration := by decide +kernel
      recoveryCount := by decide +kernel }

/-- A loss that is won back exactly, and one more: each episode lasts for one bet, and the metrics
report two.
-/
theorem backAtPeak_disagrees
    : ¬ MetricsAgree (buildEquityCurve
        [settled 0 .loss (-1), settled 1 .win 1, settled 2 .loss (-1)] 0) := by
  intro agree
  have reported := agree.maxUnderwaterDuration
  exact absurd reported (by decide +kernel)

end CrashWave.Analytics
