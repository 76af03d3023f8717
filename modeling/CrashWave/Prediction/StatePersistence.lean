import CrashWave.JavaScript.Number
import CrashWave.Prediction.Acie.Engine
import CrashWave.Rings.Basic
import Mathlib.Data.List.Induction

/-! The incremental state engine: sufficient statistics of the crash points, updated at every
crash, and the ring of the last of them; then the snapshot of the prediction stack, and what a fresh
stack makes of it. The time of the last update, and the version and the time of a snapshot are left
out.
-/

namespace CrashWave.Incremental

open JavaScript Rings

structure HitCounters where
  t13 : Nat := 0
  t20 : Nat := 0
  t50 : Nat := 0
  deriving DecidableEq

structure RunState where
  below13 : Nat := 0
  above13 : Nat := 0
  below15 : Nat := 0
  above20 : Nat := 0
  maxBelow13 : Nat := 0
  maxAbove13 : Nat := 0
  deriving DecidableEq

/-- The four transition counts between below and above 1.3, and where the last crash was. -/
structure MarkovState where
  belowToBelow : Nat := 0
  belowToAbove : Nat := 0
  aboveToBelow : Nat := 0
  aboveToAbove : Nat := 0
  lastAbove13 : Option Bool := none
  deriving DecidableEq

structure WelfordState where
  n : Nat := 0
  mean : ℚ := 0
  m2 : ℚ := 0
  deriving DecidableEq

/-- `LAG_CAP`. -/
def lagCap : Nat := 64

/-- `SHORT_CAP`. -/
def shortCap : Nat := 30

structure IncrementalStateEngine where
  count : Nat := 0
  lastCrash : Option ℚ := none
  welford : WelfordState := {}
  ewma : ℚ := 1.3
  ewmaHit13 : ℚ := 0.65
  hits : HitCounters := {}
  runs : RunState := {}
  markov : MarkovState := {}
  lagRing : List ℚ := List.replicate lagCap 0
  lagLen : Nat := 0
  lagPos : Nat := 0
  shortRing : List ℚ := List.replicate shortCap 0
  shortLen : Nat := 0
  shortPos : Nat := 0
  shortSum : ℚ := 0
  shortSumSq : ℚ := 0
  shortHits13 : Nat := 0
  deriving DecidableEq

def WelfordState.add (w : WelfordState) (crashPoint : ℚ) : WelfordState :=
  let n := w.n + 1
  let delta := crashPoint - w.mean
  let mean := w.mean + delta / n
  { n, mean, m2 := w.m2 + delta * (crashPoint - mean) }

def HitCounters.add (hits : HitCounters) (crashPoint : ℚ) : HitCounters where
  t13 := if 1.3 ≤ crashPoint then hits.t13 + 1 else hits.t13
  t20 := if 2 ≤ crashPoint then hits.t20 + 1 else hits.t20
  t50 := if 5 ≤ crashPoint then hits.t50 + 1 else hits.t50

def RunState.add (r : RunState) (crashPoint : ℚ) : RunState :=
  let above := decide (1.3 ≤ crashPoint)
  let above13 := if above then r.above13 + 1 else 0
  let below13 := if above then 0 else r.below13 + 1
  {
    above13
    below13
    below15 := if crashPoint < 1.5 then r.below15 + 1 else 0
    above20 := if 2 ≤ crashPoint then r.above20 + 1 else 0
    maxBelow13 := max r.maxBelow13 below13
    maxAbove13 := max r.maxAbove13 above13
  }

def MarkovState.add (markov : MarkovState) (crashPoint : ℚ) : MarkovState :=
  let above := decide (1.3 ≤ crashPoint)
  let counted :=
    match markov.lastAbove13, above with
    | none, _ => markov
    | some false, false => { markov with belowToBelow := markov.belowToBelow + 1 }
    | some false, true => { markov with belowToAbove := markov.belowToAbove + 1 }
    | some true, false => { markov with aboveToBelow := markov.aboveToBelow + 1 }
    | some true, true => { markov with aboveToAbove := markov.aboveToAbove + 1 }
  { counted with lastAbove13 := some above }

namespace IncrementalStateEngine

/-- The lag ring with a crash point. -/
def pushLag (engine : IncrementalStateEngine) (crashPoint : ℚ) : IncrementalStateEngine :=
  { engine with
    lagRing := engine.lagRing.set engine.lagPos crashPoint
    lagPos := (engine.lagPos + 1) % lagCap
    lagLen := if engine.lagLen < lagCap then engine.lagLen + 1 else engine.lagLen }

/-- The short ring with a crash point, and its sums without the point that this evicts. -/
def pushShort (engine : IncrementalStateEngine) (crashPoint : ℚ) : IncrementalStateEngine :=
  let full := decide (engine.shortLen = shortCap)
  let evicted := if full then engine.shortRing.getD engine.shortPos 0 else 0
  let hits13 :=
    if full && decide (1.3 ≤ evicted) then engine.shortHits13 - 1 else engine.shortHits13
  { engine with
    shortLen := if full then engine.shortLen else engine.shortLen + 1
    shortRing := engine.shortRing.set engine.shortPos crashPoint
    shortPos := (engine.shortPos + 1) % shortCap
    shortSum := engine.shortSum - evicted + crashPoint
    shortSumSq := engine.shortSumSq - evicted * evicted + crashPoint * crashPoint
    shortHits13 := if 1.3 ≤ crashPoint then hits13 + 1 else hits13 }

/-- `update` from the check of the crash point on. -/
def add (engine : IncrementalStateEngine) (crashPoint : ℚ) : IncrementalStateEngine :=
  let counted :=
    { engine with
      welford := engine.welford.add crashPoint
      ewma := 0.05 * crashPoint + (1 - 0.05) * engine.ewma
      ewmaHit13 :=
        0.05 * (if 1.3 ≤ crashPoint then 1 else 0) + (1 - 0.05) * engine.ewmaHit13
      hits := engine.hits.add crashPoint
      runs := engine.runs.add crashPoint
      markov := engine.markov.add crashPoint }
  { (counted.pushLag crashPoint).pushShort crashPoint with
    count := engine.count + 1
    lastCrash := some crashPoint }

/-- The crash point that `update` accepts. -/
def accepted : Number → Option ℚ
  | .finite crashPoint => if crashPoint ≤ 0 then none else some crashPoint
  | .infinity _ | .nan => none

def update (engine : IncrementalStateEngine) (crashPoint : Number) : IncrementalStateEngine :=
  match accepted crashPoint with
  | none => engine
  | some crashPoint => engine.add crashPoint

/-- `seed`, after `reset`. -/
def seed (crashPoints : List ℚ) : IncrementalStateEngine :=
  crashPoints.foldl (fun engine crashPoint => engine.update (.finite crashPoint)) {}

/-- `getLagArray`. -/
def getLagArray (engine : IncrementalStateEngine) : List ℚ :=
  if engine.lagLen = 0 then []
  else
    let start := if engine.lagLen < lagCap then 0 else engine.lagPos
    readFrom 0 lagCap engine.lagRing start engine.lagLen

/-- `getRecentPoints`. -/
def getRecentPoints (engine : IncrementalStateEngine) (max : Nat) : List ℚ :=
  if min (min max engine.lagLen) lagCap = 0 then []
  else
    let start := (engine.lagPos + lagCap - engine.lagLen) % lagCap
    (readFrom 0 lagCap engine.lagRing start engine.lagLen).take max

/-- `hitRate`, whose target is 1.3, 2 or 5. -/
def hitRate (engine : IncrementalStateEngine) (target : ℚ) : ℚ :=
  if engine.count = 0 then 0
  else if target = 1.3 then engine.hits.t13 / engine.count
  else if target = 2 then engine.hits.t20 / engine.count
  else engine.hits.t50 / engine.count

end IncrementalStateEngine

end CrashWave.Incremental

-----------------------------------------------------------------------------------------
-- Snapshots
-----------------------------------------------------------------------------------------

namespace CrashWave.Persisted

open Acie Incremental JavaScript Rings

structure PredictionStackSnapshot (σ : Type) where
  crashPoints : List ℚ
  acieOnline : Option (OnlineAdaptiveState ℚ σ)
  acieCrashPoints : Option (List ℚ)
  acieConsecutiveLosses : Option Nat

variable {σ : Type}

def snapshotPredictionStack (maxPoints : Nat) (incremental : IncrementalStateEngine)
    (acie : Option (ACIEEngine σ)) : PredictionStackSnapshot σ :=
  let acieSnap := acie.map (·.exportSnapshot)
  {
    crashPoints := incremental.getRecentPoints maxPoints
    acieOnline := acieSnap.map (·.online)
    acieCrashPoints := acieSnap.map (·.crashPoints)
    acieConsecutiveLosses := acieSnap.map (·.consecutiveLosses)
  }

/-- `restoreIncrementalFromPoints`. -/
def restoreIncrementalFromPoints (incremental : IncrementalStateEngine) (points : List ℚ)
    : IncrementalStateEngine :=
  if points = [] then incremental else .seed points

/-- `applySnapshot`. -/
def applySnapshot (models : AcieModels σ) (snap : PredictionStackSnapshot σ)
    (incremental : IncrementalStateEngine) (acie : Option (ACIEEngine σ))
    : IncrementalStateEngine × Option (ACIEEngine σ) :=
  let pts := if snap.crashPoints ≠ [] then snap.crashPoints else snap.acieCrashPoints.getD []
  (restoreIncrementalFromPoints incremental pts,
    acie.map fun engine =>
      if snap.acieOnline.isSome || decide (snap.acieCrashPoints.getD [] ≠ []) then
        engine.importSnapshot models (snap.acieCrashPoints.getD snap.crashPoints)
          snap.acieOnline snap.acieConsecutiveLosses
      else engine)

-----------------------------------------------------------------------------------------
-- The incremental engine
-----------------------------------------------------------------------------------------

/-- The engine after valid crash points. -/
structure Follows (engine : IncrementalStateEngine) (points : List ℚ) : Prop where
  positive : ∀ point ∈ points, 0 < point
  seeded : engine = .seed points
  ring : Holds lagCap engine.lagRing points
  lagLen : engine.lagLen = held lagCap points.length
  lagPos : engine.lagPos = points.length % lagCap
  count : engine.count = points.length

namespace Follows

variable {engine : IncrementalStateEngine} {points : List ℚ}

theorem initial : Follows {} [] where
  positive := by simp
  seeded := rfl
  ring := holds_nil (List.length_replicate ..)
  lagLen := rfl
  lagPos := rfl
  count := rfl

theorem update_of_positive (engine : IncrementalStateEngine) {crashPoint : ℚ}
    (positive : 0 < crashPoint)
    : engine.update (.finite crashPoint) = engine.add crashPoint := by
  simp [IncrementalStateEngine.update, IncrementalStateEngine.accepted, not_le.mpr positive]

theorem seed_append (points : List ℚ) (crashPoint : ℚ)
    : IncrementalStateEngine.seed (points ++ [crashPoint])
      = (IncrementalStateEngine.seed points).update (.finite crashPoint) := by
  simp [IncrementalStateEngine.seed, List.foldl_append]

theorem add (follows : Follows engine points) {crashPoint : ℚ} (positive : 0 < crashPoint)
    : Follows (engine.add crashPoint) (points ++ [crashPoint]) where
  positive := by
    intro point member
    rcases List.mem_append.mp member with old | new
    · exact follows.positive point old
    · rwa [List.mem_singleton.mp new]
  seeded := by
    rw [seed_append, update_of_positive _ positive]
    exact congrArg (·.add crashPoint) follows.seeded
  ring := by
    have written := follows.ring.write crashPoint
    rw [← follows.lagPos] at written
    exact written
  lagLen := by
    simp only [IncrementalStateEngine.add, IncrementalStateEngine.pushShort,
      IncrementalStateEngine.pushLag, follows.lagLen, held, List.length_append,
      List.length_singleton]
    split <;> omega
  lagPos := by
    simp only [IncrementalStateEngine.add, IncrementalStateEngine.pushShort,
      IncrementalStateEngine.pushLag, follows.lagPos, List.length_append, List.length_singleton,
      lagCap]
    omega
  count := by
    simp [IncrementalStateEngine.add, follows.count]

/-- A crash point that the engine does not accept leaves it. -/
theorem update (follows : Follows engine points) (crashPoint : Number)
    : Follows (engine.update crashPoint)
        (points ++ (IncrementalStateEngine.accepted crashPoint).toList) := by
  cases accepted : IncrementalStateEngine.accepted crashPoint with
  | none => simpa [IncrementalStateEngine.update, accepted] using follows
  | some value =>
      have positive : 0 < value := by
        cases crashPoint with
        | finite point =>
            simp only [IncrementalStateEngine.accepted] at accepted
            split at accepted
            · cases accepted
            · next above =>
                obtain rfl := Option.some_inj.mp accepted
                exact not_le.mp above
        | infinity negative => cases accepted
        | nan => cases accepted
      simpa [IncrementalStateEngine.update, accepted] using follows.add positive

theorem seed (points : List ℚ) (positive : ∀ point ∈ points, 0 < point)
    : Follows (.seed points) points := by
  induction points using List.reverseRecOn with
  | nil => exact initial
  | append_singleton points last ih =>
      have before : Follows (.seed points) points :=
        ih fun point member => positive point (List.mem_append_left _ member)
      have above : 0 < last := positive last (by simp)
      have after := before.add above
      rwa [← update_of_positive _ above, ← seed_append] at after

/-- The points returned are the first ones that the ring holds. -/
theorem getRecentPoints_eq_take (follows : Follows engine points) (max : Nat)
    : engine.getRecentPoints max
      = (points.drop (points.length - held lagCap points.length)).take max := by
  unfold IncrementalStateEngine.getRecentPoints
  rw [follows.lagLen, follows.lagPos]
  split
  · next none =>
      rcases Nat.eq_zero_or_pos max with rfl | some
      · rfl
      · have empty : points.length = 0 := by
          simp only [held, lagCap] at none
          omega
        simp [List.length_eq_zero_iff.mp empty]
  · extract_lets start
    have aligned : start % lagCap = (points.length - held lagCap points.length) % lagCap := by
      simp only [start, held, lagCap]
      omega
    rw [follows.ring.readHeld 0 aligned]

/-- The snapshot holds the last crash points, as many as the ring does. -/
theorem getRecentPoints_eq (follows : Follows engine points) {max : Nat} (all : lagCap ≤ max)
    : engine.getRecentPoints max = points.drop (points.length - held lagCap points.length) := by
  have most : held lagCap points.length ≤ lagCap := Nat.min_le_right _ _
  rw [follows.getRecentPoints_eq_take, List.take_of_length_le]
  rw [List.length_drop]
  omega

end Follows

end CrashWave.Persisted
