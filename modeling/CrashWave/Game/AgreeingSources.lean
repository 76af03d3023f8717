import CrashWave.Game.AggregatedEvents
import Mathlib.Data.List.Pairwise

/-! Whether high confidence means that sources agree. It means that enough are fresh and that none
differ, and a source that lacks a field differs in it from nobody: sources agree where the fields
of two of them can be compared.
-/

namespace CrashWave.Game

open JavaScript

variable {a b : AdapterSnapshot}

-----------------------------------------------------------------------------------------
-- Two sources
-----------------------------------------------------------------------------------------

/-- Both show the same round and phase, and multipliers within a hundredth. -/
structure Agree (a b : AdapterSnapshot) : Prop where
  roundId : ∃ roundId, a.roundId = some roundId ∧ b.roundId = some roundId
  phase : ∃ phase, a.phase = some phase ∧ b.phase = some phase
  multiplier : ∃ first second, a.multiplier = some first ∧ b.multiplier = some second
    ∧ (first - second).abs ≤ .finite (1 / 100)

/-- Both show a field, and differ in it. -/
def Differ (a b : AdapterSnapshot) : Prop :=
  (∃ first second, a.roundId = some first ∧ b.roundId = some second
    ∧ first ≠ "" ∧ second ≠ "" ∧ first ≠ second)
  ∨ (∃ first second, a.multiplier = some first ∧ b.multiplier = some second
    ∧ apart first second = true)
  ∨ (∃ first second, a.phase = some first ∧ b.phase = some second
    ∧ first ≠ .unknown ∧ second ≠ .unknown ∧ first ≠ second)
  ∨ ∃ first second, a.crashPoint = some first ∧ b.crashPoint = some second
    ∧ apart first second = true

/-- Both show a round, a phase and a multiplier that can be compared: no id is empty and no phase
unknown for one of them only, and the multipliers have a difference.
-/
structure Comparable (a b : AdapterSnapshot) : Prop where
  roundId : ∃ first second, a.roundId = some first ∧ b.roundId = some second
    ∧ (first = "" ↔ second = "")
  phase : ∃ first second, a.phase = some first ∧ b.phase = some second
    ∧ (first = .unknown ↔ second = .unknown)
  multiplier : ∃ first second, a.multiplier = some first ∧ b.multiplier = some second
    ∧ first - second ≠ .nan

/-- The distance of two numbers is that of the numbers the other way round. -/
theorem distance_comm (first second : Number)
    : (first - second).abs = (second - first).abs := by
  change (first.add second.neg).abs = (second.add first.neg).abs
  cases first with
  | nan => cases second <;> rfl
  | infinity negative =>
      cases second with
      | nan => rfl
      | infinity other => cases negative <;> cases other <;> rfl
      | finite value => rfl
  | finite value =>
      cases second with
      | nan => rfl
      | infinity negative => rfl
      | finite other =>
          have distance : |value + -other| = |other + -value| := by
            rw [← sub_eq_add_neg, ← sub_eq_add_neg, abs_sub_comm]
          exact congrArg Number.finite distance

theorem apart_comm (first second : Number) : apart first second = apart second first := by
  rw [apart, apart, distance_comm]

/-- A distance that is not above a hundredth is at most one, unless there is none. -/
theorem within_iff {distance : Number}
    : distance.abs ≤ .finite (1 / 100)
      ↔ distance ≠ .nan ∧ ¬ (.finite (1 / 100) : Number) < distance.abs := by
  cases distance with
  | nan => exact iff_of_false (by decide) (by simp)
  | infinity negative => exact iff_of_false Bool.false_ne_true fun near => near.2 rfl
  | finite value =>
      have ordered : |value| ≤ 1 / 100 ↔ ¬ 1 / 100 < |value| := not_lt.symm
      have below : (.finite |value| : Number) ≤ .finite (1 / 100) ↔ |value| ≤ 1 / 100 :=
        decide_eq_true_iff
      have above : (.finite (1 / 100) : Number) < .finite |value| ↔ 1 / 100 < |value| :=
        decide_eq_true_iff
      simp only [Number.abs, below, above, ordered, ne_eq, reduceCtorEq, not_false_eq_true,
        true_and]

/-- A pair without a conflict differs in nothing. -/
theorem conflictsOf_eq_nil_iff : conflictsOf a b = [] ↔ ¬ Differ a b := by
  simp only [conflictsOf, Differ, List.append_eq_nil_iff, conflictIn_eq_nil_iff, not_or,
    not_exists, not_and, truthyText, Option.mem_def, Option.filter_eq_some_iff, and_assoc]
  refine and_congr ?_ (and_congr ?_ (and_congr ?_ ?_)) <;> grind

theorem Differ.symm (differ : Differ a b) : Differ b a := by
  rcases differ with ⟨first, second, ofA, ofB, named, otherNamed, other⟩
    | ⟨first, second, ofA, ofB, far⟩ | ⟨first, second, ofA, ofB, known, otherKnown, other⟩
    | ⟨first, second, ofA, ofB, far⟩
  · exact .inl ⟨second, first, ofB, ofA, otherNamed, named, other.symm⟩
  · exact .inr (.inl ⟨second, first, ofB, ofA, by rwa [apart_comm]⟩)
  · exact .inr (.inr (.inl ⟨second, first, ofB, ofA, otherKnown, known, other.symm⟩))
  · exact .inr (.inr (.inr ⟨second, first, ofB, ofA, by rwa [apart_comm]⟩))

/-- Sources that do not differ agree exactly in fields that can be compared. -/
theorem agree_iff_comparable (same : ¬ Differ a b) : Agree a b ↔ Comparable a b := by
  simp only [Differ, not_or, not_exists, not_and] at same
  obtain ⟨sameRound, sameMultiplier, samePhase, -⟩ := same
  constructor
  · rintro ⟨⟨roundId, roundA, roundB⟩, ⟨phase, phaseA, phaseB⟩,
      first, second, ofA, ofB, within⟩
    exact ⟨⟨roundId, roundId, roundA, roundB, Iff.rfl⟩,
      ⟨phase, phase, phaseA, phaseB, Iff.rfl⟩,
      first, second, ofA, ofB, (within_iff.mp within).1⟩
  · rintro ⟨⟨roundId, other, roundA, roundB, named⟩,
      ⟨phase, otherPhase, phaseA, phaseB, known⟩, first, second, ofA, ofB, numbers⟩
    constructor
    · by_cases empty : roundId = ""
      · exact ⟨"", empty ▸ roundA, named.mp empty ▸ roundB⟩
      · have otherNamed : other ≠ "" := fun none => empty (named.mpr none)
        have equal := not_not.mp (sameRound roundId other roundA roundB empty otherNamed)
        exact ⟨other, equal ▸ roundA, roundB⟩
    · by_cases unknown : phase = .unknown
      · exact ⟨.unknown, unknown ▸ phaseA, known.mp unknown ▸ phaseB⟩
      · have otherKnown : otherPhase ≠ .unknown := fun none => unknown (known.mpr none)
        have equal := not_not.mp (samePhase phase otherPhase phaseA phaseB unknown otherKnown)
        exact ⟨otherPhase, equal ▸ phaseA, phaseB⟩
    · have near := sameMultiplier first second ofA ofB
      exact ⟨first, second, ofA, ofB, within_iff.mpr ⟨numbers, by simpa [apart] using near⟩⟩

-----------------------------------------------------------------------------------------
-- The fresh sources
-----------------------------------------------------------------------------------------

namespace Aggregator

variable {aggregator : Aggregator} {now : Int} {timestamp : String}

/-- Two fresh sources meet a relation. -/
def FreshPair (aggregator : Aggregator) (now : Int)
    (related : AdapterSnapshot → AdapterSnapshot → Prop) : Prop :=
  ∃ source other a b, source ≠ other ∧ aggregator.freshSnapshot now source = some a
    ∧ aggregator.freshSnapshot now other = some b ∧ related a b

/-- The latency that the confidence is rated by. -/
def ratedLatency (aggregator : Aggregator) (now : Int) : Number :=
  averageLatency ((aggregator.freshSnapshots now).insertionSort sortsBefore)

/-- How many healthy sources are fresh. -/
def healthyCount (aggregator : Aggregator) (now : Int) : Nat :=
  ((aggregator.freshSnapshots now).filter (·.healthy)).length

theorem detectConflicts_eq_nil_iff {snapshots : List AdapterSnapshot}
    : detectConflicts snapshots = [] ↔ snapshots.Pairwise fun a b => ¬ Differ a b := by
  induction snapshots with
  | nil => exact iff_of_true rfl .nil
  | cons snapshot rest ih =>
      simp only [detectConflicts, List.append_eq_nil_iff, List.flatMap_eq_nil_iff,
        conflictsOf_eq_nil_iff, List.pairwise_cons, ih]

/-- There is a conflict exactly when two fresh sources differ. -/
theorem conflicts_eq_nil_iff
    : detectConflicts (aggregator.freshSnapshots now) = []
      ↔ ¬ aggregator.FreshPair now Differ := by
  let Same (source other : AdapterSource) : Prop :=
    ∀ a, aggregator.freshSnapshot now source = some a
      → ∀ b, aggregator.freshSnapshot now other = some b → ¬ Differ a b
  rw [detectConflicts_eq_nil_iff, freshSnapshots, List.pairwise_filterMap]
  constructor
  · rintro same ⟨source, other, a, b, different, freshA, freshB, differ⟩
    have symmetric : Std.Symm Same :=
      ⟨fun _ _ same b freshB a freshA differ => same a freshA b freshB differ.symm⟩
    have listed : ∀ source, source ∈ AdapterSource.all := by
      intro source
      cases source <;> decide
    have pairs : AdapterSource.all.Pairwise Same := same
    exact pairs.forall (listed source) (listed other) different a freshA b freshB differ
  · intro none
    have distinct : AdapterSource.all.Nodup := by decide
    refine distinct.imp fun {source other} different a freshA b freshB differ => ?_
    exact none ⟨source, other, a, b, different, freshA, freshB, differ⟩

theorem calculateConfidence_high_iff {snapshots : List AdapterSnapshot}
    {conflicts : List SourceConflict}
    : calculateConfidence snapshots conflicts = .high
      ↔ 2 ≤ (snapshots.filter (·.healthy)).length ∧ averageLatency snapshots < 500
        ∧ conflicts = [] := by
  have rated : ∀ avgLatency : Number,
      ConfidenceThreshold.high.reachedBy (snapshots.filter (·.healthy)).length avgLatency
          conflicts.length = true
        ↔ 2 ≤ (snapshots.filter (·.healthy)).length ∧ avgLatency < 500 ∧ conflicts = [] := by
    intro avgLatency
    simp only [ConfidenceThreshold.reachedBy, decide_eq_true_eq, ConfidenceThreshold.high,
      Nat.le_zero, List.length_eq_zero_iff]
  cases snapshots with
  | nil =>
      simp [calculateConfidence, ConfidenceThreshold.reachedBy, ConfidenceThreshold.high,
        ConfidenceThreshold.medium]
  | cons first rest =>
      simp only [calculateConfidence, if_neg (List.cons_ne_nil first rest)]
      split
      · next reaches => exact iff_of_true rfl ((rated _).mp reaches)
      · next short =>
          exact iff_of_false (by split <;> decide) fun high => short ((rated _).mpr high)

/-- The observation is rated high exactly when two healthy sources or more are fresh, they are
fast, and no two fresh ones differ.
-/
theorem confidence_high_iff
    : (aggregator.aggregateObservations now timestamp).1.confidence = .high
      ↔ 2 ≤ aggregator.healthyCount now ∧ aggregator.ratedLatency now < 500
        ∧ ¬ aggregator.FreshPair now Differ := by
  have counted : (((aggregator.freshSnapshots now).insertionSort sortsBefore).filter
      (·.healthy)).length = aggregator.healthyCount now :=
    ((List.perm_insertionSort _ _).filter _).length_eq
  unfold aggregateObservations
  dsimp only
  split
  · next none =>
      refine iff_of_false (by simp) ?_
      rintro ⟨enough, -⟩
      rw [← counted, List.head?_eq_none_iff.mp none] at enough
      cases enough
  · next primary leads =>
      dsimp only
      rw [calculateConfidence_high_iff, conflicts_eq_nil_iff, counted]
      rfl

/-- There is no conflict in such an observation. -/
theorem conflicts_of_high
    (high : (aggregator.aggregateObservations now timestamp).1.confidence = .high)
    : (aggregator.aggregateObservations now timestamp).1.conflicts = [] := by
  have same := (confidence_high_iff.mp high).2.2
  revert high
  unfold aggregateObservations
  dsimp only
  split
  · exact fun high => by cases high
  · exact fun _ => conflicts_eq_nil_iff.mpr same

/-- High confidence is given only where two fresh sources agree, no two of them conflict and they
are fast.
-/
structure HighMeansAgreement (aggregator : Aggregator) (now : Int) (timestamp : String) : Prop where
  agree : (aggregator.aggregateObservations now timestamp).1.confidence = .high
    → aggregator.FreshPair now Agree
  unconflicted : (aggregator.aggregateObservations now timestamp).1.confidence = .high
    → (aggregator.aggregateObservations now timestamp).1.conflicts = []
  fast : (aggregator.aggregateObservations now timestamp).1.confidence = .high
    → aggregator.ratedLatency now < 500

/-- It does exactly when fewer than two healthy sources are fresh, or they are slow, or two fresh
ones differ, or the fields of two fresh ones can be compared.
-/
theorem highMeansAgreement_iff (aggregator : Aggregator) (now : Int) (timestamp : String)
    : HighMeansAgreement aggregator now timestamp
      ↔ aggregator.healthyCount now < 2 ∨ ¬ aggregator.ratedLatency now < 500
        ∨ aggregator.FreshPair now Differ ∨ aggregator.FreshPair now Comparable := by
  constructor
  · rintro ⟨agree, -, -⟩
    by_cases high : (aggregator.aggregateObservations now timestamp).1.confidence = .high
    · obtain ⟨source, other, a, b, different, freshA, freshB, agrees⟩ := agree high
      have same : ¬ Differ a b := fun differ =>
        (confidence_high_iff.mp high).2.2
          ⟨source, other, a, b, different, freshA, freshB, differ⟩
      exact .inr (.inr (.inr ⟨source, other, a, b, different, freshA, freshB,
        (agree_iff_comparable same).mp agrees⟩))
    · rw [confidence_high_iff] at high
      by_cases enough : 2 ≤ aggregator.healthyCount now
      · by_cases fast : aggregator.ratedLatency now < 500
        · have differ : aggregator.FreshPair now Differ := by
            by_contra same
            exact high ⟨enough, fast, same⟩
          exact .inr (.inr (.inl differ))
        · exact .inr (.inl fast)
      · exact .inl (Nat.lt_of_not_le enough)
  · intro clear
    constructor
    · intro high
      obtain ⟨enough, fast, same⟩ := confidence_high_iff.mp high
      rcases clear with few | slow | differ
        | ⟨source, other, a, b, different, freshA, freshB, fields⟩
      · omega
      · exact absurd fast slow
      · exact absurd differ same
      · have equal : ¬ Differ a b := fun differ =>
          same ⟨source, other, a, b, different, freshA, freshB, differ⟩
        exact ⟨source, other, a, b, different, freshA, freshB,
          (agree_iff_comparable equal).mpr fields⟩
    · exact conflicts_of_high
    · exact fun high => (confidence_high_iff.mp high).2.1

/-- The socket tells of a change of state without a round, as it does before its first round;
the page shows a round that runs.
-/
def stateChange : SourceEvent where
  source := .websocket
  event :=
    { type := .gameStateChange
      roundId := none
      multiplier := none
      crashPoint := none
      phase := some .unknown
      source := "websocket"
      confidence := .high
      timestamp := "1970-01-01T00:00:00.001Z"
      latencyMs := 50 }
  receivedAt := 1
  now := 1
  timestamp := "1970-01-01T00:00:00.001Z"

/-- The two are rated high, and the aggregated event has no round and no multiplier. -/
theorem high_without_round
    : let shown :=
        (startedAggregator.handleSourceEvent
          (sourceEvent .dom .multiplierTick .running none)).1
      ((shown.handleSourceEvent stateChange).2.map fun event =>
          (event.confidence, event.roundId, event.multiplier))
        = some (.high, none, none)
      ∧ ¬ HighMeansAgreement (shown.received stateChange) 1 stateChange.timestamp := by
  intro shown
  refine ⟨by decide +kernel, fun law => ?_⟩
  have high : ((shown.received stateChange).aggregateObservations 1
      stateChange.timestamp).1.confidence = .high := by decide +kernel
  have named : ∀ source snapshot,
      (shown.received stateChange).freshSnapshot 1 source = some snapshot
      → snapshot.roundId ≠ none → source = .dom := by
    intro source snapshot fresh known
    have unnamed : source = .dom
        ∨ ((shown.received stateChange).freshSnapshot 1 source).all (·.roundId = none) := by
      cases source <;> decide +kernel
    rcases unnamed with page | unnamed
    · exact page
    · rw [fresh] at unnamed
      exact absurd (by simpa using unnamed) known
  obtain ⟨source, other, a, b, different, freshA, freshB, agrees⟩ := law.agree high
  obtain ⟨roundId, ofA, ofB⟩ := agrees.roundId
  have first := named source a freshA (by simp [ofA])
  have second := named other b freshB (by simp [ofB])
  exact different (first.trans second.symm)

end Aggregator

end CrashWave.Game
