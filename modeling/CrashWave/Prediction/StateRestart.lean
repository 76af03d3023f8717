import CrashWave.Prediction.CrashLearning
import CrashWave.Prediction.StatePersistence

/-! What of the prediction state a restart restores: as much of the incremental engine as its ring
holds, and the adaptive engine until its heavy validation answers the seeded points.
-/

namespace CrashWave.Persisted

open Acie Incremental JavaScript Prediction Rings Runs

variable {σ : Type}

/-- No more than asked for are all kept. -/
theorem lastOf_eq_self {α : Type} {count : Nat} {values : List α} (few : values.length ≤ count)
    : lastOf count values = values := by
  rw [lastOf, Nat.sub_eq_zero_of_le few, List.drop_zero]

-----------------------------------------------------------------------------------------
-- Importing into a fresh engine
-----------------------------------------------------------------------------------------

/-- A new engine with its options. -/
def freshEngine (maxInMemory : Nat) (heavyEvery : Number) (ewmaAlpha : ℚ) : ACIEEngine σ :=
  { maxInMemory, heavyEvery, ewmaAlpha }

/-- The callback of the engine, if one is set. -/
def settledEngine (engine : ACIEEngine σ) (threw : Bool) : ACIEEngine σ :=
  if engine.heavyEvidenceScheduled then engine.runHeavyEvidence threw else engine

/-- So many points ask for a heavy validation. -/
def AsksHeavy (heavyEvery : Number) (count : Nat) : Prop :=
  0 < count ∧ heavyEvery ≤ .finite count

instance (heavyEvery : Number) (count : Nat) : Decidable (AsksHeavy heavyEvery count) :=
  inferInstanceAs (Decidable (_ ∧ _))

theorem asksHeavy_succ_iff (heavyEvery : Number) (count : Nat)
    : AsksHeavy heavyEvery (count + 1)
      ↔ heavyEvery ≤ .finite (count + 1 : Nat) := by
  simp [AsksHeavy]

theorem AsksHeavy.succ {heavyEvery : Number} {count : Nat} (asks : AsksHeavy heavyEvery count)
    : AsksHeavy heavyEvery (count + 1) := by
  refine ⟨Nat.succ_pos count, ?_⟩
  have next := Number.le_add_one asks.2
  rw [Nat.cast_add_one]
  exact next

/-- One point more asks if it does itself, or those before it did. -/
theorem decide_asksHeavy_succ (heavyEvery : Number) (count : Nat)
    : (decide (heavyEvery ≤ .finite (count + 1 : Nat)) || decide (AsksHeavy heavyEvery count))
      = decide (AsksHeavy heavyEvery (count + 1)) := by
  rw [← Bool.decide_or, decide_eq_decide, asksHeavy_succ_iff]
  refine ⟨fun either => ?_, .inl⟩
  rcases either with now | before
  · exact now
  · exact (asksHeavy_succ_iff heavyEvery count).mp before.succ

/-- The engine after the points of a snapshot were seeded into a fresh one. -/
structure Seeded (heavyEvery : Number) (points : List ℚ) (engine : ACIEEngine σ) : Prop where
  every : engine.heavyEvery = heavyEvery
  crashPoints : engine.crashPoints = points
  since : engine.online.sinceHeavyValidation = points.length
  ids : ∀ roundId ∈ engine.processedRoundIds, ∃ index < points.length,
    roundId = s!"restore-{index}"
  pending : engine.pendingHeavyEvidence = decide (AsksHeavy heavyEvery points.length)
  scheduled : engine.heavyEvidenceScheduled = decide (AsksHeavy heavyEvery points.length)

theorem restoreId_injective {first second : Nat}
    (same : s!"restore-{first}" = s!"restore-{second}")
    : first = second := by
  have texts : "restore-" ++ toString first = "restore-" ++ toString second := by
    simpa [String.append_empty] using same
  have digits : Nat.toDigits 10 first = Nat.toDigits 10 second := by
    rw [← Nat.toList_repr, ← Nat.toList_repr]
    exact congrArg String.toList ((String.append_right_inj _).mp texts)
  rw [← Nat.ofDigitChars_ten_toDigits (n := first), digits, Nat.ofDigitChars_ten_toDigits]

namespace Seeded

variable {heavyEvery : Number} {points : List ℚ} {engine : ACIEEngine σ}

theorem fresh (maxInMemory : Nat) (heavyEvery : Number) (ewmaAlpha : ℚ)
    : Seeded heavyEvery [] (freshEngine maxInMemory heavyEvery ewmaAlpha : ACIEEngine σ) where
  every := rfl
  crashPoints := rfl
  since := rfl
  ids := by simp [freshEngine]
  pending := by simp [freshEngine, AsksHeavy]
  scheduled := by simp [freshEngine, AsksHeavy]

theorem evaluateNext (seeded : Seeded heavyEvery points engine) (models : AcieModels σ)
    : Seeded heavyEvery points (engine.evaluateNext models) :=
  ⟨seeded.every, seeded.crashPoints, seeded.since, seeded.ids, seeded.pending,
    seeded.scheduled⟩

theorem markProcessed_eq (engine : ACIEEngine σ) (roundId : String)
    : ∃ processedRoundIds, engine.markProcessed roundId = { engine with processedRoundIds } := by
  unfold ACIEEngine.markProcessed
  split
  · exact ⟨_, rfl⟩
  · exact ⟨_, rfl⟩

theorem markProcessed_subset (engine : ACIEEngine σ) (roundId : String)
    : ∀ other ∈ (engine.markProcessed roundId).processedRoundIds,
        other ∈ engine.processedRoundIds ∨ other = roundId := by
  intro other member
  unfold ACIEEngine.markProcessed at member
  split at member
  · exact .inl member
  · have among : other ∈ engine.processedRoundIds ++ [roundId] := by
      dsimp only at member
      split at member
      · exact List.mem_of_mem_drop member
      · exact member
    simpa using among

/-- Learning a point: what matters of it here. -/
theorem learn_fields (models : AcieModels σ) (engine : ACIEEngine σ) (roundId : String)
    (crashPoint : ℚ)
    : let after := engine.learn models roundId crashPoint
      let asks := decide
        (engine.heavyEvery ≤ .finite (engine.online.sinceHeavyValidation + 1 : Nat))
      after.heavyEvery = engine.heavyEvery
      ∧ after.crashPoints = lastOf 2000 (engine.crashPoints ++ [crashPoint])
      ∧ after.online.sinceHeavyValidation = engine.online.sinceHeavyValidation + 1
      ∧ after.processedRoundIds = engine.processedRoundIds
      ∧ after.pendingHeavyEvidence = (asks || engine.pendingHeavyEvidence)
      ∧ after.heavyEvidenceScheduled = (asks || engine.heavyEvidenceScheduled) := by
  intro after asks
  by_cases reached
      : engine.heavyEvery ≤ .finite (engine.online.sinceHeavyValidation + 1 : Nat)
  · have asked : asks = true := decide_eq_true reached
    simp only [after, ACIEEngine.learn,
      OnlineAdaptiveState.applyOnlineUpdate_sinceHeavyValidation, if_pos reached, asked,
      ACIEEngine.scheduleHeavyEvidence]
    cases engine.heavyEvidenceScheduled <;> simp
  · have quiet : asks = false := decide_eq_false reached
    have kept : after = _ := if_neg reached
    rw [kept, quiet]
    simp

/-- The next point is of another round than those before it. -/
theorem new_round (seeded : Seeded heavyEvery points engine)
    : s!"restore-{points.length}" ∉ engine.processedRoundIds := by
  intro known
  obtain ⟨index, before, same⟩ := seeded.ids _ known
  exact absurd (restoreId_injective same) (by omega)

theorem ids_markProcessed (seeded : Seeded heavyEvery points engine)
    : ∀ roundId ∈ (engine.markProcessed s!"restore-{points.length}").processedRoundIds,
        ∃ index < points.length + 1, roundId = s!"restore-{index}" := by
  intro roundId member
  rcases markProcessed_subset engine _ roundId member with old | same
  · obtain ⟨index, before, same⟩ := seeded.ids roundId old
    exact ⟨index, by omega, same⟩
  · exact ⟨points.length, Nat.lt_succ_self _, same⟩

/-- A point that is seeded next. -/
theorem ingest (seeded : Seeded heavyEvery points engine) (few : points.length < 2000)
    (models : AcieModels σ) {crashPoint : ℚ} (positive : 0 < crashPoint)
    : let result :=
        engine.ingestCrash models ⟨s!"restore-{points.length}", .finite crashPoint⟩ true
      result.2 = .learned ∧ Seeded heavyEvery (points ++ [crashPoint]) result.1 := by
  intro result
  have learned : result
      = ((engine.markProcessed s!"restore-{points.length}").learn models
          s!"restore-{points.length}" crashPoint, .learned) := by
    simp only [result, ACIEEngine.ingestCrash]
    rw [if_neg fun known => seeded.new_round known.2, if_neg (not_le.mpr positive)]
    rfl
  have known := seeded.ids_markProcessed
  obtain ⟨processedRoundIds, marked⟩ :=
    markProcessed_eq engine s!"restore-{points.length}"
  rw [learned]
  rw [marked] at known ⊢
  obtain ⟨every, crashPoints, since, ids, pending, scheduled⟩ := learn_fields models
    { engine with processedRoundIds } s!"restore-{points.length}" crashPoint
  have asked : (decide (engine.heavyEvery
        ≤ .finite (engine.online.sinceHeavyValidation + 1 : Nat))
      || decide (AsksHeavy heavyEvery points.length))
      = decide (AsksHeavy heavyEvery (points.length + 1)) := by
    rw [seeded.every, seeded.since]
    exact decide_asksHeavy_succ heavyEvery points.length
  refine ⟨rfl, ?_⟩
  constructor
  · exact every.trans seeded.every
  · rw [crashPoints, seeded.crashPoints]
    exact lastOf_eq_self (by simpa using Nat.succ_le_of_lt few)
  · rw [since, seeded.since]
    simp
  · rw [ids, List.length_append]
    exact known
  · rw [pending, List.length_append, List.length_singleton]
    simpa only [seeded.pending] using asked
  · rw [scheduled, List.length_append, List.length_singleton]
    simpa only [seeded.scheduled] using asked

/-- The points of a snapshot are all seeded, by induction on them. -/
theorem seedRounds (seeded : Seeded heavyEvery points engine) (models : AcieModels σ)
    (more : List ℚ) (few : points.length + more.length ≤ 2000)
    (positive : ∀ point ∈ more, 0 < point)
    : let result := engine.seedRounds models
        ((more.zipIdx points.length).map fun (crashPoint, index) =>
          ⟨s!"restore-{index}", .finite crashPoint⟩)
      .invalid ∉ result.2 ∧ Seeded heavyEvery (points ++ more) result.1 := by
  induction more generalizing points engine with
  | nil => simpa [ACIEEngine.seedRounds] using seeded
  | cons point rest ih =>
      obtain ⟨first, others⟩ := List.forall_mem_cons.mp positive
      rw [List.length_cons] at few
      obtain ⟨learned, after⟩ := seeded.ingest (by omega) models first
      have room : (points ++ [point]).length + rest.length ≤ 2000 := by
        simp only [List.length_append, List.length_singleton]
        omega
      obtain ⟨valid, final⟩ := ih after room others
      rw [List.length_append, List.length_singleton] at valid final
      simp only [List.zipIdx_cons, List.map_cons, ACIEEngine.seedRounds, learned]
      rw [if_neg (by decide)]
      refine ⟨?_, ?_⟩
      · simpa using valid
      · simpa using final

/-- What a fresh engine exports after an import, and whether it has set its callback. -/
theorem importSnapshot (maxInMemory : Nat) (heavyEvery : Number) (ewmaAlpha : ℚ)
    (models : AcieModels σ) {points : List ℚ} (few : points.length ≤ 2000)
    (positive : ∀ point ∈ points, 0 < point) (online : OnlineAdaptiveState ℚ σ)
    (consecutiveLosses : Nat)
    : let after := (freshEngine maxInMemory heavyEvery ewmaAlpha : ACIEEngine σ).importSnapshot
        models points (some online) (some consecutiveLosses)
      after.online = online ∧ after.crashPoints = points
      ∧ after.consecutiveLosses = consecutiveLosses
      ∧ after.pendingHeavyEvidence = decide (AsksHeavy heavyEvery points.length)
      ∧ after.heavyEvidenceScheduled = decide (AsksHeavy heavyEvery points.length) := by
  intro after
  have empty : Seeded heavyEvery []
      (freshEngine maxInMemory heavyEvery ewmaAlpha : ACIEEngine σ) :=
    fresh maxInMemory heavyEvery ewmaAlpha
  by_cases none : points = []
  · subst none
    exact ⟨rfl, rfl, rfl, empty.pending, empty.scheduled⟩
  · have all : lastOf 2000 (ACIEEngine.restoredRounds points)
        = ACIEEngine.restoredRounds points :=
      lastOf_eq_self (by simpa [ACIEEngine.restoredRounds] using few)
    obtain ⟨valid, seeded⟩ := empty.seedRounds models points (by simpa using few) positive
    have evaluated := seeded.evaluateNext models
    simp only [after, ACIEEngine.importSnapshot, if_neg none, ACIEEngine.seedHistory, all]
    change (.invalid : IngestOutcome) ∉ ((freshEngine maxInMemory heavyEvery ewmaAlpha :
      ACIEEngine σ).seedRounds models (ACIEEngine.restoredRounds points)).2 at valid
    rw [if_neg valid, if_neg valid]
    exact ⟨rfl, evaluated.crashPoints, rfl, evaluated.pending, evaluated.scheduled⟩

end Seeded

-----------------------------------------------------------------------------------------
-- What a restart restores
-----------------------------------------------------------------------------------------

/-- The observation count, the hit rates and the Markov counts are the same. -/
def SameStatistics (first second : IncrementalStateEngine) : Prop :=
  first.count = second.count
  ∧ (∀ target, first.hitRate target = second.hitRate target)
  ∧ first.markov.belowToBelow = second.markov.belowToBelow
  ∧ first.markov.belowToAbove = second.markov.belowToAbove
  ∧ first.markov.aboveToBelow = second.markov.aboveToBelow
  ∧ first.markov.aboveToAbove = second.markov.aboveToAbove

/-- A fresh stack with the snapshot of this one has the same statistics, and its adaptive engine
exports the same, before and after the callback that the import may have set.
-/
def SurvivesRestart (models : AcieModels σ) (fresh : ACIEEngine σ) (stack : LearningStack σ)
    : Prop :=
  let snap := snapshotPredictionStack 2000 stack.incremental (some stack.acie)
  let restored := applySnapshot models snap {} (some fresh)
  SameStatistics restored.1 stack.incremental
  ∧ ∀ engine ∈ restored.2,
      engine.exportSnapshot = stack.acie.exportSnapshot
      ∧ ∀ threw, (settledEngine engine threw).exportSnapshot = stack.acie.exportSnapshot

/-- The valid crash points among those observed. -/
def observedPoints (observed : List ObservedCrash) : List ℚ :=
  observed.filterMap fun crash => IncrementalStateEngine.accepted crash.crashPoint

/-- No more valid crash points were observed than the ring of the incremental engine holds, and if
none was, the adaptive engine has none either; and the points of the adaptive engine ask for no
heavy validation, or it has learned nothing since its last one.
-/
def Restorable (heavyEvery : Number) (points : List ℚ) (acie : ACIEEngine σ) : Prop :=
  points.length ≤ lagCap
  ∧ (points = [] → acie.crashPoints = [])
  ∧ (AsksHeavy heavyEvery acie.crashPoints.length → acie.online.sinceHeavyValidation = 0)

/-- An engine holds valid crash points, no more than 2000, and has counted its observations up to
its last heavy validation and since.
-/
structure ValidEngine (engine : ACIEEngine σ) : Prop where
  positive : ∀ point ∈ engine.crashPoints, 0 < point
  bounded : engine.crashPoints.length ≤ 2000
  counted : engine.online.lastHeavyValidationAt + engine.online.sinceHeavyValidation
    = engine.online.observationCount

/-- All its crash points are exported. -/
theorem ValidEngine.exported {engine : ACIEEngine σ} (valid : ValidEngine engine)
    : engine.exportSnapshot.crashPoints = engine.crashPoints := by
  simp only [ACIEEngine.exportSnapshot]
  exact lastOf_eq_self valid.bounded

variable {stack : LearningStack σ}

/-- Marking an online state as validated leaves it exactly when nothing was learned since. -/
theorem validated_eq_iff {online : OnlineAdaptiveState ℚ σ}
    (counted : online.lastHeavyValidationAt + online.sinceHeavyValidation
      = online.observationCount)
    : { online with
          sinceHeavyValidation := 0
          lastHeavyValidationAt := online.observationCount } = online
      ↔ online.sinceHeavyValidation = 0 := by
  constructor
  · intro same
    exact (congrArg (·.sinceHeavyValidation) same).symm
  · intro none
    have last : online.observationCount = online.lastHeavyValidationAt := by omega
    cases online
    dsimp only at last none
    subst last none
    rfl

/-- A callback that throws changes nothing of the export. -/
theorem settledEngine_threw (engine : ACIEEngine σ)
    : (settledEngine engine true).exportSnapshot = engine.exportSnapshot := by
  simp only [settledEngine, ACIEEngine.runHeavyEvidence]
  cases engine.heavyEvidenceScheduled with
  | false => rfl
  | true =>
      cases engine.pendingHeavyEvidence with
      | false => rfl
      | true => rfl

/-- A callback that returns changes the export unless its online state is marked already. -/
theorem settledEngine_returned_iff {engine : ACIEEngine σ}
    (counted : engine.online.lastHeavyValidationAt + engine.online.sinceHeavyValidation
      = engine.online.observationCount)
    (pending : engine.pendingHeavyEvidence = true)
    (scheduled : engine.heavyEvidenceScheduled = true)
    : (settledEngine engine false).exportSnapshot = engine.exportSnapshot
      ↔ engine.online.sinceHeavyValidation = 0 := by
  rw [← validated_eq_iff counted]
  simp [settledEngine, scheduled, ACIEEngine.runHeavyEvidence, pending,
    ACIEEngine.exportSnapshot]

/-- The callback changes nothing of the export exactly when none is set, or its online state is
marked already.
-/
theorem settled_same_iff {engine : ACIEEngine σ} {asks : Prop} [Decidable asks]
    (counted : engine.online.lastHeavyValidationAt + engine.online.sinceHeavyValidation
      = engine.online.observationCount)
    (pending : engine.pendingHeavyEvidence = decide asks)
    (scheduled : engine.heavyEvidenceScheduled = decide asks)
    : (∀ threw, (settledEngine engine threw).exportSnapshot = engine.exportSnapshot)
      ↔ (asks → engine.online.sinceHeavyValidation = 0) := by
  by_cases asked : asks
  · rw [decide_eq_true asked] at pending scheduled
    have returned := settledEngine_returned_iff counted pending scheduled
    constructor
    · intro settled _
      exact returned.mp (settled false)
    · intro marked threw
      cases threw with
      | false => exact returned.mpr (marked asked)
      | true => exact settledEngine_threw engine
  · rw [decide_eq_false asked] at scheduled
    refine iff_of_true (fun threw => ?_) (fun asks => absurd asks asked)
    simp [settledEngine, scheduled]

/-- The adaptive engine exports the same after a restart exactly when the points ask for no heavy
validation, or it changes nothing.
-/
theorem acie_survives_iff (models : AcieModels σ) (valid : ValidEngine stack.acie)
    (maxInMemory : Nat) (heavyEvery : Number) (ewmaAlpha : ℚ)
    : let exported := stack.acie.exportSnapshot
      let after := (freshEngine maxInMemory heavyEvery ewmaAlpha : ACIEEngine σ).importSnapshot
        models exported.crashPoints (some exported.online) (some exported.consecutiveLosses)
      (after.exportSnapshot = exported
        ∧ ∀ threw, (settledEngine after threw).exportSnapshot = exported)
      ↔ (AsksHeavy heavyEvery stack.acie.crashPoints.length →
          stack.acie.online.sinceHeavyValidation = 0) := by
  intro exported after
  have points : exported.crashPoints = stack.acie.crashPoints := valid.exported
  have bounded : exported.crashPoints.length ≤ 2000 := by
    rw [points]
    exact valid.bounded
  have positive : ∀ point ∈ exported.crashPoints, 0 < point := by
    rw [points]
    exact valid.positive
  obtain ⟨online, crashPoints, losses, pending, scheduled⟩
      : after.online = exported.online ∧ after.crashPoints = exported.crashPoints
        ∧ after.consecutiveLosses = exported.consecutiveLosses
        ∧ after.pendingHeavyEvidence
          = decide (AsksHeavy heavyEvery exported.crashPoints.length)
        ∧ after.heavyEvidenceScheduled
          = decide (AsksHeavy heavyEvery exported.crashPoints.length) :=
    Seeded.importSnapshot maxInMemory heavyEvery ewmaAlpha models bounded positive
      exported.online exported.consecutiveLosses
  clear_value after
  have same : after.exportSnapshot = exported := by
    simp only [ACIEEngine.exportSnapshot, online, crashPoints, losses]
    rw [lastOf_eq_self bounded]
  have counted : after.online.lastHeavyValidationAt + after.online.sinceHeavyValidation
      = after.online.observationCount := by
    rw [online]
    exact valid.counted
  have settled := settled_same_iff counted pending scheduled
  rw [same, online, points] at settled
  exact (and_iff_right same).trans settled

theorem restored_count {points : List ℚ} (positive : ∀ point ∈ points, 0 < point)
    : (restoreIncrementalFromPoints {} points).count = points.length := by
  unfold restoreIncrementalFromPoints
  split
  · next none =>
      rw [none]
      rfl
  · exact (Follows.seed points positive).count

/-- An engine is restored from all its crash points. -/
theorem restored_same {points : List ℚ} (follows : Follows stack.incremental points)
    : SameStatistics (restoreIncrementalFromPoints {} points) stack.incremental := by
  have same : restoreIncrementalFromPoints {} points = stack.incremental := by
    unfold restoreIncrementalFromPoints
    split
    · next none =>
        rw [follows.seeded, none]
        rfl
    · exact follows.seeded.symm
  rw [same]
  exact ⟨rfl, fun _ => rfl, rfl, rfl, rfl, rfl⟩

/-- The incremental engine has the same statistics after a restart exactly when its ring holds all
its crash points, and none are seeded instead of none.
-/
theorem incremental_survives_iff (models : AcieModels σ) {points : List ℚ}
    (follows : Follows stack.incremental points) (valid : ValidEngine stack.acie)
    (fresh : ACIEEngine σ)
    : SameStatistics
        (applySnapshot models
          (snapshotPredictionStack 2000 stack.incremental (some stack.acie)) {} (some fresh)).1
        stack.incremental
      ↔ points.length ≤ lagCap ∧ (points = [] → stack.acie.crashPoints = []) := by
  have recent : stack.incremental.getRecentPoints 2000
      = points.drop (points.length - held lagCap points.length) :=
    follows.getRecentPoints_eq (by decide)
  simp only [applySnapshot, snapshotPredictionStack, recent, Option.map_some, Option.getD_some,
    valid.exported]
  by_cases none : points = []
  · subst none
    rw [List.drop_nil, if_neg (not_not.mpr rfl)]
    constructor
    · intro same
      have count : stack.acie.crashPoints.length = 0 := by
        rw [← restored_count valid.positive, same.1, follows.count]
        rfl
      exact ⟨Nat.zero_le _, fun _ => List.length_eq_zero_iff.mp count⟩
    · intro restorable
      rw [restorable.2 rfl]
      exact restored_same follows
  · by_cases few : points.length ≤ lagCap
    · have whole : points.length - held lagCap points.length = 0 := by
        simp only [held]
        omega
      refine iff_of_true ?_ ⟨few, fun empty => absurd empty none⟩
      rw [whole, List.drop_zero, if_pos none]
      exact restored_same follows
    · refine iff_of_false ?_ (fun restorable => few restorable.1)
      intro same
      have length : (points.drop (points.length - held lagCap points.length)).length
          = lagCap := by
        simp only [List.length_drop, held]
        omega
      have kept : points.drop (points.length - held lagCap points.length) ≠ [] := by
        intro none
        rw [none] at length
        exact absurd length (by decide)
      have positive : ∀ point ∈ points.drop (points.length - held lagCap points.length),
          0 < point :=
        fun point member => follows.positive point (List.mem_of_mem_drop member)
      rw [if_pos kept] at same
      have count : points.length = lagCap :=
        follows.count.symm.trans (same.1.symm.trans ((restored_count positive).trans length))
      exact few count.le

/-- A restart restores the statistics of the incremental engine and the export of the adaptive one
exactly from the restorable states.
-/
theorem survivesRestart_iff (models : AcieModels σ) {points : List ℚ}
    (follows : Follows stack.incremental points)
    (valid : ValidEngine stack.acie) (maxInMemory : Nat) (heavyEvery : Number) (ewmaAlpha : ℚ)
    : SurvivesRestart models (freshEngine maxInMemory heavyEvery ewmaAlpha) stack
      ↔ Restorable heavyEvery points stack.acie := by
  have incremental := incremental_survives_iff models follows valid
    (freshEngine maxInMemory heavyEvery ewmaAlpha)
  have acie := acie_survives_iff models valid maxInMemory heavyEvery ewmaAlpha
  have restored
      : (applySnapshot models
          (snapshotPredictionStack 2000 stack.incremental (some stack.acie)) {}
          (some (freshEngine maxInMemory heavyEvery ewmaAlpha))).2
        = some ((freshEngine maxInMemory heavyEvery ewmaAlpha : ACIEEngine σ).importSnapshot
            models stack.acie.exportSnapshot.crashPoints (some stack.acie.exportSnapshot.online)
            (some stack.acie.exportSnapshot.consecutiveLosses)) := by
    simp only [applySnapshot, snapshotPredictionStack, Option.map_some, Option.isSome_some,
      Bool.true_or, if_true, Option.getD_some]
  simp only [SurvivesRestart, restored, Option.mem_some_iff, forall_eq']
  exact (incremental.and acie).trans and_assoc

-----------------------------------------------------------------------------------------
-- Runs
-----------------------------------------------------------------------------------------

namespace ValidEngine

variable {engine after : ACIEEngine σ}

/-- Only the crash points and the online state count. -/
theorem congr (valid : ValidEngine engine) (points : after.crashPoints = engine.crashPoints)
    (online : after.online = engine.online)
    : ValidEngine after where
  positive := by
    rw [points]
    exact valid.positive
  bounded := by
    rw [points]
    exact valid.bounded
  counted := by
    rw [online]
    exact valid.counted

theorem fresh (maxInMemory : Nat) (heavyEvery : Number) (ewmaAlpha : ℚ)
    : ValidEngine (freshEngine maxInMemory heavyEvery ewmaAlpha : ACIEEngine σ) where
  positive := by simp [freshEngine]
  bounded := Nat.zero_le _
  counted := rfl

theorem decideNext (valid : ValidEngine engine) (models : AcieModels σ) (skipDecision : Bool)
    : ValidEngine (engine.decideNext models skipDecision) := by
  cases skipDecision with
  | false => exact valid.congr rfl rfl
  | true => exact valid

theorem markProcessed (valid : ValidEngine engine) (roundId : String)
    : ValidEngine (engine.markProcessed roundId) := by
  obtain ⟨_, marked⟩ := Seeded.markProcessed_eq engine roundId
  rw [marked]
  exact valid.congr rfl rfl

theorem learn_online (models : AcieModels σ) (engine : ACIEEngine σ) (roundId : String)
    (crashPoint : ℚ)
    : ∃ params, (engine.learn models roundId crashPoint).online
        = engine.online.applyOnlineUpdate models.exp params := by
  simp only [ACIEEngine.learn, ACIEEngine.scheduleHeavyEvidence]
  split
  · split
    · exact ⟨_, rfl⟩
    · exact ⟨_, rfl⟩
  · exact ⟨_, rfl⟩

theorem learn (valid : ValidEngine engine) (models : AcieModels σ) (roundId : String)
    {crashPoint : ℚ} (positive : 0 < crashPoint)
    : ValidEngine (engine.learn models roundId crashPoint) := by
  obtain ⟨_, points, _⟩ := Seeded.learn_fields models engine roundId crashPoint
  obtain ⟨params, online⟩ := learn_online models engine roundId crashPoint
  constructor
  · rw [points]
    intro point member
    rcases List.mem_append.mp (List.mem_of_mem_drop member) with old | new
    · exact valid.positive point old
    · rwa [List.mem_singleton.mp new]
  · rw [points, lastOf, List.length_drop]
    omega
  · rw [online]
    simp only [OnlineAdaptiveState.applyOnlineUpdate_lastHeavyValidationAt,
      OnlineAdaptiveState.applyOnlineUpdate_sinceHeavyValidation,
      OnlineAdaptiveState.applyOnlineUpdate_observationCount]
    rw [← valid.counted, Nat.add_assoc]

theorem ingestCrash (valid : ValidEngine engine) (models : AcieModels σ)
    (round : ACIERoundInput) (skipDecision : Bool)
    : ValidEngine (engine.ingestCrash models round skipDecision).1 := by
  refine ACIEEngine.ingestCrash_invariant ?_ ?_ ?_ valid round skipDecision
  · exact fun _ roundId held => held.markProcessed roundId
  · exact fun _ roundId _ positive held => held.learn models roundId positive
  · exact fun _ held => held.congr rfl rfl

theorem seedHistory (valid : ValidEngine engine) (models : AcieModels σ)
    (rounds : List ACIERoundInput)
    : ValidEngine (engine.seedHistory models rounds).1 := by
  refine ACIEEngine.seedHistory_invariant ?_ ?_ valid
  · exact fun round _ _ held => held.ingestCrash models round true
  · exact fun _ held => held.congr rfl rfl

theorem ensureAcieSeeded (valid : ValidEngine stack.acie) (models : AcieModels σ)
    (recent : List ACIERoundInput)
    : ValidEngine (stack.ensureAcieSeeded models recent).acie := by
  have seeded := valid.seedHistory models recent
  simp only [LearningStack.ensureAcieSeeded]
  generalize stack.acie.seedHistory models recent = result at seeded ⊢
  split
  · exact valid
  · split
    · exact valid
    · exact seeded

theorem runHeavyEvidence (valid : ValidEngine engine) (threw : Bool)
    : ValidEngine (engine.runHeavyEvidence threw) := by
  simp only [ACIEEngine.runHeavyEvidence]
  split
  · exact valid.congr rfl rfl
  · split
    · exact valid.congr rfl rfl
    · exact ⟨valid.positive, valid.bounded, Nat.add_zero _⟩

end ValidEngine

section

variable {models : AcieModels σ} {service : EntryDecisionService}

/-- What holds of the stack in every run: the incremental engine is the one after the valid crash
points observed, and the adaptive engine is valid.
-/
structure Consistent (stack : LearningStack σ) : Prop where
  sound : stack.Sound
  follows : Follows stack.incremental (observedPoints stack.observed)
  valid : ValidEngine stack.acie

/-- Only an observed crash changes the incremental engine. -/
theorem next_incremental (stack : LearningStack σ) (event : LearningEvent)
    : (stack.next models service event).incremental
      = match event.observed with
        | none => stack.incremental
        | some crash => stack.incremental.update crash.crashPoint := by
  have seeded (recent : List ACIERoundInput)
      : (stack.ensureAcieSeeded models recent).incremental = stack.incremental := by
    unfold LearningStack.ensureAcieSeeded
    split
    · rfl
    · split <;> rfl
  cases event with
  | decide roundId env ctx recent =>
      simp only [LearningStack.next, LearningStack.evaluateEntry, LearningEvent.observed]
      split
      · rfl
      · split
        · exact seeded recent
        · split <;> exact seeded recent
  | crash delivery recent =>
      simp only [LearningStack.next, LearningEvent.observed]
      cases delivery.observed with
      | none => rfl
      | some crash =>
          simp only [LearningStack.observeCrash, LearningStack.learnCrash]
          split
          · simp only [LearningStack.feedback_same, seeded]
          · simp only [LearningStack.status, LearningStack.feedback_same, seeded]
  | heavyEvidence threw =>
      simp only [LearningStack.next, LearningEvent.observed]
      split <;> rfl
  | refit | evaluateDivergence | manualRecover => rfl

theorem ValidEngine.next (valid : ValidEngine stack.acie) (event : LearningEvent)
    : ValidEngine (stack.next models service event).acie := by
  cases event with
  | decide roundId env ctx recent =>
      have seeded := valid.ensureAcieSeeded models recent
      simp only [LearningStack.next, LearningStack.evaluateEntry]
      split
      · exact valid
      · split
        · exact seeded
        · split <;> exact seeded.congr rfl rfl
  | crash delivery recent =>
      simp only [LearningStack.next]
      split
      · exact valid
      · next crash _ =>
          have seeded := valid.ensureAcieSeeded models recent
          simp only [LearningStack.observeCrash, LearningStack.learnCrash]
          refine ValidEngine.ingestCrash ?_ models _ false
          split
          · simp only [LearningStack.feedback_same]
            exact seeded
          · simp only [LearningStack.status, LearningStack.feedback_same]
            exact seeded
  | heavyEvidence threw =>
      simp only [LearningStack.next]
      split
      · exact valid.runHeavyEvidence threw
      · exact valid
  | refit | evaluateDivergence | manualRecover => exact valid

theorem Consistent.next (consistent : Consistent stack) (event : LearningEvent)
    : Consistent (stack.next models service event) where
  sound := (LearningStack.next_effect consistent.sound event).sound
  valid := consistent.valid.next event
  follows := by
    rw [next_incremental, (LearningStack.next_effect consistent.sound event).observed]
    cases event.observed with
    | none => simpa using consistent.follows
    | some crash =>
        have more : observedPoints (stack.observed ++ [crash]) = observedPoints stack.observed
            ++ (IncrementalStateEngine.accepted crash.crashPoint).toList := by
          rw [observedPoints, List.filterMap_append]
          cases accepted : IncrementalStateEngine.accepted crash.crashPoint <;>
            simp [observedPoints, accepted]
        rw [Option.toList_some, more]
        exact consistent.follows.update crash.crashPoint

end

/-- A stack whose adaptive engine is new. -/
def freshStack (maxInMemory : Nat) (heavyEvery : Number) (ewmaAlpha : ℚ) : LearningStack σ :=
  { acie := freshEngine maxInMemory heavyEvery ewmaAlpha }

theorem freshStack_sound (maxInMemory : Nat) (heavyEvery : Number) (ewmaAlpha : ℚ)
    : (freshStack maxInMemory heavyEvery ewmaAlpha : LearningStack σ).Sound := by
  have initial : ({} : LearningStack σ).Sound := LearningStack.fedEvenly_initial.sound
  exact initial

theorem run_consistent (models : AcieModels σ) (service : EntryDecisionService)
    (maxInMemory : Nat) (heavyEvery : Number) (ewmaAlpha : ℚ) (events : List LearningEvent)
    : Consistent
        (run (LearningStack.next models service) (freshStack maxInMemory heavyEvery ewmaAlpha)
          events) := by
  have kept (stack : LearningStack σ) (event : LearningEvent) (consistent : Consistent stack)
      : Consistent (stack.next models service event) :=
    consistent.next event
  refine run_invariant kept events ?_
  exact ⟨freshStack_sound maxInMemory heavyEvery ewmaAlpha, Follows.initial,
    ValidEngine.fresh maxInMemory heavyEvery ewmaAlpha⟩

/-- The prediction state survives a restart after exactly the runs that leave it restorable. -/
theorem run_survivesRestart_iff (models : AcieModels σ) (service : EntryDecisionService)
    (maxInMemory : Nat) (heavyEvery : Number) (ewmaAlpha : ℚ) (events : List LearningEvent)
    : let stack := run (LearningStack.next models service)
        (freshStack maxInMemory heavyEvery ewmaAlpha) events
      SurvivesRestart models (freshEngine maxInMemory heavyEvery ewmaAlpha) stack
      ↔ Restorable heavyEvery
          (observedPoints (events.filterMap LearningEvent.observed)) stack.acie := by
  intro stack
  have consistent : Consistent stack :=
    run_consistent models service maxInMemory heavyEvery ewmaAlpha events
  have observed : stack.observed = events.filterMap LearningEvent.observed :=
    LearningStack.run_observed (freshStack_sound maxInMemory heavyEvery ewmaAlpha) events
  rw [← observed]
  exact survivesRestart_iff models consistent.follows consistent.valid maxInMemory heavyEvery
    ewmaAlpha

/-- So many crashes that each crash at 2. -/
def crashesAtTwo (count : Nat) : List LearningEvent :=
  (List.range count).map fun index => .crash (.direct ⟨s!"round-{index}", .finite 2⟩) []

theorem observedPoints_crashesAtTwo (count : Nat)
    : observedPoints ((crashesAtTwo count).filterMap LearningEvent.observed)
      = List.replicate count 2 := by
  have accepted : IncrementalStateEngine.accepted (.finite 2) = some 2 := by
    simp [IncrementalStateEngine.accepted]
  simp [observedPoints, crashesAtTwo, List.filterMap_map, Function.comp_def,
    LearningEvent.observed, CrashDelivery.observed, accepted, List.map_const']

/-- One crash more than the ring of the incremental engine holds. -/
theorem full_ring_not_restored
    : ¬ SurvivesRestart LearningStack.steadyModels (freshEngine 5000 50 0.05)
        (run (LearningStack.next LearningStack.steadyModels {}) (freshStack 5000 50 0.05)
          (crashesAtTwo 65)) := by
  intro survives
  have consistent := run_consistent LearningStack.steadyModels {} 5000 50 0.05 (crashesAtTwo 65)
  have restorable := (survivesRestart_iff LearningStack.steadyModels consistent.follows
    consistent.valid 5000 50 0.05).mp survives
  have observed : (run (LearningStack.next LearningStack.steadyModels {})
      (freshStack 5000 50 0.05) (crashesAtTwo 65)).observed
      = (crashesAtTwo 65).filterMap LearningEvent.observed :=
    LearningStack.run_observed (freshStack_sound 5000 50 0.05) (crashesAtTwo 65)
  have few := restorable.1
  rw [observed, observedPoints_crashesAtTwo, List.length_replicate] at few
  exact absurd few (by decide)

end CrashWave.Persisted
