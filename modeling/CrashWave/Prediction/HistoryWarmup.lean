import Mathlib.Data.List.ReduceOption
import CrashWave.Persistence.RoundRepository
import CrashWave.Prediction.RollingHistory

/-! The warm-up of the history from the database, with the rounds that complete meanwhile. What the
database answers is an input; how many rounds it is asked for is left out. The texts of dates and
their times are the platform's.
-/

namespace CrashWave.History

open JavaScript Persistence Runs

/-- A load whose read is in flight: how many rounds the buffer had at its start, and the rounds
that were passed since.
-/
structure WarmupLoad where
  id : Nat
  size : Nat
  passed : List HistoricalRound := []
  deriving DecidableEq

def WarmupLoad.pass (load : WarmupLoad) (round : HistoricalRound) : WarmupLoad :=
  { load with passed := load.passed ++ [round] }

/-- `warmPromise` is the load that it was made by. After its read a load is settled until the
`finally` of the call that started it.
-/
structure HistoricalDataService where
  buffer : RollingHistoryBuffer
  warmPromise : Option Nat := none
  reading : List WarmupLoad := []
  settled : List Nat := []
  started : Nat := 0
  deriving DecidableEq

inductive WarmupEvent where
  | ensureWarmed (force : Bool)
  | answered (load : Nat) (answer : Except String (List RoundRecord))
  | released (load : Nat)
  | onRoundCompleted (round : HistoricalRound)

/-- The text of a time, and the time of a text. -/
structure Dates where
  text : Int → String
  getTime : String → Int

def toHistorical (dates : Dates) (record : RoundRecord) (sequenceIndex : Option Nat)
    : Option HistoricalRound :=
  match record.finalConfirmedCrashPoint.or record.observedCrashPoint with
  | some (.finite crashPoint) =>
      if crashPoint ≤ 0 then none
      else
        some {
          id := some record.id
          externalRoundId := some record.externalRoundId
          sessionId := some record.sessionId
          startedAt := record.startedAt
          crashedAt := record.crashedAt
          crashPoint := .finite crashPoint
          observationSource := record.observationSource
          dataQuality := record.dataQuality
          createdAt := dates.text record.createdAt
          sequenceIndex
        }
  | _ => none

/-- The rounds that `loadAndWarm` makes of the records, which come newest first. -/
def loadedRounds (dates : Dates) (records : List RoundRecord) : List HistoricalRound :=
  (records.reverse.mapIdx fun i record => toHistorical dates record (some i)).reduceOption

namespace HistoricalDataService

/-- `ensureWarmed`, up to the read of the load that it starts. -/
def ensureWarmed (service : HistoricalDataService) (force : Bool) : HistoricalDataService :=
  if service.buffer.warmed && !force then service
  else if service.warmPromise.isSome && !force then service
  else
    { service with
      warmPromise := some service.started
      reading :=
        service.reading ++ [{ id := service.started, size := service.buffer.rounds.length }]
      started := service.started + 1 }

/-- The rest of `loadAndWarm`. -/
def answered (dates : Dates) (service : HistoricalDataService) (load : Nat)
    (answer : Except String (List RoundRecord)) : HistoricalDataService :=
  if service.reading.any (·.id = load) then
    { service with
      buffer :=
        match answer with
        | .ok records => service.buffer.warm dates.getTime (loadedRounds dates records)
        | .error _ => service.buffer
      reading := service.reading.filter (·.id ≠ load)
      settled := service.settled ++ [load] }
  else service

/-- The `finally` of the call that started the load. -/
def released (service : HistoricalDataService) (load : Nat) : HistoricalDataService :=
  if load ∈ service.settled then
    { service with
      warmPromise := none
      settled := service.settled.erase load }
  else service

def onRoundCompleted (service : HistoricalDataService) (round : HistoricalRound)
    : HistoricalDataService :=
  { service with
    buffer := service.buffer.append round
    reading := service.reading.map (·.pass round) }

def step (dates : Dates) (service : HistoricalDataService)
    : WarmupEvent → HistoricalDataService
  | .ensureWarmed force => service.ensureWarmed force
  | .answered load answer => service.answered dates load answer
  | .released load => service.released load
  | .onRoundCompleted round => service.onRoundCompleted round

end HistoricalDataService

-----------------------------------------------------------------------------------------
-- What a load keeps
-----------------------------------------------------------------------------------------

/-- One of the records has an identifier of the round. -/
def isAnswered (records : List RoundRecord) (round : HistoricalRound) : Bool :=
  records.any fun record =>
    some record.id = round.id || some record.externalRoundId = round.externalRoundId

/-- The rounds passed during the load's read fit in beside those that were there before. -/
def WarmupLoad.Fits (load : WarmupLoad) (buffer : RollingHistoryBuffer) : Prop :=
  ¬ buffer.maxSize < .finite (load.size + load.passed.length : Nat)

instance (load : WarmupLoad) (buffer : RollingHistoryBuffer) : Decidable (load.Fits buffer) :=
  inferInstanceAs (Decidable (¬ _ < _))

/-- When the load is over, the rounds that were passed during its read and are missing from the
answer are in the buffer.
-/
def KeepsPassed (dates : Dates) (service : HistoricalDataService)
    : WarmupEvent → Prop
  | .answered id answer =>
      ∀ load ∈ service.reading, load.id = id → load.Fits service.buffer → ∀ round ∈ load.passed,
        isAnswered (answer.toOption.getD []) round = false
        → isKnown (service.answered dates id answer).buffer.rounds round = true
  | _ => True

/-- No call is forced while a load reads, nor before the call that made a load which failed is over
if the buffer was never warmed.
-/
def ForcedAlone (service : HistoricalDataService) : WarmupEvent → Prop
  | .ensureWarmed true =>
      service.reading = [] ∧ (service.buffer.warmed = true ∨ service.warmPromise = none)
  | _ => True

/-- Where a read succeeds, all rounds that were passed during it are in the answer. -/
def AnswersPassed (service : HistoricalDataService) : WarmupEvent → Prop
  | .answered id (.ok records) =>
      ∀ load ∈ service.reading, load.id = id → load.Fits service.buffer → ∀ round ∈ load.passed,
        isAnswered records round = true
  | _ => True

instance (service : HistoricalDataService) : (event : WarmupEvent)
    → Decidable (ForcedAlone service event)
  | .ensureWarmed true =>
      inferInstanceAs (Decidable (_ = [] ∧ (_ = true ∨ _ = none)))
  | .ensureWarmed false | .answered _ _ | .released _ | .onRoundCompleted _ => .isTrue trivial

instance (service : HistoricalDataService) : (event : WarmupEvent)
    → Decidable (AnswersPassed service event)
  | .answered id (.ok records) =>
      inferInstanceAs (Decidable (∀ load ∈ service.reading, load.id = id →
        load.Fits service.buffer → ∀ round ∈ load.passed, isAnswered records round = true))
  | .answered _ (.error _) | .ensureWarmed _ | .released _ | .onRoundCompleted _ =>
      .isTrue trivial

-----------------------------------------------------------------------------------------
-- The buffer
-----------------------------------------------------------------------------------------

variable {buffer : RollingHistoryBuffer} {rounds : List HistoricalRound}
  {round other : HistoricalRound}

theorem isKnown_reindex (rounds : List HistoricalRound) (round : HistoricalRound)
    : isKnown (reindex rounds) round = isKnown rounds round := by
  let test : HistoricalRound → Bool :=
    fun r => r.id = round.id || r.externalRoundId = round.externalRoundId
  have same : (reindex rounds).map test = rounds.map test := map_reindex (fun _ _ => rfl) rounds
  have tests := congrArg (List.any · id) same
  rwa [List.any_map, List.any_map] at tests

theorem isKnown_of_subset {others : List HistoricalRound} (subset : rounds ⊆ others)
    (known : isKnown rounds round = true)
    : isKnown others round = true := by
  obtain ⟨kept, among, same⟩ := List.any_eq_true.mp known
  exact List.any_eq_true.mpr ⟨kept, subset among, same⟩

theorem append_of_room (new : isKnown buffer.rounds round = false)
    (room : ¬ buffer.maxSize < .finite (buffer.rounds.length + 1 : Nat))
    : (buffer.append round).rounds = reindex (buffer.rounds ++ [round]) := by
  rw [append_of_new new, evict_of_room]
  rw [List.length_append, List.length_singleton]
  exact room

/-- An append with room keeps what was known. -/
theorem isKnown_append (room : ¬ buffer.maxSize < .finite (buffer.rounds.length + 1 : Nat))
    (known : isKnown buffer.rounds other = true)
    : isKnown (buffer.append round).rounds other = true := by
  cases new : isKnown buffer.rounds round with
  | true => rwa [append_of_known new]
  | false =>
      rw [append_of_room new room, isKnown_reindex]
      exact isKnown_of_subset (List.subset_append_left _ _) known

theorem isKnown_append_self (room : ¬ buffer.maxSize < .finite (buffer.rounds.length + 1 : Nat))
    : isKnown (buffer.append round).rounds round = true := by
  cases new : isKnown buffer.rounds round with
  | true => rwa [append_of_known new]
  | false =>
      rw [append_of_room new room, isKnown_reindex]
      simp [isKnown]

theorem length_append_le (buffer : RollingHistoryBuffer) (round : HistoricalRound)
    : (buffer.append round).rounds.length ≤ buffer.rounds.length + 1 := by
  cases known : isKnown buffer.rounds round with
  | true =>
      rw [append_of_known known]
      exact Nat.le_succ _
  | false =>
      obtain ⟨dropped, recent⟩ := evict_eq_drop buffer.maxSize (buffer.rounds ++ [round])
      rw [append_of_new known, length_reindex, recent, List.length_drop, List.length_append,
        List.length_singleton]
      exact Nat.sub_le _ _

/-- A warmed buffer knows rounds of the load only. -/
theorem isKnown_of_isKnown_warm {dates : Dates}
    (known : isKnown (buffer.warm dates.getTime rounds).rounds round = true)
    : isKnown rounds round = true := by
  rw [RollingHistoryBuffer.warm, isKnown_reindex] at known
  let sorted := rounds.insertionSort fun a b => a.time dates.getTime ≤ b.time dates.getTime
  obtain ⟨dropped, recent⟩ := sliceFrom_eq_drop sorted buffer.maxSize.neg
  refine isKnown_of_subset ?_ known
  intro kept among
  rw [recent] at among
  exact (List.mem_insertionSort _).mp (List.mem_of_mem_drop among)

/-- A round that is made of a record has its identifiers. -/
theorem isAnswered_of_isKnown {records : List RoundRecord}
    (known : isKnown (loadedRounds dates records) round = true)
    : isAnswered records round = true := by
  obtain ⟨loaded, among, same⟩ := List.any_eq_true.mp known
  rw [loadedRounds, List.reduceOption_mem_iff, List.mem_mapIdx] at among
  obtain ⟨index, bound, made⟩ := among
  refine List.any_eq_true.mpr ⟨_, List.mem_reverse.mp (List.getElem_mem bound), ?_⟩
  generalize records.reverse[index] = record at made
  unfold toHistorical at made
  split at made
  · split at made
    · cases made
    · obtain rfl := Option.some_inj.mp made
      exact same
  · cases made

-----------------------------------------------------------------------------------------
-- Loads alone
-----------------------------------------------------------------------------------------

variable {dates : Dates} {service : HistoricalDataService}

/-- The buffer has what was passed during the load's read, if that fits in. -/
def WarmupLoad.Tracked (load : WarmupLoad) (buffer : RollingHistoryBuffer) : Prop :=
  load.Fits buffer
  → buffer.rounds.length ≤ load.size + load.passed.length
    ∧ ∀ round ∈ load.passed, isKnown buffer.rounds round = true

theorem WarmupLoad.Tracked.pass {load : WarmupLoad} (tracked : load.Tracked buffer)
    (round : HistoricalRound)
    : (load.pass round).Tracked (buffer.append round) := by
  intro fits
  have bound : ¬ buffer.maxSize < .finite (load.size + (load.passed.length + 1) : Nat) := by
    simpa [WarmupLoad.Fits, WarmupLoad.pass] using fits
  have fewer : ∀ count : Nat, count ≤ load.size + (load.passed.length + 1)
      → ¬ buffer.maxSize < .finite count := by
    intro count less below
    exact bound (Number.lt_finite_of_le (Nat.cast_le.mpr less) below)
  obtain ⟨size, known⟩ := tracked (fewer _ (by omega))
  have room : ¬ buffer.maxSize < .finite (buffer.rounds.length + 1 : Nat) :=
    fewer _ (by omega)
  constructor
  · calc (buffer.append round).rounds.length
      _ ≤ buffer.rounds.length + 1 := length_append_le buffer round
      _ ≤ load.size + (load.passed.length + 1) := Nat.succ_le_succ size
      _ = (load.pass round).size + (load.pass round).passed.length := by
          simp [WarmupLoad.pass]
  · intro passed among
    rcases List.mem_append.mp among with earlier | now
    · exact isKnown_append room (known passed earlier)
    · rw [List.mem_singleton.mp now]
      exact isKnown_append_self room

/-- One load at most reads; until the first warm-up the promise is the one of the load that is not
over; and a load's rounds are in the buffer during its read.
-/
structure Warming (service : HistoricalDataService) : Prop where
  alone : service.reading.length ≤ 1
  owned : service.buffer.warmed = false →
    service.reading.map (·.id) ++ service.settled = service.warmPromise.toList
  tracked : ∀ load ∈ service.reading, load.Tracked service.buffer

/-- A load that starts alone. -/
theorem Warming.start (warming : Warming service) (none : service.reading = [])
    (ended : service.buffer.warmed = true ∨ service.warmPromise = .none)
    : Warming
        { service with
          warmPromise := some service.started
          reading :=
            service.reading ++ [{ id := service.started, size := service.buffer.rounds.length }]
          started := service.started + 1 } where
  alone := by simp [none]
  owned := by
    intro cold
    have promise : service.warmPromise = .none := by
      rcases ended with warm | promise
      · exact absurd (cold.symm.trans warm) Bool.false_ne_true
      · exact promise
    have idle := warming.owned cold
    rw [none, promise] at idle
    simp only [List.map_nil, List.nil_append, Option.toList_none] at idle
    simp [none, idle]
  tracked := by
    intro load among
    rw [none, List.nil_append, List.mem_singleton] at among
    subst among
    intro _
    exact ⟨le_rfl, by simp⟩

theorem Warming.ensureWarmed (warming : Warming service) {force : Bool}
    (lawful : ForcedAlone service (.ensureWarmed force))
    : Warming (service.ensureWarmed force) := by
  unfold HistoricalDataService.ensureWarmed
  cases force with
  | true =>
      simp only [Bool.not_true, Bool.and_false, Bool.false_eq_true, if_false]
      exact warming.start lawful.1 lawful.2
  | false =>
      simp only [Bool.not_false, Bool.and_true]
      split
      · exact warming
      · next cold =>
          split
          · exact warming
          · next unpromised =>
              have promise : service.warmPromise = none := by simpa using unpromised
              have idle := warming.owned (by simpa using cold)
              rw [promise, Option.toList_none] at idle
              obtain ⟨unread, _⟩ := List.append_eq_nil_iff.mp idle
              exact warming.start (List.map_eq_nil_iff.mp unread) (.inr promise)

/-- The load whose read is answered is the only one that reads. -/
theorem Warming.reading_eq (warming : Warming service) {load : WarmupLoad}
    (reads : load ∈ service.reading)
    : service.reading = [load] := by
  obtain ⟨before, after, whole⟩ := List.append_of_mem reads
  have alone := warming.alone
  rw [whole, List.length_append, List.length_cons] at alone
  have first : before = [] := List.eq_nil_of_length_eq_zero (by omega)
  have last : after = [] := List.eq_nil_of_length_eq_zero (by omega)
  rw [whole, first, last, List.nil_append]

theorem Warming.answered (warming : Warming service) (load : Nat)
    (answer : Except String (List RoundRecord))
    : Warming (service.answered dates load answer) := by
  unfold HistoricalDataService.answered
  split
  · next reads =>
      obtain ⟨own, among, named⟩ := List.any_eq_true.mp reads
      have only := warming.reading_eq among
      have named : own.id = load := by simpa using named
      have ended : service.reading.filter (·.id ≠ load) = [] := by simp [only, named]
      rw [ended]
      constructor
      · exact Nat.zero_le _
      · intro cold
        cases answer with
        | ok records => cases cold
        | error _ =>
            have promised := warming.owned cold
            rw [only, List.map_singleton, named] at promised
            have others : service.settled = [] := by
              cases promise : service.warmPromise <;> simp_all
            simpa [others] using promised
      · simp
  · exact warming

theorem Warming.released (warming : Warming service) (load : Nat)
    : Warming (service.released load) := by
  unfold HistoricalDataService.released
  split
  · next ended =>
      refine ⟨warming.alone, ?_, warming.tracked⟩
      intro cold
      have promised := warming.owned cold
      cases promise : service.warmPromise with
      | none =>
          rw [promise, Option.toList_none] at promised
          rw [(List.append_eq_nil_iff.mp promised).2] at ended
          cases ended
      | some own =>
          rw [promise, Option.toList_some] at promised
          rcases List.append_eq_singleton_iff.mp promised with ⟨none, one⟩ | ⟨_, empty⟩
          · rw [one, List.mem_singleton] at ended
            simp [none, one, ended]
          · rw [empty] at ended
            cases ended
  · exact warming

theorem Warming.onRoundCompleted (warming : Warming service) (round : HistoricalRound)
    : Warming (service.onRoundCompleted round) where
  alone := by
    rw [HistoricalDataService.onRoundCompleted, List.length_map]
    exact warming.alone
  owned := by
    intro cold
    have promised := warming.owned ((warmed_append service.buffer round).symm.trans cold)
    simp only [HistoricalDataService.onRoundCompleted, List.map_map]
    exact promised
  tracked := by
    intro load among
    obtain ⟨before, earlier, rfl⟩ := List.mem_map.mp among
    exact (warming.tracked before earlier).pass round

theorem Warming.step (warming : Warming service) (event : WarmupEvent)
    (lawful : ForcedAlone service event)
    : Warming (service.step dates event) := by
  cases event with
  | ensureWarmed force => exact warming.ensureWarmed lawful
  | answered load answer => exact warming.answered load answer
  | released load => exact warming.released load
  | onRoundCompleted round => exact warming.onRoundCompleted round

/-- A load alone keeps what was passed to it exactly when a read that succeeds has found it. -/
theorem keepsPassed_iff (warming : Warming service) (event : WarmupEvent)
    : KeepsPassed dates service event ↔ AnswersPassed service event := by
  cases event with
  | ensureWarmed | released | onRoundCompleted => exact Iff.rfl
  | answered id answer =>
      cases answer with
      | error message =>
          refine iff_of_true ?_ trivial
          intro load reads _ fits round among _
          have known := (warming.tracked load reads fits).2 round among
          unfold HistoricalDataService.answered
          split <;> exact known
      | ok records =>
          constructor
          · intro keeps load reads named fits round among
            by_contra missing
            have present : service.reading.any (·.id = id) = true :=
              List.any_eq_true.mpr ⟨load, reads, by simpa using named⟩
            have kept := keeps load reads named fits round among (Bool.eq_false_iff.mpr missing)
            rw [HistoricalDataService.answered, if_pos present] at kept
            exact missing (isAnswered_of_isKnown (isKnown_of_isKnown_warm kept))
          · intro found load reads named fits round among missing
            have answered := found load reads named fits round among
            exact absurd (answered.symm.trans missing) Bool.false_ne_true.symm

-----------------------------------------------------------------------------------------
-- Runs
-----------------------------------------------------------------------------------------

theorem warming_create (maxSize : Number) : Warming { buffer := .create maxSize } where
  alone := Nat.zero_le _
  owned _ := rfl
  tracked := by simp

/-- Along every run whose forced calls come alone, one load at most reads; and exactly where every
answer has the rounds that were passed during its read, none of them is lost.
-/
theorem warmup_keeps_iff (dates : Dates) (maxSize : Number) (events : List WarmupEvent)
    (alone : Always (HistoricalDataService.step dates) ForcedAlone
      { buffer := .create maxSize } events)
    : Always (HistoricalDataService.step dates)
        (fun service event => (service.step dates event).reading.length ≤ 1)
        { buffer := .create maxSize } events
      ∧ (Always (HistoricalDataService.step dates) (KeepsPassed dates)
            { buffer := .create maxSize } events
          ↔ Always (HistoricalDataService.step dates) AnswersPassed
            { buffer := .create maxSize } events) := by
  have kept : ∀ (service : HistoricalDataService) (event : WarmupEvent),
      Warming service → ForcedAlone service event
      → (Warming service ∧ Warming (service.step dates event))
        ∧ Warming (service.step dates event) := by
    intro service event warming lawful
    have next : Warming (service.step dates event) := warming.step event lawful
    exact ⟨⟨warming, next⟩, next⟩
  have warmings := alone.of_invariant kept (warming_create maxSize)
  refine ⟨warmings.mono fun _ _ both => both.2.alone, ?_, ?_⟩
  · intro keeps
    exact (warmings.and keeps).mono fun _ event both => (keepsPassed_iff both.1.1 event).mp both.2
  · intro found
    exact (warmings.and found).mono fun _ event both => (keepsPassed_iff both.1.1 event).mpr both.2

/-- The rounds that a warm-up was passed and finds, and those passed during a read that fails. -/
theorem warmup_keeps_found
    : let round : HistoricalRound :=
        { id := some "r1", externalRoundId := some "r1", crashPoint := .finite 2, createdAt := "" }
      let record : RoundRecord :=
        {
          id := "a7"
          externalRoundId := "r1"
          sessionId := "s"
          startedAt := none
          crashedAt := none
          observedCrashPoint := some (.finite 2)
          finalConfirmedCrashPoint := none
          observationSource := none
          dataQuality := none
          createdAt := 0
        }
      Always (HistoricalDataService.step ⟨fun _ => "", fun _ => 0⟩)
        (KeepsPassed ⟨fun _ => "", fun _ => 0⟩)
        { buffer := .create 200 }
        [.ensureWarmed false, .onRoundCompleted round, .answered 0 (.error "ROUND_RECENT_FAILED"),
          .released 0, .ensureWarmed false, .onRoundCompleted round,
          .answered 1 (.ok [record])] := by
  exact (warmup_keeps_iff _ 200 _ (by decide)).2.mpr (by decide +kernel)

/-- A round that completes while the buffer is first warmed, and that the answer does not have, is
lost; and with a forced call two loads read.
-/
theorem warmup_loses
    : let round : HistoricalRound :=
        { id := some "r1", externalRoundId := some "r1", crashPoint := .finite 2, createdAt := "" }
      let idle : HistoricalDataService := { buffer := .create 200 }
      let step := HistoricalDataService.step ⟨fun _ => "", fun _ => 0⟩
      isKnown (run step idle [.ensureWarmed false, .onRoundCompleted round]).buffer.rounds round
          = true
        ∧ isKnown
            (run step idle
              [.ensureWarmed false, .onRoundCompleted round, .answered 0 (.ok [])]).buffer.rounds
            round
          = false
        ∧ (run step idle [.ensureWarmed false, .ensureWarmed true]).reading.length = 2 := by
  decide +kernel

end CrashWave.History
