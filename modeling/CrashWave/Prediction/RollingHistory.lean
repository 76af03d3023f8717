import Mathlib.Data.List.Nodup
import Mathlib.Data.List.Sort
import CrashWave.JavaScript.Number
import CrashWave.Runs.Basic

/-! The bounded window of the completed rounds that predictions read. The time of the last warm-up
is left out.
-/

namespace CrashWave.History

open JavaScript Runs

/-- A completed round. A missing identifier equals a missing one. -/
structure HistoricalRound where
  id : Option String
  externalRoundId : Option String
  sessionId : Option String := none
  startedAt : Option String := none
  crashedAt : Option String := none
  crashPoint : Number
  observationSource : Option String := none
  dataQuality : Option String := none
  createdAt : String
  sequenceIndex : Option Nat := none
  deriving DecidableEq

structure RollingHistoryBuffer where
  maxSize : Number
  rounds : List HistoricalRound := []
  warmed : Bool := false
  deriving DecidableEq

/-- One of the rounds has an identifier of this one. -/
def isKnown (rounds : List HistoricalRound) (round : HistoricalRound) : Bool :=
  rounds.any fun r => r.id = round.id || r.externalRoundId = round.externalRoundId

def reindex (rounds : List HistoricalRound) : List HistoricalRound :=
  rounds.mapIdx fun i r => { r with sequenceIndex := some i }

/-- `new Date(a.crashedAt ?? a.createdAt).getTime()`. -/
def HistoricalRound.time (getTime : String → Int) (round : HistoricalRound) : Int :=
  getTime (round.crashedAt.getD round.createdAt)

/-- The rounds without the oldest ones, if there are more than the maximum. -/
def evict (maxSize : Number) (rounds : List HistoricalRound) : List HistoricalRound :=
  if maxSize < .finite rounds.length then sliceFrom rounds (.finite rounds.length - maxSize)
  else rounds

namespace RollingHistoryBuffer

/-- The constructor. -/
def create (maxSize : Number) : RollingHistoryBuffer where
  maxSize := Number.max 10 maxSize

def warm (getTime : String → Int) (buffer : RollingHistoryBuffer)
    (rounds : List HistoricalRound) : RollingHistoryBuffer :=
  let sorted := rounds.insertionSort fun a b => a.time getTime ≤ b.time getTime
  { buffer with
    rounds := reindex (sliceFrom sorted buffer.maxSize.neg)
    warmed := true }

def append (buffer : RollingHistoryBuffer) (round : HistoricalRound) : RollingHistoryBuffer :=
  if isKnown buffer.rounds round then buffer
  else { buffer with rounds := reindex (evict buffer.maxSize (buffer.rounds ++ [round])) }

end RollingHistoryBuffer

-----------------------------------------------------------------------------------------
-- What is known and where it is
-----------------------------------------------------------------------------------------

variable {buffer : RollingHistoryBuffer} {rounds : List HistoricalRound} {round : HistoricalRound}

theorem isKnown_eq_false
    : isKnown rounds round = false
      ↔ ∀ kept ∈ rounds, kept.id ≠ round.id ∧ kept.externalRoundId ≠ round.externalRoundId := by
  simp [isKnown, not_or]

@[simp] theorem length_reindex (rounds : List HistoricalRound)
    : (reindex rounds).length = rounds.length :=
  List.length_mapIdx

theorem getElem?_reindex (rounds : List HistoricalRound) (index : Nat)
    : (reindex rounds)[index]? = rounds[index]?.map ({ · with sequenceIndex := some index }) :=
  List.getElem?_mapIdx

/-- Numbering the rounds changes nothing else of them. -/
theorem map_reindex {α : Type} {value : HistoricalRound → α}
    (unnumbered : ∀ round index, value { round with sequenceIndex := some index } = value round)
    (rounds : List HistoricalRound)
    : (reindex rounds).map value = rounds.map value := by
  refine List.ext_getElem? fun index => ?_
  rw [List.getElem?_map, getElem?_reindex, List.getElem?_map, Option.map_map]
  exact congrArg (rounds[index]?.map ·) (funext fun round => unnumbered round index)

theorem append_of_new (new : isKnown buffer.rounds round = false)
    : buffer.append round
      = { buffer with rounds := reindex (evict buffer.maxSize (buffer.rounds ++ [round])) } := by
  rw [RollingHistoryBuffer.append, new]
  rfl

theorem append_of_known (known : isKnown buffer.rounds round = true)
    : buffer.append round = buffer := by
  rw [RollingHistoryBuffer.append, if_pos known]

@[simp] theorem maxSize_append (buffer : RollingHistoryBuffer) (round : HistoricalRound)
    : (buffer.append round).maxSize = buffer.maxSize := by
  unfold RollingHistoryBuffer.append
  split <;> rfl

@[simp] theorem warmed_append (buffer : RollingHistoryBuffer) (round : HistoricalRound)
    : (buffer.append round).warmed = buffer.warmed := by
  unfold RollingHistoryBuffer.append
  split <;> rfl

-----------------------------------------------------------------------------------------
-- The maximum
-----------------------------------------------------------------------------------------

variable {maxSize : Number}

theorem evict_eq_drop (maxSize : Number) (rounds : List HistoricalRound)
    : ∃ dropped, evict maxSize rounds = rounds.drop dropped := by
  unfold evict
  split
  · exact sliceFrom_eq_drop rounds _
  · exact ⟨0, rfl⟩

theorem evict_of_room (room : ¬ maxSize < .finite rounds.length) : evict maxSize rounds = rounds :=
  if_neg room

theorem evict_of_full {size : ℚ} (full : size < rounds.length)
    : evict (.finite size) rounds = rounds.drop ⌊(rounds.length : ℚ) - size⌋.toNat := by
  have above : Number.finite size < .finite rounds.length := decide_eq_true full
  have start : Number.finite rounds.length - .finite size = .finite (rounds.length - size) :=
    congrArg Number.finite (sub_eq_add_neg _ _).symm
  rw [evict, if_pos above, start, sliceFrom, if_neg (sub_pos.mpr full).le.not_gt]

/-- A maximum that is no whole number is rounded up. -/
theorem length_evict_le {bound : Nat} (within : maxSize ≤ .finite bound)
    (rounds : List HistoricalRound)
    : (evict maxSize rounds).length ≤ bound := by
  cases maxSize with
  | finite size =>
      have least : size ≤ bound := of_decide_eq_true within
      rcases lt_or_ge size rounds.length with full | room
      · have dropped : (rounds.length : ℤ) - bound ≤ ⌊(rounds.length : ℚ) - size⌋ := by
          refine Int.le_floor.mpr ?_
          push_cast
          linarith
        rw [evict_of_full full, List.length_drop]
        omega
      · have few : (rounds.length : ℚ) ≤ bound := room.trans least
        rw [evict_of_room fun full => absurd (of_decide_eq_true full) room.not_gt]
        exact_mod_cast few
  | infinity negative =>
      cases negative with
      | true => exact Nat.zero_le bound
      | false => cases within
  | nan => cases within

/-- A maximum that is not below one keeps the newest round. -/
theorem evict_concat (some : ¬ maxSize < 1) (rounds : List HistoricalRound)
    (round : HistoricalRound)
    : ∃ dropped, evict maxSize (rounds ++ [round]) = rounds.drop dropped ++ [round] := by
  cases maxSize with
  | finite size =>
      have one : 1 ≤ size := by
        by_contra below
        exact some (decide_eq_true (by simpa using below))
      rcases lt_or_ge size (rounds ++ [round]).length with full | room
      · have most : ⌊((rounds ++ [round]).length : ℚ) - size⌋ ≤ rounds.length := by
          refine Int.floor_le_iff.mpr ?_
          rw [List.length_append, List.length_singleton]
          push_cast
          linarith
        refine ⟨_, (evict_of_full full).trans (List.drop_append_of_le_length ?_)⟩
        omega
      · exact ⟨0, evict_of_room fun full => absurd (of_decide_eq_true full) room.not_gt⟩
  | infinity negative =>
      cases negative with
      | true => exact absurd rfl some
      | false => exact ⟨0, rfl⟩
  | nan => exact ⟨0, rfl⟩

/-- What the constructor takes is not below ten. -/
theorem not_max_lt_one (maxSize : Number) : ¬ Number.max 10 maxSize < 1 := by
  cases maxSize with
  | finite size =>
      unfold Number.max
      simp only
      split
      · next above =>
          have least : (10 : ℚ) ≤ size := of_decide_eq_true above
          intro below
          have small : size < (1 : Nat) := of_decide_eq_true below
          norm_num at small
          linarith
      · decide +kernel
  | infinity negative => cases negative <;> decide +kernel
  | nan => decide

-----------------------------------------------------------------------------------------
-- Runs of appends
-----------------------------------------------------------------------------------------

/-- The window is within its maximum rounded up, its identifiers differ, its rounds are numbered. -/
structure Windowed (buffer : RollingHistoryBuffer) : Prop where
  size : ∀ bound : Nat, buffer.maxSize ≤ .finite bound → buffer.rounds.length ≤ bound
  ids : (buffer.rounds.map (·.id)).Nodup
  externalRoundIds : (buffer.rounds.map (·.externalRoundId)).Nodup
  numbered : ∀ (index : Nat) (round : HistoricalRound),
    buffer.rounds[index]? = some round → round.sequenceIndex = some index

theorem windowed_create (maxSize : Number) : Windowed (.create maxSize) where
  size := fun bound _ => Nat.zero_le bound
  ids := List.nodup_nil
  externalRoundIds := List.nodup_nil
  numbered := by simp [RollingHistoryBuffer.create]

/-- Identifiers that differ still do so with the one of a new round. -/
theorem nodup_recent {value : HistoricalRound → Option String}
    (unnumbered : ∀ round index, value { round with sequenceIndex := some index } = value round)
    (distinct : (rounds.map value).Nodup) (new : ∀ kept ∈ rounds, value kept ≠ value round)
    (maxSize : Number)
    : ((reindex (evict maxSize (rounds ++ [round]))).map value).Nodup := by
  have all : ((rounds ++ [round]).map value).Nodup := by
    rw [List.map_append, List.map_singleton, ← List.concat_eq_append]
    refine List.Nodup.concat (fun member => ?_) distinct
    obtain ⟨kept, among, same⟩ := List.mem_map.mp member
    exact new kept among same
  obtain ⟨dropped, recent⟩ := evict_eq_drop maxSize (rounds ++ [round])
  rw [map_reindex unnumbered, recent]
  exact all.sublist ((List.drop_sublist _ _).map value)

theorem Windowed.append (windowed : Windowed buffer) (round : HistoricalRound)
    : Windowed (buffer.append round) := by
  cases known : isKnown buffer.rounds round with
  | true =>
      rw [append_of_known known]
      exact windowed
  | false =>
      have other := isKnown_eq_false.mp known
      rw [append_of_new known]
      constructor
      · intro bound within
        rw [length_reindex]
        exact length_evict_le within _
      · exact nodup_recent (fun _ _ => rfl) windowed.ids (fun kept among => (other kept among).1) _
      · exact nodup_recent (fun _ _ => rfl) windowed.externalRoundIds
          (fun kept among => (other kept among).2) _
      · intro index round found
        rw [getElem?_reindex] at found
        obtain ⟨kept, _, rfl⟩ := Option.map_eq_some_iff.mp found
        rfl

theorem windowed_run (maxSize : Number) (history : List HistoricalRound)
    : Windowed (run RollingHistoryBuffer.append (.create maxSize) history) :=
  run_invariant (fun _ round windowed => windowed.append round) history (windowed_create maxSize)

theorem maxSize_run (maxSize : Number) (history : List HistoricalRound)
    : (run RollingHistoryBuffer.append (.create maxSize) history).maxSize
      = Number.max 10 maxSize := by
  have kept : ∀ buffer round, buffer.maxSize = Number.max 10 maxSize →
      (RollingHistoryBuffer.append buffer round).maxSize = Number.max 10 maxSize :=
    fun buffer round same => (maxSize_append buffer round).trans same
  exact run_invariant kept history rfl

/-- A new round is the newest one, with the number of its place. -/
theorem getLast?_append_of_new (some : ¬ buffer.maxSize < 1)
    (new : isKnown buffer.rounds round = false)
    : ∃ index, (buffer.append round).rounds.getLast?
        = .some { round with sequenceIndex := .some index } := by
  obtain ⟨dropped, recent⟩ := evict_concat some buffer.rounds round
  rw [append_of_new new, recent, reindex, List.mapIdx_concat, List.getLast?_concat]
  exact ⟨_, rfl⟩

/-- After any appends, one more takes a new round as the newest, and leaves the window with any
other.
-/
theorem append_history (maxSize : Number) (history : List HistoricalRound)
    (round : HistoricalRound)
    : let buffer := run RollingHistoryBuffer.append (.create maxSize) history
      let differs :=
        ∀ kept ∈ buffer.rounds, kept.id ≠ round.id ∧ kept.externalRoundId ≠ round.externalRoundId
      buffer.maxSize = Number.max 10 maxSize
        ∧ Windowed buffer
        ∧ (differs
            → ∃ index, (buffer.append round).rounds.getLast?
                = some { round with sequenceIndex := some index })
        ∧ (¬ differs → buffer.append round = buffer) := by
  intro buffer differs
  have bound : buffer.maxSize = Number.max 10 maxSize := maxSize_run maxSize history
  refine ⟨bound, windowed_run maxSize history, ?_, ?_⟩
  · intro new
    refine getLast?_append_of_new ?_ (isKnown_eq_false.mpr new)
    rw [bound]
    exact not_max_lt_one maxSize
  · intro known
    apply append_of_known
    exact Bool.eq_true_of_not_eq_false fun new => known (isKnown_eq_false.mp new)

/-- With a maximum of ten and a half, eleven rounds are kept. -/
theorem fractional_maximum_exceeded
    : let round (n : Nat) : HistoricalRound :=
        { id := some (toString n), externalRoundId := some (toString n), crashPoint := 2,
          createdAt := "" }
      let buffer :=
        run RollingHistoryBuffer.append (.create (.finite (21 / 2))) ((List.range 12).map round)
      buffer.maxSize < .finite buffer.rounds.length := by
  decide +kernel

end CrashWave.History
