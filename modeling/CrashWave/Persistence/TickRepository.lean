import CrashWave.JavaScript.Number
import CrashWave.Runs.Basic
import Mathlib.Data.List.Count
import Mathlib.Data.List.Nodup
import Mathlib.Data.List.Perm.Basic

/-! The batches of `TickRepository`: ticks are buffered, written by one INSERT over all of them,
and put back where it fails.
-/

namespace CrashWave.Persistence

open JavaScript Runs

/-- `CreateTickInput`, where a missing field is like a null one. -/
structure CreateTickInput where
  roundId : Option String := none
  multiplier : Number
  observedAt : Option String := none
  source : Option String := none
  latencyMs : Option Number := none
  sessionId : Option String := none
  deriving DecidableEq

/-- A bind parameter. -/
inductive Parameter where
  | null
  | text (value : String)
  | number (value : Number)
  deriving DecidableEq

/-- A tick with the number of the call of `insert` that handed it over. -/
structure Tick where
  number : Nat
  input : CreateTickInput
  deriving DecidableEq

/-- The parameters of a row; `now` stands for the current time. -/
def Tick.parameters (now : String) (tick : Tick) : List Parameter :=
  let text (value : Option String) : Parameter := (value.map .text).getD .null
  [.text (tick.input.observedAt.getD now), text tick.input.roundId,
    .number tick.input.multiplier, text tick.input.source,
    (tick.input.latencyMs.map .number).getD .null, text tick.input.sessionId]

/-- `TickRepository` while batching is active, with the batches whose INSERT has not answered,
the ticks whose rows are in the table, and all ticks that were handed to `insert`.
-/
structure TickRepository where
  batchSize : Number := 100
  batchBuffer : List Tick := []
  inFlight : List (List Tick) := []
  table : List Tick := []
  inserted : List Tick := []
  deriving DecidableEq

/-- What happens to the repository. The INSERT of any batch in flight may answer next. -/
inductive TickEvent where
  | insert (input : CreateTickInput) (now : String)
  | timerFires (now : String)
  | answered (index : Nat) (failed : Bool)

namespace TickRepository

/-- `flushBatch` up to the answer of its INSERT, with the parameters of this. -/
def flushBatch (repo : TickRepository) (now : String)
    : TickRepository × Option (List Parameter) :=
  if repo.batchBuffer.length = 0 then (repo, none)
  else
    let batch := repo.batchBuffer
    ({ repo with batchBuffer := [], inFlight := repo.inFlight ++ [batch] },
      some (batch.flatMap (Tick.parameters now)))

/-- `flushBatch` from the answer on: a failed batch goes back to the front of the buffer. -/
def answered (repo : TickRepository) (index : Nat) (failed : Bool) : TickRepository :=
  match repo.inFlight[index]? with
  | none => repo
  | some batch =>
      let inFlight := repo.inFlight.eraseIdx index
      if failed then { repo with inFlight, batchBuffer := batch ++ repo.batchBuffer }
      else { repo with inFlight, table := repo.table ++ batch }

/-- The tick goes to the buffer. -/
def push (repo : TickRepository) (input : CreateTickInput) : TickRepository :=
  let tick := { number := repo.inserted.length, input }
  { repo with
    batchBuffer := repo.batchBuffer ++ [tick]
    inserted := repo.inserted ++ [tick] }

/-- `insert`. -/
def insert (repo : TickRepository) (input : CreateTickInput) (now : String)
    : TickRepository × Option (List Parameter) :=
  let pushed := repo.push input
  if pushed.batchSize ≤ .finite pushed.batchBuffer.length then pushed.flushBatch now
  else (pushed, none)

/-- One event, and the parameters of the INSERT that it issues, if any. -/
def next (repo : TickRepository) : TickEvent → TickRepository × Option (List Parameter)
  | .insert input now => repo.insert input now
  | .timerFires now => repo.flushBatch now
  | .answered index failed => (repo.answered index failed, none)

def step (repo : TickRepository) (event : TickEvent) : TickRepository := (repo.next event).1

/-- Every tick that was handed to `insert` is in exactly one of the buffer, a batch in flight
and the table, once, and there are no others.
-/
structure Conserved (repo : TickRepository) : Prop where
  once
    : ∀ tick ∈ repo.inserted,
        repo.batchBuffer.count tick + repo.inFlight.flatten.count tick + repo.table.count tick
          = 1
  only
    : ∀ tick, tick ∈ repo.batchBuffer ∨ tick ∈ repo.inFlight.flatten ∨ tick ∈ repo.table →
        tick ∈ repo.inserted

/-- The ticks are numbered as they come in, and shared out among the three places. -/
structure Accounted (repo : TickRepository) : Prop where
  numbered : repo.inserted.map Tick.number = List.range repo.inserted.length
  shared : repo.inserted.Perm (repo.batchBuffer ++ repo.inFlight.flatten ++ repo.table)

/-- The INSERT that the event issues, if any, has no more parameters than Postgres takes. -/
def WithinLimit (repo : TickRepository) (event : TickEvent) : Prop :=
  ∀ parameters ∈ (repo.next event).2, parameters.length ≤ 65535

/-- Where the event writes the buffer, it holds at most 10922 ticks. -/
def BufferFits (repo : TickRepository) : TickEvent → Prop
  | .insert _ _ =>
      let length := repo.batchBuffer.length + 1
      repo.batchSize ≤ .finite length → length ≤ 10922
  | .timerFires _ => repo.batchBuffer.length ≤ 10922
  | .answered _ _ => True

variable {repo : TickRepository}

theorem parameters_length (now : String) (batch : List Tick)
    : (batch.flatMap (Tick.parameters now)).length = 6 * batch.length := by
  induction batch with
  | nil => rfl
  | cons tick rest ih =>
      rw [List.flatMap_cons, List.length_append, ih, List.length_cons]
      simp only [Tick.parameters, List.length_cons, List.length_nil]
      omega

/-- The INSERT of a flush is within the limit exactly if the buffer fits. -/
theorem flushBatch_within_iff (now : String)
    : (∀ parameters ∈ (repo.flushBatch now).2, parameters.length ≤ 65535)
      ↔ repo.batchBuffer.length ≤ 10922 := by
  unfold flushBatch
  split
  · next empty => simp [empty]
  · have rows := parameters_length now repo.batchBuffer
    simp only [Option.mem_def, Option.some.injEq, forall_eq', rows]
    omega

theorem withinLimit_iff (event : TickEvent)
    : repo.WithinLimit event ↔ repo.BufferFits event := by
  cases event with
  | insert input now =>
      simp only [WithinLimit, next, insert, BufferFits]
      have grown : (repo.push input).batchBuffer.length = repo.batchBuffer.length + 1 := by
        simp [push]
      have size : (repo.push input).batchSize = repo.batchSize := rfl
      rw [grown, size]
      split
      · next full =>
          rw [flushBatch_within_iff, grown]
          exact ⟨fun fits _ => fits, fun fits => fits full⟩
      · next room => exact iff_of_true nofun fun full => absurd full room
  | timerFires now => exact flushBatch_within_iff now
  | answered index failed => simp [WithinLimit, next, BufferFits]

theorem Accounted.flushBatch (accounted : repo.Accounted) (now : String)
    : (repo.flushBatch now).1.Accounted := by
  unfold TickRepository.flushBatch
  split
  · exact accounted
  · refine ⟨accounted.numbered, accounted.shared.trans ?_⟩
    simp only [List.flatten_append, List.flatten_singleton, List.nil_append]
    exact List.perm_append_comm.append_right _

theorem Accounted.push (accounted : repo.Accounted) (input : CreateTickInput)
    : (repo.push input).Accounted where
  numbered := by
    simp only [TickRepository.push, List.map_append, List.map_singleton, accounted.numbered,
      List.length_append, List.length_singleton, List.range_succ]
  shared := by
    simp only [TickRepository.push, List.append_assoc]
    have shared := accounted.shared.append_right [(⟨repo.inserted.length, input⟩ : Tick)]
    rw [List.append_assoc, List.append_assoc] at shared
    refine shared.trans (List.Perm.append_left _ ?_)
    rw [← List.append_assoc]
    exact List.perm_append_comm

theorem Accounted.insert (accounted : repo.Accounted) (input : CreateTickInput) (now : String)
    : (repo.insert input now).1.Accounted := by
  simp only [TickRepository.insert]
  split
  · exact (accounted.push input).flushBatch now
  · exact accounted.push input

/-- An answer moves its batch to the table, or back to the front of the buffer. -/
theorem Accounted.answered (accounted : repo.Accounted) (index : Nat) (failed : Bool)
    : (repo.answered index failed).Accounted := by
  unfold TickRepository.answered
  cases found : repo.inFlight[index]? with
  | none => exact accounted
  | some batch =>
      obtain ⟨before, after, whole, -, erased⟩ := exists_around found batch
      have shared := accounted.shared
      rw [whole, List.flatten_append, List.flatten_cons] at shared
      cases failed with
      | true =>
          refine ⟨accounted.numbered, shared.trans (List.perm_iff_count.mpr fun tick => ?_)⟩
          simp only [erased, if_true, List.flatten_append, List.count_append]
          omega
      | false =>
          refine ⟨accounted.numbered, shared.trans (List.perm_iff_count.mpr fun tick => ?_)⟩
          simp only [erased, Bool.false_eq_true, if_false, List.flatten_append,
            List.count_append]
          omega

theorem Accounted.step (accounted : repo.Accounted) (event : TickEvent)
    : (repo.step event).Accounted := by
  cases event with
  | insert input now => exact accounted.insert input now
  | timerFires now => exact accounted.flushBatch now
  | answered index failed => exact accounted.answered index failed

theorem Accounted.conserved (accounted : repo.Accounted) : repo.Conserved where
  once := by
    intro tick member
    have different : repo.inserted.Nodup := by
      apply List.Nodup.of_map Tick.number
      rw [accounted.numbered]
      exact List.nodup_range
    rw [← List.count_append, ← List.count_append, ← accounted.shared.count_eq]
    exact List.count_eq_one_of_mem different member
  only := by
    intro tick place
    rw [accounted.shared.mem_iff, List.mem_append, List.mem_append, or_assoc]
    exact place

/-- In every run no tick is lost or duplicated, and every INSERT stays within the limit of the
parameters exactly if the buffer fits wherever it is written.
-/
theorem conserved_and_within_iff (batchSize : Number) (events : List TickEvent)
    : (run step { batchSize } events).Conserved
      ∧ (Always step WithinLimit { batchSize } events
        ↔ Always step BufferFits { batchSize } events) := by
  constructor
  · have start : Accounted { batchSize } := ⟨rfl, .nil⟩
    have kept : ∀ (repo : TickRepository) (event : TickEvent), repo.Accounted →
        (repo.step event).Accounted := fun _ event accounted => accounted.step event
    exact (run_invariant kept events start).conserved
  · exact always_congr (fun _ event => withinLimit_iff event) _ events

/-- An outage: every INSERT fails before the next tick comes in. -/
def outage (input : CreateTickInput) (now : String) (length : Nat) : List TickEvent :=
  (List.replicate length [TickEvent.insert input now, .answered 0 true]).flatten

/-- A tick whose INSERT fails stays in the buffer, after those of the outage so far. -/
theorem outage_step (repo : TickRepository) (idle : repo.inFlight = []) (input : CreateTickInput)
    (now : String)
    : let after := (repo.step (.insert input now)).step (.answered 0 true)
      after.inFlight = [] ∧ after.batchSize = repo.batchSize
      ∧ after.batchBuffer.length = repo.batchBuffer.length + 1 := by
  simp only [step, next, insert]
  split
  · simp [flushBatch, answered, push, idle]
  · simp [answered, push, idle]

/-- The buffer keeps all ticks of an outage, by induction on its length. -/
theorem outage_buffer (repo : TickRepository) (idle : repo.inFlight = [])
    (input : CreateTickInput) (now : String) (length : Nat)
    : (run step repo (outage input now length)).batchSize = repo.batchSize
      ∧ (run step repo (outage input now length)).batchBuffer.length
        = repo.batchBuffer.length + length := by
  induction length generalizing repo with
  | zero => exact ⟨rfl, rfl⟩
  | succ length ih =>
      obtain ⟨still, size, grown⟩ := outage_step repo idle input now
      obtain ⟨reached, buffered⟩ := ih _ still
      refine ⟨reached.trans size, buffered.trans ?_⟩
      rw [grown]
      omega

/-- After an outage of 10922 ticks the INSERT of the next one has 65538 parameters. -/
theorem outage_exceeds_limit
    : ¬ Always step WithinLimit {}
        (outage { multiplier := 2 } "t" 10922 ++ [.insert { multiplier := 2 } "t"]) := by
  intro within
  obtain ⟨-, last, -⟩ := always_append.mp within
  have fits := (withinLimit_iff _).mp last
  obtain ⟨size, buffered⟩ := outage_buffer {} rfl { multiplier := 2 } "t" 10922
  simp only [BufferFits, size, buffered] at fits
  have full : (100 : Number) ≤ .finite ((0 + 10922 + 1 : Nat) : ℚ) := by decide +kernel
  exact absurd (fits full) (by decide)

end TickRepository

end CrashWave.Persistence
