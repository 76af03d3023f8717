import CrashWave.JavaScript.Map
import CrashWave.JavaScript.Number
import Mathlib.Data.List.Sort

/-! The round repository over its table. Which calls of the database fail, the time and the
generated ids are inputs; a call that fails has no effect.
-/

namespace CrashWave.Persistence

open JavaScript

/-- A row of `rounds`, and the record that is read from it; timestamps are texts. -/
structure RoundRecord where
  id : String
  externalRoundId : String
  sessionId : String
  startedAt : Option String
  crashedAt : Option String
  observedCrashPoint : Option Number
  finalConfirmedCrashPoint : Option Number
  observationSource : Option String
  dataQuality : Option String
  createdAt : Int
  deriving DecidableEq

/-- `CreateRoundInput`; a missing field and one that is null are inserted alike. -/
structure CreateRoundInput where
  externalRoundId : String
  sessionId : String
  startedAt : Option String := none
  crashedAt : Option String := none
  observedCrashPoint : Option Number := none
  finalConfirmedCrashPoint : Option Number := none
  observationSource : Option String := none
  dataQuality : Option String := none
  deriving DecidableEq

/-- `UpdateRoundInput`: an absent field is left, one that is `some none` becomes null. -/
structure UpdateRoundInput where
  startedAt : Option (Option String) := none
  crashedAt : Option (Option String) := none
  observedCrashPoint : Option (Option Number) := none
  finalConfirmedCrashPoint : Option (Option Number) := none
  observationSource : Option (Option String) := none
  dataQuality : Option (Option String) := none
  deriving DecidableEq

/-- The update names no column. -/
def UpdateRoundInput.noFields (input : UpdateRoundInput) : Bool :=
  input.startedAt.isNone && input.crashedAt.isNone && input.observedCrashPoint.isNone
  && input.finalConfirmedCrashPoint.isNone && input.observationSource.isNone
  && input.dataQuality.isNone

/-- The row that `UPDATE rounds SET ..` leaves. -/
def RoundRecord.updated (row : RoundRecord) (input : UpdateRoundInput) : RoundRecord :=
  { row with
    startedAt := input.startedAt.getD row.startedAt
    crashedAt := input.crashedAt.getD row.crashedAt
    observedCrashPoint := input.observedCrashPoint.getD row.observedCrashPoint
    finalConfirmedCrashPoint :=
      input.finalConfirmedCrashPoint.getD row.finalConfirmedCrashPoint
    observationSource := input.observationSource.getD row.observationSource
    dataQuality := input.dataQuality.getD row.dataQuality }

/-- `mapRow`: an empty text is read as null. -/
def mapRoundRow (row : RoundRecord) : RoundRecord :=
  { row with
    observationSource := row.observationSource.filter (· ≠ "")
    dataQuality := row.dataQuality.filter (· ≠ "") }

/-- The table `rounds` by id; no id is empty. -/
structure RoundTable where
  rows : Map String RoundRecord
  named : rows.get "" = none

/-- The row that a new round is inserted with. -/
def CreateRoundInput.row (input : CreateRoundInput) (id : String) (now : Int) : RoundRecord where
  id
  externalRoundId := input.externalRoundId
  sessionId := input.sessionId
  startedAt := input.startedAt
  crashedAt := input.crashedAt
  observedCrashPoint := input.observedCrashPoint
  finalConfirmedCrashPoint := input.finalConfirmedCrashPoint
  observationSource := input.observationSource
  dataQuality := input.dataQuality
  createdAt := now

/-- `RoundRepository.create`, with the generated id; an id is never used twice. The error is the
code of the one thrown.
-/
def RoundTable.create (table : RoundTable) (input : CreateRoundInput) (id : String) (now : Int)
    (fails : Bool) : RoundTable × Except String RoundRecord :=
  if named : id = "" then (table, .error "ROUND_CREATE_FAILED")
  else if fails ∨ table.rows.has id then (table, .error "ROUND_CREATE_FAILED")
  else
    let row := input.row id now
    ({
      rows := table.rows.set id row
      named := (Map.get_set_of_ne _ _ (Ne.symm named)).trans table.named
    }, .ok (mapRoundRow row))

/-- The rows of `rounds`; their id is the key they are found at. -/
def RoundTable.records (table : RoundTable) : List RoundRecord :=
  table.rows.entries.map fun entry => { entry.2 with id := entry.1 }

/-- `RoundRepository.findById`. -/
def RoundTable.findById (table : RoundTable) (id : String) (fails : Bool)
    : Except String (Option RoundRecord) :=
  if fails then .error "ROUND_FIND_FAILED"
  else .ok ((table.records.find? fun row => row.id = id).map mapRoundRow)

/-- `RoundRepository.findByExternalId`: the newest row. -/
def RoundTable.findByExternalId (table : RoundTable) (externalRoundId : String) (fails : Bool)
    : Except String (Option RoundRecord) :=
  if fails then .error "ROUND_FIND_EXTERNAL_FAILED"
  else
    let rows := table.records.filter fun row => row.externalRoundId = externalRoundId
    let newestFirst := rows.insertionSort fun one other => other.createdAt ≤ one.createdAt
    .ok (newestFirst.head?.map mapRoundRow)

/-- `RoundRepository.update`. -/
def RoundTable.update (table : RoundTable) (id : String) (input : UpdateRoundInput)
    (fails : Bool) : RoundTable × Except String (Option RoundRecord) :=
  if input.noFields then (table, table.findById id fails)
  else if fails then (table, .error "ROUND_UPDATE_FAILED")
  else
    let updated : RoundTable := {
      rows := table.rows.modify id fun row => row.updated input
      named := by simp [Map.get_modify, table.named]
    }
    (updated, updated.findById id false)

-----------------------------------------------------------------------------------------
-- What the calls find and leave
-----------------------------------------------------------------------------------------

variable {table : RoundTable} {externalRoundId : String}

theorem mem_records_iff {record : RoundRecord}
    : record ∈ table.records
      ↔ ∃ id row, table.rows.get id = some row ∧ { row with id } = record := by
  simp only [RoundTable.records, List.mem_map, Prod.exists, Map.mem_entries_iff]

/-- The table has a row of the round. -/
def RoundTable.Knows (table : RoundTable) (externalRoundId : String) : Prop :=
  ∃ id row, table.rows.get id = some row ∧ row.externalRoundId = externalRoundId

/-- The table has a row of the round at the id. -/
def RoundTable.Holds (table : RoundTable) (id externalRoundId : String) : Prop :=
  ∃ row, table.rows.get id = some row ∧ row.externalRoundId = externalRoundId

/-- A find answers a row of the round, by its id, or that there is none. -/
theorem findByExternalId_spec (table : RoundTable) (externalRoundId : String)
    : (table.Knows externalRoundId
        ∧ ∃ found, table.findByExternalId externalRoundId false = .ok (some found)
            ∧ found.id ≠ "" ∧ table.Holds found.id externalRoundId)
      ∨ (¬ table.Knows externalRoundId
          ∧ table.findByExternalId externalRoundId false = .ok none) := by
  generalize sorted : (table.records.filter fun row =>
    row.externalRoundId = externalRoundId).insertionSort
      (fun one other => other.createdAt ≤ one.createdAt) = rows
  have answer : table.findByExternalId externalRoundId false
      = .ok (rows.head?.map mapRoundRow) := by
    simp [RoundTable.findByExternalId, sorted]
  have members (record : RoundRecord)
      : record ∈ rows ↔ record ∈ table.records ∧ record.externalRoundId = externalRoundId := by
    rw [← sorted, List.mem_insertionSort]
    simp
  rw [answer]
  cases rows with
  | nil =>
      refine .inr ⟨?_, rfl⟩
      intro known
      obtain ⟨id, row, stored, same⟩ := known
      have member : { row with id } ∈ table.records := mem_records_iff.mpr ⟨id, row, stored, rfl⟩
      exact List.not_mem_nil ((members _).mpr ⟨member, same⟩)
  | cons first rest =>
      obtain ⟨member, same⟩ := (members first).mp List.mem_cons_self
      obtain ⟨id, row, stored, rfl⟩ := mem_records_iff.mp member
      refine .inl ⟨⟨id, row, stored, same⟩, mapRoundRow { row with id }, rfl, ?_,
        row, stored, same⟩
      intro unnamed
      obtain rfl : id = "" := unnamed
      cases table.named.symm.trans stored

/-- A create that succeeds adds one row at a new id. -/
theorem create_ok {input : CreateRoundInput} {id : String} {now : Int} {fails : Bool}
    {record : RoundRecord} (created : (table.create input id now fails).2 = .ok record)
    : table.rows.get id = none
      ∧ (table.create input id now fails).1.rows = table.rows.set id (input.row id now) := by
  unfold RoundTable.create at created ⊢
  split at created
  · cases created
  · split at created
    · cases created
    · next named free =>
        have new : table.rows.get id = none := by
          simpa [Map.has] using (not_or.mp free).2
        simp [named, free, new]

/-- An update that names a column and succeeds changes the row at its id. -/
theorem update_ok {input : UpdateRoundInput} {id : String} {fails : Bool}
    {record : Option RoundRecord} (some : input.noFields = false)
    (updated : (table.update id input fails).2 = .ok record)
    : (table.update id input fails).1.rows
      = table.rows.modify id fun row => row.updated input := by
  unfold RoundTable.update at updated ⊢
  simp only [some, Bool.false_eq_true, if_false] at updated ⊢
  split at updated
  · cases updated
  · next succeeds => simp [succeeds]

end CrashWave.Persistence
