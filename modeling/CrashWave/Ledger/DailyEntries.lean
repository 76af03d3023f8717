import CrashWave.JavaScript.Map
import CrashWave.Runs.Attempts

/-! The daily entry ledger on the database, and its in-memory substitute of the same module.
The counters of a day are stored apart from its entries.
-/

namespace CrashWave.Ledger

open JavaScript

/-- The status of an entry slot. -/
inductive EntrySlotStatus where
  | reserved
  | confirmed
  | released
  | failed
  deriving DecidableEq

/-- `EntrySlotStatus` as the source spells it. -/
def EntrySlotStatus.text : EntrySlotStatus → String
  | .reserved => "RESERVED"
  | .confirmed => "CONFIRMED"
  | .released => "RELEASED"
  | .failed => "FAILED"

/-- A daily entry, with its times as texts. -/
structure DailyEntryRecord where
  id : String
  dailyKey : String
  betId : String
  slotNumber : Nat
  status : EntrySlotStatus
  sessionId : String
  reservedAt : String
  confirmedAt : Option String := none
  releasedAt : Option String := none
  reason : Option String := none
  deriving DecidableEq

/-- The counters of a day. -/
structure DailyStats where
  entriesConfirmed : Nat := 0
  entriesAttempted : Nat := 0
  entriesFailed : Nat := 0
  entriesReserved : Nat := 0
  deriving DecidableEq

/-- Confirmed and reserved entries both use up the limit. -/
def DailyStats.activeCount (stats : DailyStats) : Nat :=
  stats.entriesConfirmed + stats.entriesReserved

/-- A reservation is counted. -/
def DailyStats.reserved (stats : DailyStats) : DailyStats :=
  { stats with entriesReserved := stats.entriesReserved + 1 }

/-- A reservation is counted as confirmed. -/
def DailyStats.confirmed (stats : DailyStats) : DailyStats :=
  { stats with
    entriesConfirmed := stats.entriesConfirmed + 1
    entriesReserved := stats.entriesReserved - 1 }

/-- An entry of a status is counted as released. The reservations go down in any case. -/
def DailyStats.released (stats : DailyStats) (was : EntrySlotStatus) : DailyStats :=
  { stats with
    entriesReserved := stats.entriesReserved - 1
    entriesFailed := stats.entriesFailed + 1
    entriesConfirmed :=
      if was = .confirmed then stats.entriesConfirmed - 1 else stats.entriesConfirmed }

/-- `EntryReservationResult`. -/
structure EntryReservationResult where
  success : Bool
  slot : Option DailyEntryRecord
  dailyKey : String
  confirmedCount : Nat
  reservedCount : Nat
  message : String
  deriving DecidableEq

/-- What a call on a ledger asks for. -/
inductive LedgerCall where
  | reserve (dailyKey betId sessionId : String)
  | confirm (dailyKey betId : String)
  | release (dailyKey betId reason : String)
  deriving DecidableEq

/-- A call with the time at which it is made. -/
structure TimedCall where
  call : LedgerCall
  now : String := ""

/-- What the database gives to a call: the time, and the id of a new row. -/
structure Stamp where
  now : String := ""
  rowId : String := ""

/-- What a call on a ledger answers: a reservation or its refusal, or nothing. -/
inductive LedgerAnswer where
  | reservation (result : EntryReservationResult)
  | done
  deriving DecidableEq

/-- The errors that the ledger throws. -/
inductive LedgerError where
  | entryNotFound (message : String)
  | conflict (message : String)
  deriving DecidableEq

/-- The slot of a new reservation. -/
def newSlot (id reservedAt dailyKey betId sessionId : String) (slotNumber : Nat)
    : DailyEntryRecord :=
  { id, dailyKey, betId, slotNumber, status := .reserved, sessionId, reservedAt }

/-- The answer beyond the limit. -/
def limitReached (maxEntries : Nat) (dailyKey : String) (stats : DailyStats)
    : EntryReservationResult where
  success := false
  slot := none
  dailyKey
  confirmedCount := stats.entriesConfirmed
  reservedCount := stats.entriesReserved
  message :=
    "Daily entry limit reached: " ++ toString stats.activeCount ++ "/" ++ toString maxEntries
      ++ " entries used for " ++ dailyKey

/-- The answer to a reservation, with the counters before it. -/
def slotReserved (dailyKey : String) (slot : DailyEntryRecord) (stats : DailyStats)
    : EntryReservationResult where
  success := true
  slot := some slot
  dailyKey
  confirmedCount := stats.entriesConfirmed
  reservedCount := stats.entriesReserved + 1
  message := "Slot " ++ toString slot.slotNumber ++ " reserved for " ++ dailyKey

-----------------------------------------------------------------------------------------
-- The ledger on the database
-----------------------------------------------------------------------------------------

/-- The tables `daily_entries`, whose rows are identified by their place, and `daily_stats`.
Where the first one or a column is missing, or a row is refused, the transaction fails.
-/
structure DailyTables where
  entries : List DailyEntryRecord := []
  stats : Map String DailyStats := ∅

namespace DailyTables

/-- The counters of a day, which are zero where there is no row. -/
def statsOf (tables : DailyTables) (dailyKey : String) : DailyStats :=
  (tables.stats.get dailyKey).getD {}

/-- `lockDailyStats`: the row of a day, made where it is missing. -/
def lockDailyStats (tables : DailyTables) (dailyKey : String) : DailyTables :=
  { tables with stats := tables.stats.set dailyKey (tables.statsOf dailyKey) }

/-- Changes the counters of a day. -/
def updateStats (tables : DailyTables) (dailyKey : String) (change : DailyStats → DailyStats)
    : DailyTables :=
  { tables with stats := tables.stats.modify dailyKey change }

/-- The counters of a day that has a row are changed; all others stay. -/
theorem statsOf_updateStats {tables : DailyTables} {dailyKey : String}
    (counted : tables.stats.get dailyKey ≠ none) (change : DailyStats → DailyStats)
    (other : String)
    : (tables.updateStats dailyKey change).statsOf other
      = if other = dailyKey then change (tables.statsOf dailyKey) else tables.statsOf other := by
  simp only [updateStats, statsOf, Map.get_modify]
  split
  · next same =>
      subst same
      cases found : tables.stats.get other with
      | some stats => rfl
      | none => exact absurd found counted
  · cases tables.stats.get other <;> rfl

theorem statsOf_lockDailyStats (tables : DailyTables) (dailyKey other : String)
    : (tables.lockDailyStats dailyKey).statsOf other = tables.statsOf other := by
  by_cases same : other = dailyKey
  · subst same
    simp [lockDailyStats, statsOf]
  · simp [lockDailyStats, statsOf, Map.get_set_of_ne _ _ same]

/-- The rows of a bet on a day, with their ids. -/
def rowsOf (tables : DailyTables) (dailyKey betId : String) : List (DailyEntryRecord × Nat) :=
  tables.entries.zipIdx.filter fun row => row.1.dailyKey = dailyKey ∧ row.1.betId = betId

/-- The first row of a bet on a day. The query asks for no order, so that any row of several
may come first.
-/
def selectEntry (tables : DailyTables) (order : Nat) (dailyKey betId : String)
    : Option (DailyEntryRecord × Nat) :=
  ((tables.rowsOf dailyKey betId).rotate order).head?

/-- The body of `reserve`. -/
def reserve (maxEntries : Nat) (stamp : Stamp) (dailyKey betId sessionId : String)
    (tables : DailyTables) : DailyTables × Except LedgerError LedgerAnswer :=
  let locked := tables.lockDailyStats dailyKey
  let stats := locked.statsOf dailyKey
  if maxEntries ≤ stats.activeCount then
    (locked, .ok (.reservation (limitReached maxEntries dailyKey stats)))
  else
    let slot :=
      newSlot stamp.rowId stamp.now dailyKey betId sessionId (stats.activeCount + 1)
    let inserted := { locked with entries := locked.entries ++ [slot] }
    (inserted.updateStats dailyKey fun stats =>
        { stats.reserved with entriesAttempted := stats.entriesAttempted + 1 },
      .ok (.reservation (slotReserved dailyKey slot stats)))

/-- The body of `confirm`. -/
def confirm (order : Nat) (now dailyKey betId : String) (tables : DailyTables)
    : DailyTables × Except LedgerError LedgerAnswer :=
  match tables.selectEntry order dailyKey betId with
  | none =>
      (tables, .error (.entryNotFound ("Daily entry not found: " ++ dailyKey ++ "/" ++ betId)))
  | some (entry, id) =>
      if entry.status = .confirmed then (tables, .ok .done)
      else if entry.status ≠ .reserved then
        (tables,
          .error
            (.conflict
              ("Cannot confirm entry in status " ++ entry.status.text ++ " — must be RESERVED")))
      else
        let updated :=
          { tables with
            entries :=
              tables.entries.set id
                { entry with status := .confirmed, confirmedAt := some now } }
        (updated.updateStats dailyKey DailyStats.confirmed, .ok .done)

/-- The body of `release`. -/
def release (order : Nat) (now dailyKey betId reason : String) (tables : DailyTables)
    : DailyTables × Except LedgerError LedgerAnswer :=
  match tables.selectEntry order dailyKey betId with
  | none => (tables, .ok .done)
  | some (entry, id) =>
      if entry.status = .released ∨ entry.status = .failed then (tables, .ok .done)
      else
        let updated :=
          { tables with
            entries :=
              tables.entries.set id
                { entry with
                  status := .released
                  releasedAt := some now
                  reason := some reason } }
        (updated.updateStats dailyKey fun stats => stats.released entry.status, .ok .done)

/-- The body of a call. -/
def body (maxEntries order : Nat) (stamp : Stamp)
    : LedgerCall → DailyTables → DailyTables × Except LedgerError LedgerAnswer
  | .reserve dailyKey betId sessionId => reserve maxEntries stamp dailyKey betId sessionId
  | .confirm dailyKey betId => confirm order stamp.now dailyKey betId
  | .release dailyKey betId reason => release order stamp.now dailyKey betId reason

/-- A call with what the database decides: the order in which it lists rows, the stamp of the
attempt that takes effect, and how each attempt at the transaction ends.
-/
structure Call where
  call : LedgerCall
  order : Nat := 0
  stamp : Stamp := {}
  attempts : Nat → Runs.TransactionEnd := fun _ => .commits

/-- The retries of `withSerializableTransaction`, which makes three attempts. -/
def retries : Nat := 2

/-- A call on the ledger: the tables after it and its answer. -/
def run (maxEntries : Nat) (tables : DailyTables) (call : Call)
    : DailyTables × Except (Runs.TransactionError LedgerError) LedgerAnswer :=
  Runs.withRetry Runs.TransactionError.isSerialization
    (Runs.transact (body maxEntries call.order call.stamp call.call)) retries call.attempts tables

/-- The tables after a call. -/
def step (maxEntries : Nat) (tables : DailyTables) (call : Call) : DailyTables :=
  (tables.run maxEntries call).1

end DailyTables

-----------------------------------------------------------------------------------------
-- The ledger in memory
-----------------------------------------------------------------------------------------

/-- `InMemoryDailyEntryLedger`. Its lock lets the calls through one after another. -/
structure InMemoryDailyEntryLedger where
  entries : Map String (List DailyEntryRecord) := ∅
  stats : Map String DailyStats := ∅

namespace InMemoryDailyEntryLedger

/-- `getOrCreateStats`. -/
def statsOf (ledger : InMemoryDailyEntryLedger) (dailyKey : String) : DailyStats :=
  (ledger.stats.get dailyKey).getD {}

/-- The entries of a day. -/
def dayEntries (ledger : InMemoryDailyEntryLedger) (dailyKey : String)
    : List DailyEntryRecord :=
  (ledger.entries.get dailyKey).getD []

/-- The counters of a day that are set, and those of all others. -/
theorem statsOf_set (ledger : InMemoryDailyEntryLedger)
    (entries : Map String (List DailyEntryRecord)) (dailyKey : String) (stats : DailyStats)
    (other : String)
    : statsOf { entries, stats := ledger.stats.set dailyKey stats } other
      = if other = dailyKey then stats else ledger.statsOf other := by
  by_cases same : other = dailyKey
  · subst same
    simp [statsOf]
  · simp [statsOf, Map.get_set_of_ne _ _ same, same]

/-- The entries of a day that are set, and those of all others. -/
theorem dayEntries_set (ledger : InMemoryDailyEntryLedger) (dailyKey : String)
    (entries : List DailyEntryRecord) (stats : Map String DailyStats) (other : String)
    : dayEntries { entries := ledger.entries.set dailyKey entries, stats } other
      = if other = dailyKey then entries else ledger.dayEntries other := by
  by_cases same : other = dailyKey
  · subst same
    simp [dayEntries]
  · simp [dayEntries, Map.get_set_of_ne _ _ same, same]

/-- The first entry of a bet on a day, with its place. -/
def findEntry (ledger : InMemoryDailyEntryLedger) (dailyKey betId : String)
    : Option (DailyEntryRecord × Nat) :=
  (ledger.dayEntries dailyKey).zipIdx.find? fun row => row.1.betId = betId

/-- `reserve`. -/
def reserve (maxEntries : Nat) (now dailyKey betId sessionId : String)
    (ledger : InMemoryDailyEntryLedger) : InMemoryDailyEntryLedger × LedgerAnswer :=
  let stats := ledger.statsOf dailyKey
  let attempted := { stats with entriesAttempted := stats.entriesAttempted + 1 }
  if maxEntries ≤ attempted.activeCount then
    ({ ledger with stats := ledger.stats.set dailyKey attempted },
      .reservation (limitReached maxEntries dailyKey attempted))
  else
    let slotNumber := attempted.activeCount + 1
    let id := dailyKey ++ "-" ++ toString slotNumber
    let slot := newSlot id now dailyKey betId sessionId slotNumber
    ({ entries := ledger.entries.set dailyKey (ledger.dayEntries dailyKey ++ [slot])
       stats := ledger.stats.set dailyKey attempted.reserved },
      .reservation (slotReserved dailyKey slot attempted))

/-- `confirm`. The status of an entry that is not confirmed is not read. -/
def confirm (now dailyKey betId : String) (ledger : InMemoryDailyEntryLedger)
    : InMemoryDailyEntryLedger :=
  match ledger.findEntry dailyKey betId with
  | none => ledger
  | some (entry, place) =>
      if entry.status = .confirmed then ledger
      else
        { entries :=
            ledger.entries.set dailyKey
              ((ledger.dayEntries dailyKey).set place
                { entry with status := .confirmed, confirmedAt := some now })
          stats := ledger.stats.set dailyKey (ledger.statsOf dailyKey).confirmed }

/-- `release`. The reason is not kept. -/
def release (now dailyKey betId : String) (ledger : InMemoryDailyEntryLedger)
    : InMemoryDailyEntryLedger :=
  match ledger.findEntry dailyKey betId with
  | none => ledger
  | some (entry, place) =>
      if entry.status = .released ∨ entry.status = .failed then ledger
      else
        { entries :=
            ledger.entries.set dailyKey
              ((ledger.dayEntries dailyKey).set place
                { entry with status := .released, releasedAt := some now })
          stats :=
            ledger.stats.set dailyKey ((ledger.statsOf dailyKey).released entry.status) }

/-- A call on the ledger: the ledger after it and its answer. None throws. -/
def run (maxEntries : Nat) (ledger : InMemoryDailyEntryLedger) (call : TimedCall)
    : InMemoryDailyEntryLedger × LedgerAnswer :=
  match call.call with
  | .reserve dailyKey betId sessionId =>
      ledger.reserve maxEntries call.now dailyKey betId sessionId
  | .confirm dailyKey betId => (ledger.confirm call.now dailyKey betId, .done)
  | .release dailyKey betId _ => (ledger.release call.now dailyKey betId, .done)

/-- The ledger after a call. -/
def step (maxEntries : Nat) (ledger : InMemoryDailyEntryLedger) (call : TimedCall)
    : InMemoryDailyEntryLedger :=
  (ledger.run maxEntries call).1

end InMemoryDailyEntryLedger

end CrashWave.Ledger
