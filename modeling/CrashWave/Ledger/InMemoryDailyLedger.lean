import CrashWave.Ledger.DailyEntries

/-! The in-memory ledger for the unit and concurrency tests, which has a class of its own.
A bucket keeps the slots of a day next to its counters.
-/

namespace CrashWave.Ledger

open JavaScript

/-- The slots and the counters of a day. -/
structure DayBucket where
  confirmed : Nat := 0
  reserved : Nat := 0
  slots : List DailyEntryRecord := []

/-- `InMemoryDailyEntryLedger` of `in-memory-daily-ledger`. The calls for a day wait for each
other.
-/
structure InMemoryDailyLedger where
  days : Map String DayBucket := ∅
  idCounter : Nat := 0

namespace InMemoryDailyLedger

/-- What a call on this ledger answers: a reservation or its refusal, or whether it found a
reserved slot.
-/
inductive Answer where
  | reservation (result : EntryReservationResult)
  | found (changed : Bool)
  deriving DecidableEq

/-- `getBucket`. -/
def getBucket (ledger : InMemoryDailyLedger) (dailyKey : String) : DayBucket :=
  (ledger.days.get dailyKey).getD {}

/-- The ledger with the bucket of a day. -/
def setBucket (ledger : InMemoryDailyLedger) (dailyKey : String) (bucket : DayBucket)
    : InMemoryDailyLedger :=
  { ledger with days := ledger.days.set dailyKey bucket }

/-- The first reserved slot of a bet, with its place. -/
def findReserved (bucket : DayBucket) (betId : String) : Option (DailyEntryRecord × Nat) :=
  bucket.slots.zipIdx.find? fun row => row.1.betId = betId ∧ row.1.status = .reserved

/-- `reserve`. -/
def reserve (maxEntries : Nat) (now dailyKey betId sessionId : String)
    (ledger : InMemoryDailyLedger) : InMemoryDailyLedger × EntryReservationResult :=
  let bucket := ledger.getBucket dailyKey
  let active := bucket.confirmed + bucket.reserved
  if maxEntries ≤ active then
    (ledger.setBucket dailyKey bucket,
      { success := false
        slot := none
        dailyKey
        confirmedCount := bucket.confirmed
        reservedCount := bucket.reserved
        message :=
          "Daily entry limit reached: " ++ toString active ++ "/" ++ toString maxEntries })
  else
    let counted := { ledger with idCounter := ledger.idCounter + 1 }
    let id := "mem-" ++ toString counted.idCounter
    let slot := newSlot id now dailyKey betId sessionId (active + 1)
    let next :=
      { bucket with slots := bucket.slots ++ [slot], reserved := bucket.reserved + 1 }
    (counted.setBucket dailyKey next,
      { success := true
        slot := some slot
        dailyKey
        confirmedCount := next.confirmed
        reservedCount := next.reserved
        message := "Reserved slot " ++ toString slot.slotNumber })

/-- `confirm`. -/
def confirm (now dailyKey betId : String) (ledger : InMemoryDailyLedger)
    : InMemoryDailyLedger × Bool :=
  let bucket := ledger.getBucket dailyKey
  match findReserved bucket betId with
  | none => (ledger.setBucket dailyKey bucket, false)
  | some (slot, place) =>
      (ledger.setBucket dailyKey
          { slots :=
              bucket.slots.set place { slot with status := .confirmed, confirmedAt := some now }
            reserved := bucket.reserved - 1
            confirmed := bucket.confirmed + 1 },
        true)

/-- `release`. -/
def release (now dailyKey betId : String) (ledger : InMemoryDailyLedger)
    : InMemoryDailyLedger × Bool :=
  let bucket := ledger.getBucket dailyKey
  match findReserved bucket betId with
  | none => (ledger.setBucket dailyKey bucket, false)
  | some (slot, place) =>
      (ledger.setBucket dailyKey
          { bucket with
            slots :=
              bucket.slots.set place { slot with status := .released, releasedAt := some now }
            reserved := bucket.reserved - 1 },
        true)

/-- A call on the ledger: the ledger after it and its answer. -/
def run (maxEntries : Nat) (ledger : InMemoryDailyLedger) (call : TimedCall)
    : InMemoryDailyLedger × Answer :=
  match call.call with
  | .reserve dailyKey betId sessionId =>
      let (next, result) := ledger.reserve maxEntries call.now dailyKey betId sessionId
      (next, .reservation result)
  | .confirm dailyKey betId =>
      let (next, changed) := ledger.confirm call.now dailyKey betId
      (next, .found changed)
  | .release dailyKey betId _ =>
      let (next, changed) := ledger.release call.now dailyKey betId
      (next, .found changed)

/-- The ledger after a call. -/
def step (maxEntries : Nat) (ledger : InMemoryDailyLedger) (call : TimedCall)
    : InMemoryDailyLedger :=
  (ledger.run maxEntries call).1

end InMemoryDailyLedger

end CrashWave.Ledger
