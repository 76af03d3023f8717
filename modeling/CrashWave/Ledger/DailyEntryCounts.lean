import CrashWave.Ledger.DailyEntries
import CrashWave.Runs.Basic
import Mathlib.Data.List.Rotate

/-! Whether the counters of a day agree with its entries. Reserving and the usual moves keep
them; a release of a confirmed entry also takes a reservation off, and the ledger in memory
confirms an entry that was released.
-/

namespace CrashWave.Ledger

open JavaScript

-----------------------------------------------------------------------------------------
-- Counters and counts
-----------------------------------------------------------------------------------------

/-- The counters of a day are the numbers of its entries with these statuses, and do not
exceed the daily maximum.
-/
structure Tally (maxEntries : Nat) (stats : DailyStats) (count : EntrySlotStatus → Nat)
    : Prop where
  confirmed : stats.entriesConfirmed = count .confirmed
  reserved : stats.entriesReserved = count .reserved
  within : stats.entriesConfirmed + stats.entriesReserved ≤ maxEntries

/-- One entry goes from a status to another one. -/
def Moved (count after : EntrySlotStatus → Nat) (old new : EntrySlotStatus) : Prop :=
  ∀ status, after status + (if status = old then 1 else 0)
    = count status + if status = new then 1 else 0

variable {maxEntries : Nat} {stats : DailyStats} {count after : EntrySlotStatus → Nat}

theorem Tally.reserve (tally : Tally maxEntries stats count)
    (free : stats.activeCount < maxEntries)
    (added : ∀ status, after status = count status + if status = .reserved then 1 else 0)
    : Tally maxEntries stats.reserved after := by
  have confirmed := added .confirmed
  have reserved := added .reserved
  simp only [reduceCtorEq, if_false, if_true] at confirmed reserved
  refine ⟨by rw [confirmed]; exact tally.confirmed, ?_, ?_⟩
  · rw [reserved, ← tally.reserved]
    rfl
  · simp only [DailyStats.activeCount] at free
    simp only [DailyStats.reserved]
    omega

/-- A reservation that is confirmed keeps the tally. -/
theorem Tally.confirm (tally : Tally maxEntries stats count)
    (moved : Moved count after .reserved .confirmed)
    : Tally maxEntries stats.confirmed after := by
  have confirmed := moved .confirmed
  have reserved := moved .reserved
  simp only [reduceCtorEq, if_false, if_true, Nat.add_zero] at confirmed reserved
  obtain ⟨tallyConfirmed, tallyReserved, within⟩ := tally
  constructor <;> simp only [DailyStats.confirmed] <;> omega

/-- A reservation that is released keeps the tally. -/
theorem Tally.release (tally : Tally maxEntries stats count)
    (moved : Moved count after .reserved .released)
    : Tally maxEntries (stats.released .reserved) after := by
  have confirmed := moved .confirmed
  have reserved := moved .reserved
  simp only [reduceCtorEq, if_false, if_true, Nat.add_zero] at confirmed reserved
  obtain ⟨tallyConfirmed, tallyReserved, within⟩ := tally
  constructor <;> simp only [DailyStats.released, reduceCtorEq, if_false] <;> omega

/-- A confirmed entry that is released keeps the tally only where nothing is reserved, since
a reservation is taken off with it.
-/
theorem Tally.release_confirmed_iff (tally : Tally maxEntries stats count)
    (moved : Moved count after .confirmed .released)
    : Tally maxEntries (stats.released .confirmed) after ↔ stats.entriesReserved = 0 := by
  have confirmed := moved .confirmed
  have reserved := moved .reserved
  simp only [reduceCtorEq, if_false, if_true, Nat.add_zero] at confirmed reserved
  obtain ⟨tallyConfirmed, tallyReserved, within⟩ := tally
  constructor
  · rintro ⟨-, taken, -⟩
    simp only [DailyStats.released] at taken
    omega
  · intro none
    constructor <;> simp only [DailyStats.released, if_true] <;> omega

/-- An entry that is confirmed although it was not reserved keeps the tally only where nothing
is reserved and the maximum is not reached.
-/
theorem Tally.confirm_inactive_iff {old : EntrySlotStatus}
    (tally : Tally maxEntries stats count) (moved : Moved count after old .confirmed)
    (notConfirmed : old ≠ .confirmed) (notReserved : old ≠ .reserved)
    : Tally maxEntries stats.confirmed after
      ↔ stats.entriesReserved = 0 ∧ stats.entriesConfirmed < maxEntries := by
  have confirmed := moved .confirmed
  have reserved := moved .reserved
  simp only [notConfirmed.symm, notReserved.symm, reduceCtorEq, if_false, if_true,
    Nat.add_zero] at confirmed reserved
  obtain ⟨tallyConfirmed, tallyReserved, within⟩ := tally
  constructor
  · rintro ⟨-, taken, limit⟩
    simp only [DailyStats.confirmed] at taken limit
    omega
  · rintro ⟨none, free⟩
    constructor <;> simp only [DailyStats.confirmed] <;> omega

/-- A replaced element counts for what it is. -/
theorem countP_set_add {α : Type*} {items : List α} {place : Nat} {old : α}
    (found : items[place]? = some old) (test : α → Bool) (new : α)
    : (items.set place new).countP test + (if test old then 1 else 0)
      = items.countP test + if test new then 1 else 0 := by
  obtain ⟨within, rfl⟩ := List.getElem?_eq_some_iff.mp found
  rw [List.countP_set within]
  by_cases holds : test items[place] = true
  · have positive : 0 < items.countP test :=
      List.countP_pos_iff.mpr ⟨_, List.getElem_mem within, holds⟩
    simp only [holds, if_true]
    omega
  · simp [holds]

-----------------------------------------------------------------------------------------
-- The ledger on the database
-----------------------------------------------------------------------------------------

namespace DailyTables

/-- The number of entries of a day with a status. -/
def entryCount (tables : DailyTables) (dailyKey : String) (status : EntrySlotStatus) : Nat :=
  tables.entries.countP fun entry => entry.dailyKey = dailyKey ∧ entry.status = status

/-- The counters of every day agree with its entries. -/
def Consistent (maxEntries : Nat) (tables : DailyTables) : Prop :=
  ∀ dailyKey, Tally maxEntries (tables.statsOf dailyKey) (tables.entryCount dailyKey)

variable {tables : DailyTables} {stamp : Stamp} {now dailyKey betId : String} {order id : Nat}
  {entry : DailyEntryRecord}

theorem selectEntry_spec (selected : tables.selectEntry order dailyKey betId = some (entry, id))
    : tables.entries[id]? = some entry ∧ entry.dailyKey = dailyKey ∧ entry.betId = betId := by
  have member : (entry, id) ∈ tables.rowsOf dailyKey betId :=
    List.mem_rotate.mp (List.mem_of_head? selected)
  obtain ⟨listed, matching⟩ := List.mem_filter.mp member
  exact ⟨List.mk_mem_zipIdx_iff_getElem?.mp listed, of_decide_eq_true matching⟩

/-- The day of an active entry has counters, as these count it. -/
theorem Consistent.counted (consistent : tables.Consistent maxEntries)
    (listed : entry ∈ tables.entries)
    (active : entry.status = .reserved ∨ entry.status = .confirmed)
    : tables.stats.get entry.dailyKey ≠ none := by
  intro missing
  have zero : tables.statsOf entry.dailyKey = {} := by
    rw [statsOf, missing]
    rfl
  have positive : 0 < tables.entryCount entry.dailyKey entry.status :=
    List.countP_pos_iff.mpr ⟨entry, listed, decide_eq_true ⟨rfl, rfl⟩⟩
  have confirmed := (consistent entry.dailyKey).confirmed
  have reserved := (consistent entry.dailyKey).reserved
  rw [zero] at confirmed reserved
  change 0 = _ at confirmed
  change 0 = _ at reserved
  rcases active with is | is <;> rw [is] at positive <;> omega

/-- An entry that is rewritten on its day leaves the counts of the other days. -/
theorem entryCount_set_of_ne (found : tables.entries[id]? = some entry)
    {updated : DailyEntryRecord} (sameDay : updated.dailyKey = entry.dailyKey) {other : String}
    (differs : other ≠ entry.dailyKey)
    : entryCount { tables with entries := tables.entries.set id updated } other
      = tables.entryCount other := by
  funext status
  have moved := countP_set_add found (fun row => row.dailyKey = other ∧ row.status = status)
    updated
  simpa [entryCount, sameDay, Ne.symm differs] using moved

/-- An entry whose status changes, with the counters of its day: what is left to check is the
tally of that day.
-/
theorem consistent_moved_iff (consistent : tables.Consistent maxEntries)
    (found : tables.entries[id]? = some entry) (active : entry.status = .reserved
      ∨ entry.status = .confirmed)
    (updated : DailyEntryRecord) (sameDay : updated.dailyKey = entry.dailyKey)
    (change : DailyStats → DailyStats)
    : ∃ after, Moved (tables.entryCount entry.dailyKey) after entry.status updated.status
      ∧ (Consistent maxEntries
          (updateStats { tables with entries := tables.entries.set id updated } entry.dailyKey
            change)
        ↔ Tally maxEntries (change (tables.statsOf entry.dailyKey)) after) := by
  let written : DailyTables := { tables with entries := tables.entries.set id updated }
  have counted : written.stats.get entry.dailyKey ≠ none :=
    consistent.counted (List.mem_of_getElem? found) active
  have stats := statsOf_updateStats counted change
  refine ⟨written.entryCount entry.dailyKey, ?_, ?_⟩
  · intro status
    have moved := countP_set_add found
      (fun row => row.dailyKey = entry.dailyKey ∧ row.status = status) updated
    simpa [entryCount, written, sameDay, eq_comm] using moved
  · constructor
    · intro after
      have tally := after entry.dailyKey
      rw [stats, if_pos rfl] at tally
      exact tally
    · intro tally other
      rw [stats]
      by_cases same : other = entry.dailyKey
      · subst same
        rw [if_pos rfl]
        exact tally
      · rw [if_neg same]
        have before := consistent other
        rw [← entryCount_set_of_ne found sameDay same] at before
        exact before

/-- A reservation keeps all counters in agreement, whether it is made or refused. -/
theorem consistent_reserve (consistent : tables.Consistent maxEntries) (sessionId : String)
    : Consistent maxEntries
        (Runs.bodyState (reserve maxEntries stamp dailyKey betId sessionId) tables) := by
  have locked : (tables.lockDailyStats dailyKey).Consistent maxEntries := by
    intro other
    rw [statsOf_lockDailyStats]
    exact consistent other
  rw [Runs.bodyState, reserve]
  split
  · next next answer ran =>
      split at ran
      · obtain ⟨rfl, -⟩ := Prod.mk.inj ran
        exact locked
      · next free =>
          obtain ⟨rfl, -⟩ := Prod.mk.inj ran
          rw [statsOf_lockDailyStats, not_le] at free
          intro other
          by_cases same : other = dailyKey
          · subst same
            have tally := (consistent other).reserve free fun _ => rfl
            obtain ⟨confirmed, reserved, within⟩ := tally
            simp only [updateStats, lockDailyStats, statsOf, Map.get_modify, Map.get_set_self,
              Option.map_some, if_true, Option.getD_some] at confirmed reserved within ⊢
            constructor
            · simpa [entryCount, newSlot] using confirmed
            · simpa [entryCount, newSlot] using reserved
            · exact within
          · have tally := locked other
            simp only [updateStats, statsOf, Map.get_modify, same, if_false,
              Option.map_id'] at tally ⊢
            obtain ⟨confirmed, reserved, within⟩ := tally
            constructor
            · simpa [entryCount, newSlot, Ne.symm same, lockDailyStats] using confirmed
            · simpa [entryCount, newSlot, Ne.symm same, lockDailyStats] using reserved
            · exact within
  · next next error ran => split at ran <;> cases ran

/-- A confirmation keeps all counters in agreement: it only confirms what is reserved. -/
theorem consistent_confirm (consistent : tables.Consistent maxEntries)
    : Consistent maxEntries (Runs.bodyState (confirm order now dailyKey betId) tables) := by
  rw [Runs.bodyState, confirm]
  cases selected : tables.selectEntry order dailyKey betId with
  | none => exact consistent
  | some row =>
      obtain ⟨entry, id⟩ := row
      obtain ⟨found, rfl, -⟩ := selectEntry_spec selected
      dsimp only
      by_cases done : entry.status = .confirmed
      · rw [if_pos done]
        exact consistent
      · rw [if_neg done]
        by_cases pending : entry.status = .reserved
        · rw [if_neg (not_not.mpr pending)]
          obtain ⟨after, moved, keeps⟩ :=
            consistent_moved_iff consistent found (.inl pending)
              { entry with status := .confirmed, confirmedAt := some now } rfl DailyStats.confirmed
          rw [pending] at moved
          exact keeps.mpr ((consistent entry.dailyKey).confirm moved)
        · rw [if_pos pending]
          exact consistent

/-- The entry that a release finds, if it is confirmed, is not released next to reserved ones.
-/
def ReleaseSound (tables : DailyTables) (order : Nat) (dailyKey betId : String) : Prop :=
  ∀ entry id, tables.selectEntry order dailyKey betId = some (entry, id)
    → entry.status = .confirmed → (tables.statsOf dailyKey).entriesReserved = 0

theorem consistent_release_iff (consistent : tables.Consistent maxEntries) (reason : String)
    : Consistent maxEntries (Runs.bodyState (release order now dailyKey betId reason) tables)
      ↔ tables.ReleaseSound order dailyKey betId := by
  rw [Runs.bodyState, release, ReleaseSound]
  cases selected : tables.selectEntry order dailyKey betId with
  | none => simpa using consistent
  | some row =>
      obtain ⟨entry, id⟩ := row
      obtain ⟨found, rfl, -⟩ := selectEntry_spec selected
      dsimp only
      cases was : entry.status with
      | released | failed => simpa [was] using consistent
      | reserved =>
          obtain ⟨after, moved, keeps⟩ :=
            consistent_moved_iff consistent found (.inl was)
              { entry with
                status := .released
                releasedAt := some now
                reason := some reason } rfl
              fun stats => stats.released .reserved
          rw [was] at moved
          simpa [was] using keeps.mpr ((consistent entry.dailyKey).release moved)
      | confirmed =>
          obtain ⟨after, moved, keeps⟩ :=
            consistent_moved_iff consistent found (.inr was)
              { entry with
                status := .released
                releasedAt := some now
                reason := some reason } rfl
              fun stats => stats.released .confirmed
          rw [was] at moved
          rw [(consistent entry.dailyKey).release_confirmed_iff moved] at keeps
          simpa [was] using keeps

/-- A call does not release a confirmed entry next to reserved ones, or does not take effect.
-/
def Sound (tables : DailyTables) (call : Call) : Prop :=
  match call.call with
  | .release dailyKey betId _ =>
      Runs.lands retries call.attempts = true → tables.ReleaseSound call.order dailyKey betId
  | _ => True

theorem consistent_step_iff (consistent : tables.Consistent maxEntries) (call : Call)
    : (tables.step maxEntries call).Consistent maxEntries ↔ tables.Sound call := by
  obtain ⟨call, order, stamp, attempts⟩ := call
  rw [step, run, Runs.withRetry_transact_fst]
  cases lands : Runs.lands retries attempts with
  | false => cases call <;> simpa [Sound, lands] using consistent
  | true =>
      rw [if_pos rfl]
      cases call with
      | reserve dailyKey betId sessionId =>
          exact iff_of_true (consistent_reserve consistent sessionId) trivial
      | confirm dailyKey betId => exact iff_of_true (consistent_confirm consistent) trivial
      | release dailyKey betId reason =>
          simpa [Sound, lands, body] using consistent_release_iff consistent reason

theorem consistent_empty : Consistent maxEntries {} := by
  intro dailyKey
  exact ⟨rfl, rfl, Nat.zero_le _⟩

end DailyTables

-----------------------------------------------------------------------------------------
-- The ledger in memory
-----------------------------------------------------------------------------------------

namespace InMemoryDailyEntryLedger

/-- The number of entries of a day with a status. -/
def entryCount (ledger : InMemoryDailyEntryLedger) (dailyKey : String)
    (status : EntrySlotStatus) : Nat :=
  (ledger.dayEntries dailyKey).countP fun entry => entry.status = status

/-- The counters of every day agree with its entries. -/
def Consistent (maxEntries : Nat) (ledger : InMemoryDailyEntryLedger) : Prop :=
  ∀ dailyKey, Tally maxEntries (ledger.statsOf dailyKey) (ledger.entryCount dailyKey)

variable {ledger : InMemoryDailyEntryLedger} {now dailyKey betId : String} {place : Nat}
  {entry : DailyEntryRecord}

theorem findEntry_spec (found : ledger.findEntry dailyKey betId = some (entry, place))
    : (ledger.dayEntries dailyKey)[place]? = some entry :=
  List.mk_mem_zipIdx_iff_getElem?.mp (List.mem_of_find?_eq_some found)

/-- A day that is written anew is all that is left to check. -/
theorem consistent_write_iff (consistent : ledger.Consistent maxEntries)
    (entries : List DailyEntryRecord) (stats : DailyStats)
    : Consistent maxEntries
        { entries := ledger.entries.set dailyKey entries
          stats := ledger.stats.set dailyKey stats }
      ↔ Tally maxEntries stats fun status =>
          entries.countP fun entry => entry.status = status := by
  have counts : ∀ other,
      entryCount
          { entries := ledger.entries.set dailyKey entries
            stats := ledger.stats.set dailyKey stats } other
        = if other = dailyKey then fun status => entries.countP fun entry => entry.status = status
          else ledger.entryCount other := by
    intro other
    funext status
    rw [entryCount, dayEntries_set]
    split <;> rfl
  constructor
  · intro after
    have tally := after dailyKey
    rw [counts, statsOf_set, if_pos rfl, if_pos rfl] at tally
    exact tally
  · intro tally other
    rw [counts, statsOf_set]
    by_cases same : other = dailyKey
    · rw [if_pos same, if_pos same]
      exact tally
    · rw [if_neg same, if_neg same]
      exact consistent other

/-- An entry of a day whose status changes. -/
theorem moved_of_findEntry (found : ledger.findEntry dailyKey betId = some (entry, place))
    (updated : DailyEntryRecord)
    : Moved (ledger.entryCount dailyKey)
        (fun status =>
          ((ledger.dayEntries dailyKey).set place updated).countP fun entry =>
            entry.status = status)
        entry.status updated.status := by
  intro status
  have moved := countP_set_add (findEntry_spec found)
    (fun row => row.status = status) updated
  simpa [entryCount, eq_comm] using moved

theorem consistent_reserve (consistent : ledger.Consistent maxEntries) (sessionId : String)
    : (ledger.reserve maxEntries now dailyKey betId sessionId).1.Consistent maxEntries := by
  unfold reserve
  dsimp only
  split
  · intro other
    rw [statsOf_set]
    obtain ⟨confirmed, reserved, within⟩ := consistent other
    by_cases same : other = dailyKey
    · subst same
      rw [if_pos rfl]
      exact ⟨confirmed, reserved, within⟩
    · rw [if_neg same]
      exact ⟨confirmed, reserved, within⟩
  · next free =>
      rw [consistent_write_iff consistent]
      have tally := (consistent dailyKey).reserve (not_le.mp free) fun _ => rfl
      obtain ⟨confirmed, reserved, within⟩ := tally
      constructor
      · simpa [newSlot, entryCount, DailyStats.reserved] using confirmed
      · simpa [newSlot, entryCount, DailyStats.reserved] using reserved
      · exact within

/-- The entry that a confirmation finds was not released, or it is confirmed where nothing is
reserved and the maximum is not reached.
-/
def ConfirmSound (maxEntries : Nat) (ledger : InMemoryDailyEntryLedger)
    (dailyKey betId : String) : Prop :=
  ∀ entry place, ledger.findEntry dailyKey betId = some (entry, place)
    → entry.status = .reserved ∨ entry.status = .confirmed
      ∨ (ledger.statsOf dailyKey).entriesReserved = 0
        ∧ (ledger.statsOf dailyKey).entriesConfirmed < maxEntries

/-- The entry that a release finds, if it is confirmed, is not released next to reserved ones.
-/
def ReleaseSound (ledger : InMemoryDailyEntryLedger) (dailyKey betId : String) : Prop :=
  ∀ entry place, ledger.findEntry dailyKey betId = some (entry, place)
    → entry.status = .confirmed → (ledger.statsOf dailyKey).entriesReserved = 0

theorem consistent_confirm_iff (consistent : ledger.Consistent maxEntries)
    : (ledger.confirm now dailyKey betId).Consistent maxEntries
      ↔ ledger.ConfirmSound maxEntries dailyKey betId := by
  rw [confirm, ConfirmSound]
  cases found : ledger.findEntry dailyKey betId with
  | none => simpa using consistent
  | some row =>
      obtain ⟨entry, place⟩ := row
      have moved :=
        moved_of_findEntry found { entry with status := .confirmed, confirmedAt := some now }
      dsimp only
      cases was : entry.status with
      | confirmed => simpa [was] using consistent
      | reserved =>
          rw [was] at moved
          simpa [was, consistent_write_iff consistent] using
            (consistent dailyKey).confirm moved
      | released | failed =>
          rw [was] at moved
          have keeps := (consistent dailyKey).confirm_inactive_iff moved (by decide)
            (by decide)
          simpa [was, consistent_write_iff consistent] using keeps

theorem consistent_release_iff (consistent : ledger.Consistent maxEntries)
    : (ledger.release now dailyKey betId).Consistent maxEntries
      ↔ ledger.ReleaseSound dailyKey betId := by
  rw [release, ReleaseSound]
  cases found : ledger.findEntry dailyKey betId with
  | none => simpa using consistent
  | some row =>
      obtain ⟨entry, place⟩ := row
      have moved :=
        moved_of_findEntry found { entry with status := .released, releasedAt := some now }
      dsimp only
      cases was : entry.status with
      | released | failed => simpa [was] using consistent
      | reserved =>
          rw [was] at moved
          simpa [was, consistent_write_iff consistent] using
            (consistent dailyKey).release moved
      | confirmed =>
          rw [was] at moved
          have keeps := (consistent dailyKey).release_confirmed_iff moved
          simpa [was, consistent_write_iff consistent] using keeps

/-- A call neither confirms a released entry, unless the counters allow it, nor releases a
confirmed one next to reserved ones.
-/
def Sound (maxEntries : Nat) (ledger : InMemoryDailyEntryLedger) : LedgerCall → Prop
  | .reserve _ _ _ => True
  | .confirm dailyKey betId => ledger.ConfirmSound maxEntries dailyKey betId
  | .release dailyKey betId _ => ledger.ReleaseSound dailyKey betId

theorem consistent_step_iff (consistent : ledger.Consistent maxEntries) (call : TimedCall)
    : (ledger.step maxEntries call).Consistent maxEntries
      ↔ ledger.Sound maxEntries call.call := by
  obtain ⟨call, now⟩ := call
  cases call with
  | reserve dailyKey betId sessionId =>
      exact iff_of_true (consistent_reserve consistent sessionId) trivial
  | confirm dailyKey betId => exact consistent_confirm_iff consistent
  | release dailyKey betId reason => exact consistent_release_iff consistent

theorem consistent_empty : Consistent maxEntries {} := by
  intro dailyKey
  exact ⟨rfl, rfl, Nat.zero_le _⟩

end InMemoryDailyEntryLedger

/-- Over every sequence of calls, on the database and in memory, the counters agree with the
entries after every call exactly when every call is sound.
-/
theorem counts_consistent_iff (maxEntries : Nat) (calls : List DailyTables.Call)
    (memoryCalls : List TimedCall)
    : (Runs.Always (DailyTables.step maxEntries)
          (fun tables call => (tables.step maxEntries call).Consistent maxEntries) {} calls
        ↔ Runs.Always (DailyTables.step maxEntries) DailyTables.Sound {} calls)
      ∧ (Runs.Always (InMemoryDailyEntryLedger.step maxEntries)
          (fun ledger call => (ledger.step maxEntries call).Consistent maxEntries) {}
          memoryCalls
        ↔ Runs.Always (InMemoryDailyEntryLedger.step maxEntries)
          (fun ledger call => ledger.Sound maxEntries call.call) {} memoryCalls) := by
  constructor
  · apply Runs.always_invariant_iff
    · intro tables call consistent
      exact DailyTables.consistent_step_iff consistent call
    · exact DailyTables.consistent_empty
  · apply Runs.always_invariant_iff
    · intro ledger call consistent
      exact InMemoryDailyEntryLedger.consistent_step_iff consistent call
    · exact InMemoryDailyEntryLedger.consistent_empty

/-- Two reservations, of which the first one is confirmed and then released. -/
def releasedConfirmed : List LedgerCall :=
  [.reserve "2024-01-15" "bet-1" "session-1", .reserve "2024-01-15" "bet-2" "session-1",
    .confirm "2024-01-15" "bet-1", .release "2024-01-15" "bet-1" "cancelled"]

/-- A reservation that is confirmed after its release, when another bet has the one slot. -/
def confirmedReleased : List LedgerCall :=
  [.reserve "2024-01-15" "bet-1" "session-1", .release "2024-01-15" "bet-1" "timeout",
    .reserve "2024-01-15" "bet-2" "session-1", .confirm "2024-01-15" "bet-2",
    .confirm "2024-01-15" "bet-1"]

/-- After the release of a confirmed entry no reservation is counted although one is left; the
ledger in memory confirms two entries where one is the maximum.
-/
theorem counts_go_wrong
    : ¬ Runs.Always (DailyTables.step 100)
        (fun tables call => (tables.step 100 call).Consistent 100) {}
        (releasedConfirmed.map fun call => { call })
      ∧ ¬ Runs.Always (InMemoryDailyEntryLedger.step 1)
        (fun ledger call => (ledger.step 1 call).Consistent 1) {}
        (confirmedReleased.map fun call => { call }) := by
  constructor
  · intro law
    have reserved := (law.2.2.2.1 "2024-01-15").reserved
    revert reserved
    decide
  · intro law
    have within := (law.2.2.2.2.1 "2024-01-15").within
    revert within
    decide

end CrashWave.Ledger
