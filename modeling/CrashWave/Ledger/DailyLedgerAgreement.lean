import CrashWave.Ledger.DailyView
import CrashWave.Ledger.InMemoryDailyLedger
import CrashWave.Runs.Basic
import Mathlib.Data.List.Rotate

/-! The two in-memory ledgers next to the one on the database. Each moves what can be seen of
it as described, under conditions of its own, so that they stay alike under all of these.
-/

namespace CrashWave.Ledger

open JavaScript

variable {maxEntries : Nat} {stamp : Stamp} {now dailyKey betId sessionId reason : String}
  {order : Nat}

-----------------------------------------------------------------------------------------
-- The ledger on the database
-----------------------------------------------------------------------------------------

namespace DailyTables

/-- The day and the bet of an entry. -/
def entryKey (entry : DailyEntryRecord) : String × String := (entry.dailyKey, entry.betId)

/-- What can be seen of the tables. -/
def view (tables : DailyTables) : DailyView where
  slot key := slotStatus tables.entries fun entry => entryKey entry = key
  confirmed dailyKey := (tables.statsOf dailyKey).entriesConfirmed
  reserved dailyKey := (tables.statsOf dailyKey).entriesReserved

/-- A bet has at most one entry on a day, and the days of entries have their counters. -/
structure Regular (tables : DailyTables) : Prop where
  unique : (tables.entries.map entryKey).Nodup
  counted : ∀ entry ∈ tables.entries, tables.stats.get entry.dailyKey ≠ none

variable {tables : DailyTables} {entry : DailyEntryRecord} {id : Nat}

theorem selected_firstAt (regular : tables.Regular)
    (selected : tables.selectEntry order dailyKey betId = some (entry, id))
    : FirstAt tables.entries (fun other => entryKey other = (dailyKey, betId)) entry id
      ∧ entry.dailyKey = dailyKey ∧ entry.betId = betId := by
  have member : (entry, id) ∈ tables.rowsOf dailyKey betId :=
    List.mem_rotate.mp (List.mem_of_head? selected)
  obtain ⟨listed, matching⟩ := List.mem_filter.mp member
  obtain ⟨rfl, rfl⟩ := of_decide_eq_true matching
  exact ⟨firstAt_of_unique regular.unique (List.mk_mem_zipIdx_iff_getElem?.mp listed), rfl,
    rfl⟩

theorem slot_of_selected (regular : tables.Regular)
    (selected : tables.selectEntry order dailyKey betId = some (entry, id))
    : tables.view.slot (dailyKey, betId) = some entry.status :=
  (selected_firstAt regular selected).1.slotStatus

/-- Where no row is selected there is none. -/
theorem slot_of_unselected (missing : tables.selectEntry order dailyKey betId = none)
    : tables.view.slot (dailyKey, betId) = none := by
  have empty : tables.rowsOf dailyKey betId = [] := by
    rw [selectEntry, List.head?_eq_none_iff, List.rotate_eq_nil_iff] at missing
    exact missing
  change slotStatus _ _ = none
  rw [slotStatus, Option.map_eq_none_iff, List.find?_eq_none]
  intro entry member is
  obtain ⟨place, listed⟩ := List.mem_iff_getElem?.mp member
  have row : (entry, place) ∈ tables.rowsOf dailyKey betId := by
    refine List.mem_filter.mpr ⟨List.mk_mem_zipIdx_iff_getElem?.mpr listed, ?_⟩
    simpa [entryKey] using is
  rw [empty] at row
  cases row

/-- Changed counters of a day leave its entries, and no day loses its counters. -/
theorem regular_updateStats (regular : tables.Regular) (change : DailyStats → DailyStats)
    : (updateStats tables dailyKey change).Regular := by
  refine ⟨regular.unique, ?_⟩
  intro entry member
  have row := regular.counted entry member
  change (tables.stats.modify dailyKey change).get entry.dailyKey ≠ none
  rw [Map.get_modify]
  exact fun missing => row (Option.map_eq_none_iff.mp missing)

/-- Tables whose entries have changed at one slot, with the changed counters of its day. -/
theorem view_updateStats {entries : List DailyEntryRecord} {status : EntrySlotStatus}
    (counted : tables.stats.get dailyKey ≠ none)
    (slot : slotStatus entries (fun entry => entryKey entry = (dailyKey, betId)) = some status)
    (slots : ∀ key ≠ (dailyKey, betId),
      slotStatus entries (fun entry => entryKey entry = key) = tables.view.slot key)
    (change : DailyStats → DailyStats)
    : view (updateStats { tables with entries } dailyKey change)
      = tables.view.write dailyKey betId status
        (change (tables.statsOf dailyKey)).entriesConfirmed
        (change (tables.statsOf dailyKey)).entriesReserved := by
  let changed : DailyTables := { tables with entries }
  have row : changed.stats.get dailyKey ≠ none := counted
  have stats := statsOf_updateStats row change
  apply DailyView.eq_write
  · exact slot
  · exact slots
  · intro other
    change ((updateStats changed dailyKey change).statsOf other).entriesConfirmed = _
    rw [stats, apply_ite DailyStats.entriesConfirmed]
    rfl
  · intro other
    change ((updateStats changed dailyKey change).statsOf other).entriesReserved = _
    rw [stats, apply_ite DailyStats.entriesReserved]
    rfl

/-- An entry that is rewritten, with the counters of its day. -/
theorem view_write (regular : tables.Regular)
    (selected : tables.selectEntry order dailyKey betId = some (entry, id))
    (updated : DailyEntryRecord) (sameKey : entryKey updated = entryKey entry)
    (change : DailyStats → DailyStats)
    : view (updateStats { tables with entries := tables.entries.set id updated } dailyKey change)
        = tables.view.write dailyKey betId updated.status
          (change (tables.statsOf dailyKey)).entriesConfirmed
          (change (tables.statsOf dailyKey)).entriesReserved
      ∧ Regular
          (updateStats { tables with entries := tables.entries.set id updated } dailyKey
            change) := by
  obtain ⟨first, day, bet⟩ := selected_firstAt regular selected
  have listed : entry ∈ tables.entries := List.mem_of_getElem? first.listed
  constructor
  · apply view_updateStats
    · rw [← day]
      exact regular.counted entry listed
    · refine (first.set ?_).slotStatus
      rw [sameKey]
      exact first.passes
    · intro key differs
      have other : entryKey entry ≠ key := by
        intro is
        exact differs (is ▸ of_decide_eq_true first.passes)
      exact slotStatus_set_of_not first.listed (decide_eq_false other)
        (decide_eq_false (sameKey ▸ other))
  · apply regular_updateStats
    refine ⟨nodup_keys_set regular.unique first.listed sameKey, ?_⟩
    intro other member
    rcases List.mem_or_eq_of_mem_set member with kept | rfl
    · exact regular.counted other kept
    · have days : other.dailyKey = entry.dailyKey := congrArg Prod.fst sameKey
      rw [days]
      exact regular.counted entry listed

theorem view_lockDailyStats : (tables.lockDailyStats dailyKey).view = tables.view := by
  ext1
  · rfl
  · funext other
    exact congrArg DailyStats.entriesConfirmed (statsOf_lockDailyStats tables dailyKey other)
  · funext other
    exact congrArg DailyStats.entriesReserved (statsOf_lockDailyStats tables dailyKey other)

theorem regular_lockDailyStats (regular : tables.Regular)
    : (tables.lockDailyStats dailyKey).Regular := by
  refine ⟨regular.unique, ?_⟩
  intro entry member
  change (tables.stats.set dailyKey (tables.statsOf dailyKey)).get entry.dailyKey ≠ none
  by_cases same : entry.dailyKey = dailyKey
  · rw [same, Map.get_set_self]
    exact Option.some_ne_none _
  · rw [Map.get_set_of_ne _ _ same]
    exact regular.counted entry member

/-- A new row for a bet that has none on that day, with the counters of the day. -/
theorem view_insert (regular : tables.Regular)
    (counted : tables.stats.get dailyKey ≠ none)
    (missing : tables.view.slot (dailyKey, betId) = none) (id reservedAt sessionId : String)
    (slotNumber : Nat) (change : DailyStats → DailyStats)
    : view
          (updateStats
            { tables with
              entries :=
                tables.entries ++ [newSlot id reservedAt dailyKey betId sessionId slotNumber] }
            dailyKey change)
        = tables.view.write dailyKey betId .reserved
          (change (tables.statsOf dailyKey)).entriesConfirmed
          (change (tables.statsOf dailyKey)).entriesReserved
      ∧ Regular
          (updateStats
            { tables with
              entries :=
                tables.entries ++ [newSlot id reservedAt dailyKey betId sessionId slotNumber] }
            dailyKey change) := by
  let slot := newSlot id reservedAt dailyKey betId sessionId slotNumber
  have slots : ∀ key, slotStatus (tables.entries ++ [slot]) (fun entry => entryKey entry = key)
      = (tables.view.slot key).or (if key = (dailyKey, betId) then some .reserved else none) := by
    intro key
    rw [slotStatus_append]
    simp [entryKey, slot, newSlot, view, eq_comm]
  constructor
  · apply view_updateStats counted
    · refine (slots (dailyKey, betId)).trans ?_
      rw [missing, if_pos rfl]
      rfl
    · intro key differs
      refine (slots key).trans ?_
      rw [if_neg differs, Option.or_none]
  · apply regular_updateStats
    refine ⟨nodup_keys_append regular.unique missing, ?_⟩
    intro entry member
    rcases List.mem_append.mp member with kept | new
    · exact regular.counted entry kept
    · rw [List.mem_singleton.mp new]
      exact counted

/-- A reservation, for a bet without a slot on that day or beyond the limit. -/
theorem reserve_spec (regular : tables.Regular)
    (fresh : tables.view.slot (dailyKey, betId) = none
      ∨ tables.view.Full maxEntries dailyKey)
    : (Runs.bodyState (reserve maxEntries stamp dailyKey betId sessionId) tables).view
        = tables.view.reserve maxEntries dailyKey betId
      ∧ (Runs.bodyState (reserve maxEntries stamp dailyKey betId sessionId) tables).Regular
      ∧ (reserve maxEntries stamp dailyKey betId sessionId tables).2.map LedgerAnswer.unstamped
        = .ok (.reservation (tables.view.reservation maxEntries dailyKey betId sessionId)) := by
  rw [Runs.bodyState, DailyView.reserve, DailyView.reservation, reserve]
  dsimp only
  rw [statsOf_lockDailyStats]
  by_cases full : tables.view.Full maxEntries dailyKey
  · have limit : maxEntries ≤ (tables.statsOf dailyKey).activeCount := full
    rw [if_pos full, if_pos full, if_pos limit]
    exact ⟨view_lockDailyStats, regular_lockDailyStats regular, rfl⟩
  · have free : ¬ maxEntries ≤ (tables.statsOf dailyKey).activeCount := full
    rw [if_neg full, if_neg full, if_neg free]
    have counted : (tables.lockDailyStats dailyKey).stats.get dailyKey ≠ none := by
      rw [lockDailyStats, Map.get_set_self]
      exact Option.some_ne_none _
    have missing : (tables.lockDailyStats dailyKey).view.slot (dailyKey, betId) = none := by
      rw [view_lockDailyStats]
      exact fresh.resolve_right full
    obtain ⟨seen, after⟩ :=
      view_insert (regular_lockDailyStats regular) counted missing stamp.rowId stamp.now
        sessionId ((tables.statsOf dailyKey).activeCount + 1)
        fun stats => { stats.reserved with entriesAttempted := stats.entriesAttempted + 1 }
    refine ⟨?_, after, rfl⟩
    rw [view_lockDailyStats, statsOf_lockDailyStats] at seen
    exact seen

/-- A confirmation, and what it answers by the slot of the bet. -/
theorem confirm_spec (regular : tables.Regular)
    : (Runs.bodyState (confirm order now dailyKey betId) tables).view
        = tables.view.confirm dailyKey betId
      ∧ (Runs.bodyState (confirm order now dailyKey betId) tables).Regular
      ∧ (confirm order now dailyKey betId tables).2.map LedgerAnswer.unstamped
        = tables.view.answer maxEntries (.confirm dailyKey betId) := by
  rw [Runs.bodyState, DailyView.confirm, DailyView.answer, confirm]
  cases selected : tables.selectEntry order dailyKey betId with
  | none =>
      rw [slot_of_unselected selected, if_neg (by simp)]
      exact ⟨rfl, regular, rfl⟩
  | some row =>
      obtain ⟨entry, id⟩ := row
      rw [slot_of_selected regular selected]
      cases was : entry.status with
      | confirmed | released | failed =>
          simpa [was, Except.map, LedgerAnswer.unstamped] using regular
      | reserved =>
          obtain ⟨seen, after⟩ :=
            view_write regular selected
              { entry with status := .confirmed, confirmedAt := some now } rfl
              DailyStats.confirmed
          dsimp only
          rw [if_neg (by simp [was]), if_neg (by simp [was]), if_pos rfl]
          exact ⟨seen, after, rfl⟩

/-- A release. -/
theorem release_spec (regular : tables.Regular)
    : (Runs.bodyState (release order now dailyKey betId reason) tables).view
        = tables.view.release dailyKey betId
      ∧ (Runs.bodyState (release order now dailyKey betId reason) tables).Regular
      ∧ (release order now dailyKey betId reason tables).2 = .ok .done := by
  rw [Runs.bodyState, DailyView.release, release]
  cases selected : tables.selectEntry order dailyKey betId with
  | none =>
      rw [slot_of_unselected selected]
      exact ⟨rfl, regular, rfl⟩
  | some row =>
      obtain ⟨entry, id⟩ := row
      rw [slot_of_selected regular selected]
      cases was : entry.status with
      | released | failed => simpa [was] using regular
      | reserved =>
          obtain ⟨seen, after⟩ :=
            view_write regular selected
              { entry with
                status := .released
                releasedAt := some now
                reason := some reason } rfl
              fun stats => stats.released .reserved
          dsimp only
          rw [if_neg (by simp [was]), was]
          exact ⟨seen, after, rfl⟩
      | confirmed =>
          obtain ⟨seen, after⟩ :=
            view_write regular selected
              { entry with
                status := .released
                releasedAt := some now
                reason := some reason } rfl
              fun stats => stats.released .confirmed
          dsimp only
          rw [if_neg (by simp [was]), was]
          exact ⟨seen, after, rfl⟩

end DailyTables

-----------------------------------------------------------------------------------------
-- The ledger in memory
-----------------------------------------------------------------------------------------

namespace InMemoryDailyEntryLedger

/-- What can be seen of the ledger. -/
def view (ledger : InMemoryDailyEntryLedger) : DailyView where
  slot key := slotStatus (ledger.dayEntries key.1) fun entry => entry.betId = key.2
  confirmed dailyKey := (ledger.statsOf dailyKey).entriesConfirmed
  reserved dailyKey := (ledger.statsOf dailyKey).entriesReserved

variable {ledger : InMemoryDailyEntryLedger}

/-- A day that is written anew, where one slot of it has changed. -/
theorem view_set {entries : List DailyEntryRecord} {status : EntrySlotStatus}
    (slot : slotStatus entries (fun entry => entry.betId = betId) = some status)
    (slots : ∀ other, other ≠ betId →
      slotStatus entries (fun entry => entry.betId = other)
        = slotStatus (ledger.dayEntries dailyKey) fun entry => entry.betId = other)
    (stats : DailyStats)
    : view
          { entries := ledger.entries.set dailyKey entries
            stats := ledger.stats.set dailyKey stats }
        = ledger.view.write dailyKey betId status stats.entriesConfirmed
          stats.entriesReserved := by
  apply DailyView.eq_write
  · change slotStatus (dayEntries _ dailyKey) _ = _
    rw [dayEntries_set, if_pos rfl]
    exact slot
  · rintro ⟨day, bet⟩ differs
    change slotStatus (dayEntries _ day) _ = slotStatus (ledger.dayEntries day) _
    rw [dayEntries_set]
    by_cases same : day = dailyKey
    · subst same
      rw [if_pos rfl]
      exact slots bet fun is => differs (by rw [is])
    · rw [if_neg same]
  · intro other
    change (statsOf _ other).entriesConfirmed = _
    rw [statsOf_set, apply_ite DailyStats.entriesConfirmed]
    rfl
  · intro other
    change (statsOf _ other).entriesReserved = _
    rw [statsOf_set, apply_ite DailyStats.entriesReserved]
    rfl

theorem findEntry_first {entry : DailyEntryRecord} {place : Nat}
    (found : ledger.findEntry dailyKey betId = some (entry, place))
    : FirstAt (ledger.dayEntries dailyKey) (fun entry => entry.betId = betId) entry place :=
  firstAt_of_find? found

/-- An entry of a day that is rewritten. -/
theorem view_write {entry : DailyEntryRecord} {place : Nat}
    (found : ledger.findEntry dailyKey betId = some (entry, place))
    (updated : DailyEntryRecord) (sameBet : updated.betId = entry.betId) (stats : DailyStats)
    : view
          { entries :=
              ledger.entries.set dailyKey ((ledger.dayEntries dailyKey).set place updated)
            stats := ledger.stats.set dailyKey stats }
        = ledger.view.write dailyKey betId updated.status stats.entriesConfirmed
          stats.entriesReserved := by
  have first := findEntry_first found
  have bet : entry.betId = betId := of_decide_eq_true first.passes
  apply view_set
  · refine (first.set ?_).slotStatus
    rw [sameBet]
    exact first.passes
  · intro other differs
    have fails : entry.betId ≠ other := by
      rw [bet]
      exact differs.symm
    exact slotStatus_set_of_not first.listed (decide_eq_false fails)
      (decide_eq_false (sameBet ▸ fails))

/-- A reservation, for a bet without a slot on that day or beyond the limit. -/
theorem reserve_spec
    (fresh : ledger.view.slot (dailyKey, betId) = none
      ∨ ledger.view.Full maxEntries dailyKey)
    : (ledger.reserve maxEntries now dailyKey betId sessionId).1.view
        = ledger.view.reserve maxEntries dailyKey betId
      ∧ (ledger.reserve maxEntries now dailyKey betId sessionId).2.unstamped
        = .reservation (ledger.view.reservation maxEntries dailyKey betId sessionId) := by
  rw [DailyView.reserve, DailyView.reservation, reserve]
  dsimp only
  by_cases full : ledger.view.Full maxEntries dailyKey
  · have limit : maxEntries ≤ DailyStats.activeCount
        { ledger.statsOf dailyKey with
          entriesAttempted := (ledger.statsOf dailyKey).entriesAttempted + 1 } := full
    rw [if_pos full, if_pos full, if_pos limit]
    refine ⟨?_, rfl⟩
    ext1
    · rfl
    · funext other
      change (statsOf _ other).entriesConfirmed = _
      rw [statsOf_set]
      split
      · next same => rw [same]; rfl
      · rfl
    · funext other
      change (statsOf _ other).entriesReserved = _
      rw [statsOf_set]
      split
      · next same => rw [same]; rfl
      · rfl
  · have free : ¬ maxEntries ≤ DailyStats.activeCount
        { ledger.statsOf dailyKey with
          entriesAttempted := (ledger.statsOf dailyKey).entriesAttempted + 1 } := full
    rw [if_neg full, if_neg full, if_neg free]
    refine ⟨view_set ?_ ?_ _, rfl⟩
    · have missing : slotStatus (ledger.dayEntries dailyKey) (fun entry => entry.betId = betId)
          = none := fresh.resolve_right full
      rw [slotStatus_append, missing]
      simp [newSlot]
    · intro other differs
      rw [slotStatus_append]
      simp [newSlot, differs.symm]

/-- The entry that is found has the status that can be seen. -/
theorem view_slot_of_findEntry {entry : DailyEntryRecord} {place : Nat}
    (found : ledger.findEntry dailyKey betId = some (entry, place))
    : ledger.view.slot (dailyKey, betId) = some entry.status :=
  (findEntry_first found).slotStatus

theorem confirm_spec (active : ledger.view.ConfirmsActive (.confirm dailyKey betId))
    : (ledger.confirm now dailyKey betId).view = ledger.view.confirm dailyKey betId := by
  rw [DailyView.confirm, confirm]
  cases found : ledger.findEntry dailyKey betId with
  | none =>
      have missing : ledger.view.slot (dailyKey, betId) = none := slotStatus_of_find?_none found
      rw [missing, if_neg (by simp)]
  | some row =>
      obtain ⟨entry, place⟩ := row
      have slot := view_slot_of_findEntry found
      rw [slot]
      dsimp only
      cases was : entry.status with
      | confirmed => rw [if_pos rfl, if_neg (by simp)]
      | reserved =>
          rw [if_neg (by simp), if_pos rfl]
          exact view_write found { entry with status := .confirmed, confirmedAt := some now } rfl
            (ledger.statsOf dailyKey).confirmed
      | released => exact absurd (was ▸ slot) active.1
      | failed => exact absurd (was ▸ slot) active.2

theorem release_spec : (ledger.release now dailyKey betId).view
    = ledger.view.release dailyKey betId := by
  rw [DailyView.release, release]
  cases found : ledger.findEntry dailyKey betId with
  | none =>
      have missing : ledger.view.slot (dailyKey, betId) = none := slotStatus_of_find?_none found
      rw [missing]
  | some row =>
      obtain ⟨entry, place⟩ := row
      have slot := view_slot_of_findEntry found
      rw [slot]
      dsimp only
      cases was : entry.status with
      | released | failed => simp
      | reserved =>
          rw [if_neg (by simp)]
          exact view_write found { entry with status := .released, releasedAt := some now } rfl
            ((ledger.statsOf dailyKey).released .reserved)
      | confirmed =>
          rw [if_neg (by simp)]
          exact view_write found { entry with status := .released, releasedAt := some now } rfl
            ((ledger.statsOf dailyKey).released .confirmed)

end InMemoryDailyEntryLedger

-----------------------------------------------------------------------------------------
-- The ledger for the tests
-----------------------------------------------------------------------------------------

namespace InMemoryDailyLedger

/-- What can be seen of the ledger. -/
def view (ledger : InMemoryDailyLedger) : DailyView where
  slot key := slotStatus (ledger.getBucket key.1).slots fun slot => slot.betId = key.2
  confirmed dailyKey := (ledger.getBucket dailyKey).confirmed
  reserved dailyKey := (ledger.getBucket dailyKey).reserved

/-- A bet has at most one slot on a day. -/
def Unique (ledger : InMemoryDailyLedger) : Prop :=
  ∀ dailyKey, ((ledger.getBucket dailyKey).slots.map DailyEntryRecord.betId).Nodup

variable {ledger : InMemoryDailyLedger} {bucket : DayBucket}

theorem getBucket_setBucket (other : String)
    : (ledger.setBucket dailyKey bucket).getBucket other
      = if other = dailyKey then bucket else ledger.getBucket other := by
  by_cases same : other = dailyKey
  · subst same
    simp [setBucket, getBucket]
  · simp [setBucket, getBucket, Map.get_set_of_ne _ _ same, same]

/-- A bucket that is made where it is missing shows nothing. -/
theorem setBucket_getBucket (unique : ledger.Unique)
    : (ledger.setBucket dailyKey (ledger.getBucket dailyKey)).view = ledger.view
      ∧ (ledger.setBucket dailyKey (ledger.getBucket dailyKey)).Unique := by
  have same : (ledger.setBucket dailyKey (ledger.getBucket dailyKey)).getBucket
      = ledger.getBucket := by
    funext other
    rw [getBucket_setBucket]
    split
    · next is => rw [is]
    · rfl
  rw [view, Unique, same]
  exact ⟨rfl, unique⟩

/-- The bucket of a day, where one slot of it has changed. -/
theorem view_setBucket (unique : ledger.Unique) {status : EntrySlotStatus}
    (bets : (bucket.slots.map DailyEntryRecord.betId).Nodup)
    (slot : slotStatus bucket.slots (fun slot => slot.betId = betId) = some status)
    (slots : ∀ other, other ≠ betId →
      slotStatus bucket.slots (fun slot => slot.betId = other)
        = slotStatus (ledger.getBucket dailyKey).slots fun slot => slot.betId = other)
    : (ledger.setBucket dailyKey bucket).view
        = ledger.view.write dailyKey betId status bucket.confirmed bucket.reserved
      ∧ (ledger.setBucket dailyKey bucket).Unique := by
  constructor
  · apply DailyView.eq_write
    · change slotStatus (getBucket _ dailyKey).slots _ = _
      rw [getBucket_setBucket, if_pos rfl]
      exact slot
    · rintro ⟨day, bet⟩ differs
      change slotStatus (getBucket _ day).slots _ = slotStatus (ledger.getBucket day).slots _
      rw [getBucket_setBucket]
      by_cases same : day = dailyKey
      · subst same
        rw [if_pos rfl]
        exact slots bet fun is => differs (by rw [is])
      · rw [if_neg same]
    · intro other
      change (getBucket _ other).confirmed = _
      rw [getBucket_setBucket, apply_ite DayBucket.confirmed]
      rfl
    · intro other
      change (getBucket _ other).reserved = _
      rw [getBucket_setBucket, apply_ite DayBucket.reserved]
      rfl
  · intro other
    rw [getBucket_setBucket]
    split
    · exact bets
    · exact unique other

/-- A reserved slot that is found and rewritten. -/
theorem view_write (unique : ledger.Unique) {slot : DailyEntryRecord} {place : Nat}
    (found : findReserved (ledger.getBucket dailyKey) betId = some (slot, place))
    (updated : DailyEntryRecord) (sameBet : updated.betId = slot.betId)
    (confirmed reserved : Nat)
    : let bucket : DayBucket :=
        { slots := (ledger.getBucket dailyKey).slots.set place updated, confirmed, reserved }
      ledger.view.slot (dailyKey, betId) = some .reserved
      ∧ (ledger.setBucket dailyKey bucket).view
        = ledger.view.write dailyKey betId updated.status confirmed reserved
      ∧ (ledger.setBucket dailyKey bucket).Unique := by
  have slots := unique dailyKey
  rw [findReserved] at found
  have member := List.mem_of_find?_eq_some found
  have listed := List.mk_mem_zipIdx_iff_getElem?.mp member
  have matched := List.find?_some found
  obtain ⟨rfl, was⟩ : slot.betId = betId ∧ slot.status = .reserved := of_decide_eq_true matched
  have first := firstAt_of_unique slots listed
  refine ⟨was ▸ first.slotStatus, view_setBucket unique ?_ ?_ ?_⟩
  · exact nodup_keys_set slots listed sameBet
  · exact (first.set (decide_eq_true sameBet)).slotStatus
  · intro other differs
    exact slotStatus_set_of_not listed (decide_eq_false differs.symm)
      (decide_eq_false (sameBet ▸ differs.symm))

/-- A new slot for a bet that has none on that day. -/
theorem view_append (unique : ledger.Unique)
    (missing : ledger.view.slot (dailyKey, betId) = none) (id reservedAt sessionId : String)
    (slotNumber confirmed reserved : Nat)
    : let bucket : DayBucket :=
        { slots :=
            (ledger.getBucket dailyKey).slots
              ++ [newSlot id reservedAt dailyKey betId sessionId slotNumber]
          confirmed, reserved }
      (ledger.setBucket dailyKey bucket).view
        = ledger.view.write dailyKey betId .reserved confirmed reserved
      ∧ (ledger.setBucket dailyKey bucket).Unique := by
  change slotStatus (ledger.getBucket dailyKey).slots _ = none at missing
  refine view_setBucket unique ?_ ?_ ?_
  · exact nodup_keys_append (unique dailyKey) missing
  · rw [slotStatus_append, missing]
    simp [newSlot]
  · intro other differs
    rw [slotStatus_append]
    simp [newSlot, differs.symm]

/-- Where no reserved slot is found, the bet has none. -/
theorem slot_of_unreserved
    (missing : findReserved (ledger.getBucket dailyKey) betId = none)
    : ledger.view.slot (dailyKey, betId) ≠ some .reserved := by
  intro is
  obtain ⟨slot, found, was⟩ := Option.map_eq_some_iff.mp is
  obtain ⟨place, listed⟩ := List.mem_iff_getElem?.mp (List.mem_of_find?_eq_some found)
  have row := List.find?_eq_none.mp missing (slot, place)
    (List.mk_mem_zipIdx_iff_getElem?.mpr listed)
  have bet := List.find?_some found
  exact row (decide_eq_true ⟨of_decide_eq_true bet, was⟩)

/-- A reservation, for a bet without a slot on that day or beyond the limit. -/
theorem reserve_spec (unique : ledger.Unique)
    (fresh : ledger.view.slot (dailyKey, betId) = none
      ∨ ledger.view.Full maxEntries dailyKey)
    : (ledger.reserve maxEntries now dailyKey betId sessionId).1.view
        = ledger.view.reserve maxEntries dailyKey betId
      ∧ (ledger.reserve maxEntries now dailyKey betId sessionId).1.Unique
      ∧ ∃ message,
          (ledger.reserve maxEntries now dailyKey betId sessionId).2.unstamped
            = { ledger.view.reservation maxEntries dailyKey betId sessionId with message } := by
  rw [DailyView.reserve, DailyView.reservation, reserve]
  dsimp only
  by_cases full : ledger.view.Full maxEntries dailyKey
  · have limit : maxEntries
        ≤ (ledger.getBucket dailyKey).confirmed + (ledger.getBucket dailyKey).reserved := full
    rw [if_pos full, if_pos full, if_pos limit]
    obtain ⟨seen, after⟩ := setBucket_getBucket unique
    exact ⟨seen, after, _, rfl⟩
  · have free : ¬ maxEntries
        ≤ (ledger.getBucket dailyKey).confirmed + (ledger.getBucket dailyKey).reserved := full
    rw [if_neg full, if_neg full, if_neg free]
    obtain ⟨seen, after⟩ :=
      view_append unique (fresh.resolve_right full)
        ("mem-" ++ toString (ledger.idCounter + 1)) now sessionId
        ((ledger.getBucket dailyKey).confirmed + (ledger.getBucket dailyKey).reserved + 1)
        (ledger.getBucket dailyKey).confirmed ((ledger.getBucket dailyKey).reserved + 1)
    exact ⟨seen, after, _, rfl⟩

theorem confirm_spec (unique : ledger.Unique)
    : (ledger.confirm now dailyKey betId).1.view = ledger.view.confirm dailyKey betId
      ∧ (ledger.confirm now dailyKey betId).1.Unique
      ∧ ((ledger.confirm now dailyKey betId).2 = true
        ↔ ledger.view.slot (dailyKey, betId) = some .reserved) := by
  rw [DailyView.confirm, confirm]
  cases found : findReserved (ledger.getBucket dailyKey) betId with
  | none =>
      have unreserved := slot_of_unreserved found
      obtain ⟨seen, after⟩ := setBucket_getBucket unique
      rw [if_neg unreserved]
      exact ⟨seen, after, iff_of_false (by simp) unreserved⟩
  | some row =>
      obtain ⟨slot, place⟩ := row
      obtain ⟨was, seen, after⟩ :=
        view_write unique found { slot with status := .confirmed, confirmedAt := some now } rfl
          ((ledger.getBucket dailyKey).confirmed + 1)
          ((ledger.getBucket dailyKey).reserved - 1)
      rw [if_pos was]
      exact ⟨seen, after, iff_of_true rfl was⟩

theorem release_spec (unique : ledger.Unique)
    (unconfirmed : ledger.view.ReleasesUnconfirmed (.release dailyKey betId reason))
    : (ledger.release now dailyKey betId).1.view = ledger.view.release dailyKey betId
      ∧ (ledger.release now dailyKey betId).1.Unique
      ∧ ((ledger.release now dailyKey betId).2 = true
        ↔ ledger.view.slot (dailyKey, betId) = some .reserved) := by
  rw [DailyView.release, release]
  cases found : findReserved (ledger.getBucket dailyKey) betId with
  | none =>
      have unreserved := slot_of_unreserved found
      obtain ⟨seen, after⟩ := setBucket_getBucket unique
      cases slot : ledger.view.slot (dailyKey, betId) with
      | none => exact ⟨seen, after, by simp⟩
      | some status =>
          cases status with
          | reserved => exact absurd slot unreserved
          | confirmed => exact absurd slot unconfirmed
          | released | failed => exact ⟨seen, after, by simp⟩
  | some row =>
      obtain ⟨slot, place⟩ := row
      obtain ⟨was, seen, after⟩ :=
        view_write unique found { slot with status := .released, releasedAt := some now } rfl
          (ledger.getBucket dailyKey).confirmed ((ledger.getBucket dailyKey).reserved - 1)
      rw [was]
      exact ⟨seen, after, iff_of_true rfl rfl⟩

end InMemoryDailyLedger

-----------------------------------------------------------------------------------------
-- Ledgers side by side
-----------------------------------------------------------------------------------------

/-- What a database has: the tables of the migrations, where `daily_stats` has no column
`entries_reserved` and `daily_entries` is missing, or all that the statements name.
-/
inductive DailySchema where
  | migrated
  | complete
  deriving DecidableEq

/-- A call with what is given to it: the time next to the ledger in memory, and on the database the
order in which rows are listed and a stamp.
-/
structure SideCall extends TimedCall where
  order : Nat := 0
  stamp : Stamp := {}

/-- A call on the database goes through at its first attempt, unless its statements name what the
database does not have.
-/
def DailyTables.runOnce (schema : DailySchema) (maxEntries : Nat) (tables : DailyTables)
    (call : SideCall)
    : DailyTables × Except (Runs.TransactionError LedgerError) LedgerAnswer :=
  tables.run maxEntries
    { call := call.call
      order := call.order
      stamp := call.stamp
      attempts := fun _ => if schema = .complete then .commits else .fails }

/-- Each call is made on the ledger on the database and on one in memory. -/
def sideBySide {σ : Type} (step : σ → TimedCall → σ) (maxEntries : Nat)
    (state : DailyTables × σ) (call : SideCall) : DailyTables × σ :=
  ((state.1.runOnce .complete maxEntries call).1, step state.2 call.toTimedCall)

/-- What both ledgers count for each day is the same. -/
def DailyView.SameCounts (view other : DailyView) : Prop :=
  view.confirmed = other.confirmed ∧ view.reserved = other.reserved

/-- What the ledger on the database answers where the one in memory answers as it does: the
same, except that it throws where a bet without an entry is confirmed.
-/
def thrownOnMissing (view : DailyView) (call : LedgerCall) (answer : LedgerAnswer)
    : Except (Runs.TransactionError LedgerError) LedgerAnswer :=
  match call with
  | .confirm dailyKey betId =>
      if view.slot (dailyKey, betId) = none then
        .error (.thrown (.entryNotFound ("Daily entry not found: " ++ dailyKey ++ "/" ++ betId)))
      else .ok answer
  | _ => .ok answer

/-- What the ledger on the database answers, without ids and times, where the one for the tests
answers as it does. A reservation is the same up to its message; a change that this one reports as
made is made.
-/
def AnswersAlike (view : DailyView) (call : LedgerCall) (answer : InMemoryDailyLedger.Answer)
    (databaseAnswer : Except (Runs.TransactionError LedgerError) LedgerAnswer) : Prop :=
  match call, answer with
  | .reserve _ _ _, .reservation result =>
      ∃ message, databaseAnswer = .ok (.reservation { result.unstamped with message })
  | .confirm dailyKey betId, .found changed =>
      (changed = true ↔ view.slot (dailyKey, betId) = some .reserved)
      ∧ (changed = true → databaseAnswer = .ok .done)
  | .release dailyKey betId _, .found changed =>
      (changed = true ↔ view.slot (dailyKey, betId) = some .reserved)
      ∧ databaseAnswer = .ok .done
  | _, _ => False

/-- What the ledger on the database shows and answers, by what it showed. -/
theorem DailyTables.runOnce_spec {tables : DailyTables} (regular : tables.Regular)
    {call : SideCall} (fresh : tables.view.Fresh maxEntries call.call)
    : (tables.runOnce .complete maxEntries call).1.view = tables.view.step maxEntries call.call
      ∧ (tables.runOnce .complete maxEntries call).1.Regular
      ∧ (tables.runOnce .complete maxEntries call).2.map LedgerAnswer.unstamped
        = (tables.view.answer maxEntries call.call).mapError .thrown := by
  have mapped (answer : Except LedgerError LedgerAnswer)
      : (answer.mapError Runs.TransactionError.thrown).map LedgerAnswer.unstamped
        = (answer.map LedgerAnswer.unstamped).mapError Runs.TransactionError.thrown := by
    cases answer <;> rfl
  rw [runOnce, run]
  simp only [if_true]
  rw [Runs.withRetry_transact_commits, mapped]
  obtain ⟨⟨call, now⟩, order, stamp⟩ := call
  cases call with
  | reserve dailyKey betId sessionId =>
      obtain ⟨seen, after, answers⟩ := reserve_spec regular fresh
      exact ⟨seen, after, congrArg (Except.mapError Runs.TransactionError.thrown) answers⟩
  | confirm dailyKey betId =>
      obtain ⟨seen, after, answers⟩ := confirm_spec regular
      exact ⟨seen, after, congrArg (Except.mapError Runs.TransactionError.thrown) answers⟩
  | release dailyKey betId reason =>
      obtain ⟨seen, after, answers⟩ := release_spec regular
      refine ⟨seen, after, ?_⟩
      exact congrArg (fun answer => (Except.map LedgerAnswer.unstamped answer).mapError _) answers

/-- The ledger in memory shows and answers the same, but does not throw where an entry is
missing.
-/
theorem InMemoryDailyEntryLedger.run_spec {ledger : InMemoryDailyEntryLedger}
    {call : TimedCall} (fresh : ledger.view.Fresh maxEntries call.call)
    (active : ledger.view.ConfirmsActive call.call)
    : (ledger.step maxEntries call).view = ledger.view.step maxEntries call.call
      ∧ (ledger.view.answer maxEntries call.call).mapError .thrown
        = thrownOnMissing ledger.view call.call (ledger.run maxEntries call).2.unstamped := by
  obtain ⟨call, now⟩ := call
  cases call with
  | reserve dailyKey betId sessionId =>
      obtain ⟨seen, answers⟩ := reserve_spec fresh
      exact ⟨seen, congrArg Except.ok answers.symm⟩
  | confirm dailyKey betId =>
      refine ⟨confirm_spec active, ?_⟩
      rw [DailyView.answer, thrownOnMissing]
      cases slot : ledger.view.slot (dailyKey, betId) with
      | none => rfl
      | some status =>
          cases status with
          | reserved | confirmed => rfl
          | released => exact absurd slot active.1
          | failed => exact absurd slot active.2
  | release dailyKey betId reason => exact ⟨release_spec, rfl⟩

/-- The ledger for the tests shows the same; its answers are those of the one on the database
where it finds a reserved slot.
-/
theorem InMemoryDailyLedger.run_spec {ledger : InMemoryDailyLedger} (unique : ledger.Unique)
    {call : TimedCall} (fresh : ledger.view.Fresh maxEntries call.call)
    (unconfirmed : ledger.view.ReleasesUnconfirmed call.call)
    : (ledger.step maxEntries call).view = ledger.view.step maxEntries call.call
      ∧ (ledger.step maxEntries call).Unique
      ∧ AnswersAlike ledger.view call.call (ledger.run maxEntries call).2
        ((ledger.view.answer maxEntries call.call).mapError .thrown) := by
  obtain ⟨call, now⟩ := call
  cases call with
  | reserve dailyKey betId sessionId =>
      obtain ⟨seen, after, message, answers⟩ := reserve_spec unique fresh
      have alike : ∃ message,
          (ledger.view.answer maxEntries (.reserve dailyKey betId sessionId)).mapError
              Runs.TransactionError.thrown
            = .ok
                (.reservation
                  { (ledger.reserve maxEntries now dailyKey betId sessionId).2.unstamped with
                    message }) := by
        rw [answers]
        exact ⟨_, rfl⟩
      exact ⟨seen, after, alike⟩
  | confirm dailyKey betId =>
      obtain ⟨seen, after, changes⟩ := confirm_spec unique
      refine ⟨seen, after, changes, ?_⟩
      intro changed
      rw [DailyView.answer, changes.mp changed]
      rfl
  | release dailyKey betId reason =>
      obtain ⟨seen, after, changes⟩ := release_spec unique unconfirmed
      exact ⟨seen, after, changes, rfl⟩

/-- Both ledgers show the same, and the one on the database is regular. -/
def Alike (state : DailyTables × InMemoryDailyEntryLedger) : Prop :=
  state.1.view = state.2.view ∧ state.1.Regular

/-- Both ledgers count the same after a call, and answer it alike up to ids and times. -/
def AgreesInMemory (maxEntries : Nat) (state : DailyTables × InMemoryDailyEntryLedger)
    (call : SideCall) : Prop :=
  (state.1.runOnce .complete maxEntries call).1.view.SameCounts
      (state.2.step maxEntries call.toTimedCall).view
    ∧ (state.1.runOnce .complete maxEntries call).2.map LedgerAnswer.unstamped
      = thrownOnMissing state.1.view call.call
          (state.2.run maxEntries call.toTimedCall).2.unstamped

theorem alike_step {state : DailyTables × InMemoryDailyEntryLedger} {call : SideCall}
    (alike : Alike state)
    (lawful
      : state.1.view.Fresh maxEntries call.call ∧ state.1.view.ConfirmsActive call.call)
    : AgreesInMemory maxEntries state call
      ∧ Alike (sideBySide (InMemoryDailyEntryLedger.step maxEntries) maxEntries state call) := by
  obtain ⟨tables, ledger⟩ := state
  obtain ⟨same, regular⟩ := alike
  obtain ⟨fresh, active⟩ := lawful
  dsimp only at same fresh active
  obtain ⟨seen, after, answers⟩ := DailyTables.runOnce_spec regular fresh
  rw [same] at fresh active
  obtain ⟨mirrored, mirror⟩ := InMemoryDailyEntryLedger.run_spec fresh active
  have next : (tables.runOnce .complete maxEntries call).1.view
      = (ledger.step maxEntries call.toTimedCall).view := by
    rw [seen, mirrored, same]
  refine ⟨⟨?_, ?_⟩, next, after⟩
  · rw [next]
    exact ⟨rfl, rfl⟩
  · rw [answers, same, mirror]

/-- Both ledgers show the same, and no bet has two entries on a day in either. -/
def AlikeForTests (state : DailyTables × InMemoryDailyLedger) : Prop :=
  state.1.view = state.2.view ∧ state.1.Regular ∧ state.2.Unique

/-- Both ledgers count the same after a call, and their answers to it match. -/
def AgreesForTests (maxEntries : Nat) (state : DailyTables × InMemoryDailyLedger)
    (call : SideCall) : Prop :=
  (state.1.runOnce .complete maxEntries call).1.view.SameCounts
      (state.2.step maxEntries call.toTimedCall).view
    ∧ AnswersAlike state.1.view call.call (state.2.run maxEntries call.toTimedCall).2
      ((state.1.runOnce .complete maxEntries call).2.map LedgerAnswer.unstamped)

theorem alikeForTests_step {state : DailyTables × InMemoryDailyLedger}
    {call : SideCall} (alike : AlikeForTests state)
    (lawful
      : state.1.view.Fresh maxEntries call.call ∧ state.1.view.ReleasesUnconfirmed call.call)
    : AgreesForTests maxEntries state call
      ∧ AlikeForTests (sideBySide (InMemoryDailyLedger.step maxEntries) maxEntries state call) := by
  obtain ⟨tables, ledger⟩ := state
  obtain ⟨same, regular, unique⟩ := alike
  obtain ⟨fresh, unconfirmed⟩ := lawful
  dsimp only at same fresh unconfirmed
  obtain ⟨seen, after, answers⟩ := DailyTables.runOnce_spec regular fresh
  rw [same] at fresh unconfirmed
  obtain ⟨mirrored, stays, mirror⟩ := InMemoryDailyLedger.run_spec unique fresh unconfirmed
  have next : (tables.runOnce .complete maxEntries call).1.view
      = (ledger.step maxEntries call.toTimedCall).view := by
    rw [seen, mirrored, same]
  refine ⟨⟨?_, ?_⟩, next, after, stays⟩
  · rw [next]
    exact ⟨rfl, rfl⟩
  · rw [answers, same]
    exact mirror

theorem alike_empty : Alike ({}, {}) := ⟨rfl, List.nodup_nil, by simp⟩

theorem alikeForTests_empty : AlikeForTests ({}, {}) :=
  ⟨rfl, ⟨List.nodup_nil, by simp⟩, fun _ => List.nodup_nil⟩

/-- Over calls that are made one after another, from empty days, both in-memory ledgers count
what the one on a complete database counts. The first one also answers the same up to ids and times,
as long as no bet that has an entry reserves again and no entry that was released is confirmed,
except that it does not throw where an entry is missing. The second one answers alike as long as no
bet that has an entry reserves again and no confirmed entry is released. On the tables of the
migrations every call throws and changes nothing.
-/
theorem daily_ledgers_agree (maxEntries : Nat) (calls : List SideCall)
    : (Runs.Always (sideBySide (InMemoryDailyEntryLedger.step maxEntries) maxEntries)
          (fun state call =>
            state.1.view.Fresh maxEntries call.call ∧ state.1.view.ConfirmsActive call.call)
          ({}, {}) calls
        → Runs.Always (sideBySide (InMemoryDailyEntryLedger.step maxEntries) maxEntries)
          (AgreesInMemory maxEntries) ({}, {}) calls)
      ∧ (Runs.Always (sideBySide (InMemoryDailyLedger.step maxEntries) maxEntries)
          (fun state call =>
            state.1.view.Fresh maxEntries call.call ∧ state.1.view.ReleasesUnconfirmed call.call)
          ({}, {}) calls
        → Runs.Always (sideBySide (InMemoryDailyLedger.step maxEntries) maxEntries)
          (AgreesForTests maxEntries) ({}, {}) calls)
      ∧ ∀ tables call,
          DailyTables.runOnce .migrated maxEntries tables call = (tables, .error .database) := by
  refine ⟨?_, ?_, fun _ _ => rfl⟩
  · intro lawful
    exact .of_invariant (fun _ _ => alike_step) lawful alike_empty
  · intro lawful
    exact .of_invariant (fun _ _ => alikeForTests_step) lawful alikeForTests_empty

/-- A bet is reserved and confirmed, another one is reserved and released. -/
def usualDay : List SideCall :=
  [{ call := .reserve "2024-01-15" "bet-1" "session-1", stamp := { rowId := "row-1" } },
    { call := .confirm "2024-01-15" "bet-1" },
    { call := .reserve "2024-01-15" "bet-2" "session-1", stamp := { rowId := "row-2" } },
    { call := .release "2024-01-15" "bet-2" "timeout" }]

theorem usualDay_agrees
    : Runs.Always (sideBySide (InMemoryDailyEntryLedger.step 2) 2) (AgreesInMemory 2) ({}, {})
          usualDay
      ∧ Runs.Always (sideBySide (InMemoryDailyLedger.step 2) 2) (AgreesForTests 2) ({}, {})
          usualDay :=
  ⟨(daily_ledgers_agree 2 usualDay).1 (by decide),
    (daily_ledgers_agree 2 usualDay).2.1 (by decide)⟩

/-- An entry that was released is confirmed. -/
def confirmedAfterRelease : List SideCall :=
  [{ call := .reserve "2024-01-15" "bet-1" "session-1" },
    { call := .release "2024-01-15" "bet-1" "timeout" },
    { call := .confirm "2024-01-15" "bet-1" }]

/-- An entry that was confirmed is released. -/
def releasedAfterConfirm : List SideCall :=
  [{ call := .reserve "2024-01-15" "bet-1" "session-1" },
    { call := .confirm "2024-01-15" "bet-1" },
    { call := .release "2024-01-15" "bet-1" "cancelled" }]

/-- A bet reserves twice, and is confirmed twice. The database lists the rows the other way
round for the last call, or not.
-/
def reservedTwice (order : Nat) : List SideCall :=
  [{ call := .reserve "2024-01-15" "bet-1" "session-1" },
    { call := .reserve "2024-01-15" "bet-1" "session-1" },
    { call := .confirm "2024-01-15" "bet-1" }, { call := .confirm "2024-01-15" "bet-1", order }]

/-- The ledgers differ: on the tables of the migrations the database throws always; where a missing
entry is confirmed only the database throws; and they count differently where an entry is confirmed
after its release, released after its confirmation, or made twice.
-/
theorem daily_ledgers_differ
    : (DailyTables.runOnce .migrated 100 {}
            { call := .reserve "2024-01-15" "bet-1" "session-1" }).2
          = .error .database
      ∧ (∃ error,
          (DailyTables.runOnce .complete 100 {} { call := .confirm "2024-01-15" "bet-1" }).2
              = .error error
          ∧ (InMemoryDailyEntryLedger.run 100 {} { call := .confirm "2024-01-15" "bet-1" }).2
              = .done)
      ∧ (let ended :=
          Runs.run (sideBySide (InMemoryDailyEntryLedger.step 100) 100) ({}, {})
        ¬ (ended confirmedAfterRelease).1.view.SameCounts (ended confirmedAfterRelease).2.view
        ∧ ¬ (ended (reservedTwice 1)).1.view.SameCounts (ended (reservedTwice 1)).2.view)
      ∧ (let ended := Runs.run (sideBySide (InMemoryDailyLedger.step 100) 100) ({}, {})
        ¬ (ended releasedAfterConfirm).1.view.SameCounts (ended releasedAfterConfirm).2.view
        ∧ ¬ (ended (reservedTwice 0)).1.view.SameCounts (ended (reservedTwice 0)).2.view) := by
  refine ⟨rfl, ⟨_, rfl, rfl⟩, ⟨?_, ?_⟩, ?_, ?_⟩
  all_goals
    intro same
    have confirmed := congrFun same.1 "2024-01-15"
    revert confirmed
    decide

end CrashWave.Ledger
