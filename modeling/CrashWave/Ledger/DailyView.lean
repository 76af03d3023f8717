import CrashWave.Ledger.DailyEntries
import Mathlib.Data.List.Basic

/-! What can be seen of a daily entry ledger, and how a call moves it. An entry is what the
first one with its day and bet is.
-/

namespace CrashWave.Ledger

open JavaScript

-----------------------------------------------------------------------------------------
-- The first entry that passes a test
-----------------------------------------------------------------------------------------

/-- The status of the first entry that passes a test. -/
def slotStatus (entries : List DailyEntryRecord) (test : DailyEntryRecord → Bool)
    : Option EntrySlotStatus :=
  (entries.find? test).map DailyEntryRecord.status

/-- An entry is the first one to pass a test. -/
structure FirstAt (entries : List DailyEntryRecord) (test : DailyEntryRecord → Bool)
    (entry : DailyEntryRecord) (place : Nat) : Prop where
  listed : entries[place]? = some entry
  passes : test entry = true
  first : ∀ earlier < place, ∀ other, entries[earlier]? = some other → test other = false

variable {entries : List DailyEntryRecord} {test : DailyEntryRecord → Bool}
  {entry updated : DailyEntryRecord} {place : Nat}

theorem FirstAt.slotStatus (found : FirstAt entries test entry place)
    : slotStatus entries test = some entry.status := by
  obtain ⟨within, is⟩ := List.getElem?_eq_some_iff.mp found.listed
  have first : entries.find? test = some entry := by
    rw [List.find?_eq_some_iff_getElem]
    refine ⟨found.passes, place, within, is, ?_⟩
    intro earlier before
    rw [found.first earlier before _ (List.getElem?_eq_getElem _)]
    rfl
  rw [Ledger.slotStatus, first]
  rfl

/-- An entry that replaces the first one to pass a test, and passes it too, is the first one. -/
theorem FirstAt.set (found : FirstAt entries test entry place) (passes : test updated = true)
    : FirstAt (entries.set place updated) test updated place := by
  obtain ⟨within, -⟩ := List.getElem?_eq_some_iff.mp found.listed
  refine ⟨List.getElem?_set_self within, passes, ?_⟩
  intro earlier before other there
  rw [List.getElem?_set_ne (by omega)] at there
  exact found.first earlier before other there

/-- Entries that do not pass a test replace each other unseen by it. -/
theorem slotStatus_set_of_not (listed : entries[place]? = some entry)
    (fails : test entry = false) (failsToo : test updated = false)
    : slotStatus (entries.set place updated) test = slotStatus entries test := by
  obtain ⟨within, rfl⟩ := List.getElem?_eq_some_iff.mp listed
  obtain ⟨before, after, parts, -, replaced⟩ : ∃ before after,
      entries = before ++ entries[place] :: after ∧ before.length = place
        ∧ entries.set place updated = before ++ updated :: after :=
    List.exists_of_set within
  rw [slotStatus, slotStatus, replaced, parts]
  simp [fails, failsToo]

theorem slotStatus_append (slot : DailyEntryRecord)
    : slotStatus (entries ++ [slot]) test
      = (slotStatus entries test).or (if test slot then some slot.status else none) := by
  rw [slotStatus, slotStatus, List.find?_append]
  cases entries.find? test with
  | some entry => rfl
  | none => cases passes : test slot <;> simp [passes]

/-- What a search that also gives the place finds. -/
theorem firstAt_of_find? (found : (entries.zipIdx.find? fun row => test row.1)
      = some (entry, place))
    : FirstAt entries test entry place := by
  obtain ⟨passes, index, within, is, before⟩ := List.find?_eq_some_iff_getElem.mp found
  rw [List.getElem_zipIdx, Nat.zero_add] at is
  obtain ⟨rfl, rfl⟩ := Prod.mk.inj is
  refine ⟨List.getElem?_eq_getElem _, passes, ?_⟩
  intro earlier less other there
  obtain ⟨inside, rfl⟩ := List.getElem?_eq_some_iff.mp there
  have skipped := before earlier less
  simpa using skipped

theorem slotStatus_of_find?_none
    (missing : (entries.zipIdx.find? fun row => test row.1) = none)
    : slotStatus entries test = none := by
  rw [slotStatus, Option.map_eq_none_iff, List.find?_eq_none]
  intro entry member
  obtain ⟨place, listed⟩ := List.mem_iff_getElem?.mp member
  exact List.find?_eq_none.mp missing (entry, place)
    (List.mk_mem_zipIdx_iff_getElem?.mpr listed)

/-- Where no two entries have the same key, an entry is the first one with its key. -/
theorem firstAt_of_unique {κ : Type*} [DecidableEq κ] {key : DailyEntryRecord → κ}
    (unique : (entries.map key).Nodup) (listed : entries[place]? = some entry)
    : FirstAt entries (fun other => key other = key entry) entry place := by
  refine ⟨listed, decide_eq_true rfl, ?_⟩
  intro earlier before other there
  apply decide_eq_false
  intro same
  obtain ⟨inside, -⟩ := List.getElem?_eq_some_iff.mp there
  have equal : (entries.map key)[earlier]? = (entries.map key)[place]? := by
    rw [List.getElem?_map, List.getElem?_map, there, listed, Option.map_some,
      Option.map_some, same]
  have places := (List.getElem?_inj (by simpa using inside) unique).mp equal
  omega

/-- An entry that is rewritten under its key leaves the keys as they are. -/
theorem nodup_keys_set {κ : Type*} {key : DailyEntryRecord → κ}
    (unique : (entries.map key).Nodup) (listed : entries[place]? = some entry)
    (sameKey : key updated = key entry)
    : ((entries.set place updated).map key).Nodup := by
  have same : (entries.map key)[place]? = some (key updated) := by
    rw [List.getElem?_map, listed, sameKey]
    rfl
  obtain ⟨within, is⟩ := List.getElem?_eq_some_iff.mp same
  rw [List.map_set, ← is, List.set_getElem_self]
  exact unique

/-- An entry with a key that no other one has can be appended. -/
theorem nodup_keys_append {κ : Type*} [DecidableEq κ] {key : DailyEntryRecord → κ}
    (unique : (entries.map key).Nodup)
    (missing : slotStatus entries (fun other => key other = key entry) = none)
    : ((entries ++ [entry]).map key).Nodup := by
  rw [slotStatus, Option.map_eq_none_iff, List.find?_eq_none] at missing
  rw [List.map_append, List.nodup_append]
  refine ⟨unique, List.nodup_singleton _, ?_⟩
  intro found member other is same
  obtain ⟨held, listed, rfl⟩ := List.mem_map.mp member
  exact missing held listed (decide_eq_true (same.trans (List.mem_singleton.mp is)))

-----------------------------------------------------------------------------------------
-- What can be seen of a ledger
-----------------------------------------------------------------------------------------

/-- What can be seen of a ledger: the status of the slot of a bet on a day, and the counters
of a day.
-/
@[ext] structure DailyView where
  slot : String × String → Option EntrySlotStatus
  confirmed : String → Nat
  reserved : String → Nat

/-- An entry without its id and the time of its reservation. -/
def DailyEntryRecord.unstamped (entry : DailyEntryRecord) : DailyEntryRecord :=
  { entry with id := "", reservedAt := "" }

/-- A result without the id of its slot and the time of its reservation. -/
def EntryReservationResult.unstamped (result : EntryReservationResult) : EntryReservationResult :=
  { result with slot := result.slot.map DailyEntryRecord.unstamped }

def LedgerAnswer.unstamped : LedgerAnswer → LedgerAnswer
  | .reservation result => .reservation result.unstamped
  | .done => .done

namespace DailyView

/-- All entries of a day are used up. -/
def Full (maxEntries : Nat) (view : DailyView) (dailyKey : String) : Prop :=
  maxEntries ≤ view.confirmed dailyKey + view.reserved dailyKey

instance (maxEntries : Nat) (view : DailyView) (dailyKey : String)
    : Decidable (view.Full maxEntries dailyKey) :=
  inferInstanceAs (Decidable (_ ≤ _))

/-- A slot takes a status, and its day takes new counters. -/
def write (view : DailyView) (dailyKey betId : String) (status : EntrySlotStatus)
    (confirmed reserved : Nat) : DailyView where
  slot key := if key = (dailyKey, betId) then some status else view.slot key
  confirmed other := if other = dailyKey then confirmed else view.confirmed other
  reserved other := if other = dailyKey then reserved else view.reserved other

/-- A view in which one slot and the counters of its day have changed. -/
theorem eq_write {view after : DailyView} {dailyKey betId : String} {status : EntrySlotStatus}
    {confirmed reserved : Nat} (slot : after.slot (dailyKey, betId) = some status)
    (slots : ∀ key, key ≠ (dailyKey, betId) → after.slot key = view.slot key)
    (confirmedCounts : ∀ other, after.confirmed other
      = if other = dailyKey then confirmed else view.confirmed other)
    (reservedCounts : ∀ other, after.reserved other
      = if other = dailyKey then reserved else view.reserved other)
    : after = view.write dailyKey betId status confirmed reserved := by
  ext1
  · funext key
    change after.slot key = if key = (dailyKey, betId) then some status else view.slot key
    split
    · next same => rw [same, slot]
    · next other => exact slots key other
  · exact funext confirmedCounts
  · exact funext reservedCounts

/-- A slot is reserved where the day has one left. -/
def reserve (maxEntries : Nat) (dailyKey betId : String) (view : DailyView) : DailyView :=
  if view.Full maxEntries dailyKey then view
  else
    view.write dailyKey betId .reserved (view.confirmed dailyKey) (view.reserved dailyKey + 1)

/-- A reserved slot is confirmed. -/
def confirm (dailyKey betId : String) (view : DailyView) : DailyView :=
  if view.slot (dailyKey, betId) = some .reserved then
    view.write dailyKey betId .confirmed (view.confirmed dailyKey + 1)
      (view.reserved dailyKey - 1)
  else view

/-- A reserved or a confirmed slot is released; a reservation is taken off in both cases. -/
def release (dailyKey betId : String) (view : DailyView) : DailyView :=
  match view.slot (dailyKey, betId) with
  | some .reserved =>
      view.write dailyKey betId .released (view.confirmed dailyKey) (view.reserved dailyKey - 1)
  | some .confirmed =>
      view.write dailyKey betId .released (view.confirmed dailyKey - 1)
        (view.reserved dailyKey - 1)
  | _ => view

/-- What is seen after a call. -/
def step (maxEntries : Nat) (view : DailyView) : LedgerCall → DailyView
  | .reserve dailyKey betId _ => view.reserve maxEntries dailyKey betId
  | .confirm dailyKey betId => view.confirm dailyKey betId
  | .release dailyKey betId _ => view.release dailyKey betId

/-- What a reservation answers, without the id of the slot and the time of its reservation. -/
def reservation (maxEntries : Nat) (dailyKey betId sessionId : String) (view : DailyView)
    : EntryReservationResult :=
  let stats : DailyStats :=
    { entriesConfirmed := view.confirmed dailyKey, entriesReserved := view.reserved dailyKey }
  if view.Full maxEntries dailyKey then limitReached maxEntries dailyKey stats
  else slotReserved dailyKey (newSlot "" "" dailyKey betId sessionId (stats.activeCount + 1)) stats

/-- What a call answers, without ids and times. A confirmation needs a slot in use. -/
def answer (maxEntries : Nat) (view : DailyView) : LedgerCall → Except LedgerError LedgerAnswer
  | .reserve dailyKey betId sessionId =>
      .ok (.reservation (view.reservation maxEntries dailyKey betId sessionId))
  | .confirm dailyKey betId =>
      match view.slot (dailyKey, betId) with
      | none => .error (.entryNotFound ("Daily entry not found: " ++ dailyKey ++ "/" ++ betId))
      | some .reserved | some .confirmed => .ok .done
      | some status =>
          .error
            (.conflict
              ("Cannot confirm entry in status " ++ status.text ++ " — must be RESERVED"))
  | .release _ _ _ => .ok .done

/-- A call does not reserve a slot for a bet that has one on that day, unless it is refused. -/
def Fresh (maxEntries : Nat) (view : DailyView) : LedgerCall → Prop
  | .reserve dailyKey betId _ =>
      view.slot (dailyKey, betId) = none ∨ view.Full maxEntries dailyKey
  | _ => True

/-- A call does not confirm a slot that is no longer in use. -/
def ConfirmsActive (view : DailyView) : LedgerCall → Prop
  | .confirm dailyKey betId =>
      view.slot (dailyKey, betId) ≠ some .released ∧ view.slot (dailyKey, betId) ≠ some .failed
  | _ => True

/-- A call does not release a confirmed slot. -/
def ReleasesUnconfirmed (view : DailyView) : LedgerCall → Prop
  | .release dailyKey betId _ => view.slot (dailyKey, betId) ≠ some .confirmed
  | _ => True

instance (maxEntries : Nat) (view : DailyView)
    : (call : LedgerCall) → Decidable (view.Fresh maxEntries call)
  | .reserve _ _ _ => inferInstanceAs (Decidable (_ ∨ _))
  | .confirm _ _ | .release _ _ _ => .isTrue trivial

instance (view : DailyView) : (call : LedgerCall) → Decidable (view.ConfirmsActive call)
  | .confirm _ _ => inferInstanceAs (Decidable (_ ∧ _))
  | .reserve _ _ _ | .release _ _ _ => .isTrue trivial

instance (view : DailyView) : (call : LedgerCall) → Decidable (view.ReleasesUnconfirmed call)
  | .release _ _ _ => inferInstanceAs (Decidable (_ ≠ _))
  | .reserve _ _ _ | .confirm _ _ => .isTrue trivial

end DailyView

end CrashWave.Ledger
