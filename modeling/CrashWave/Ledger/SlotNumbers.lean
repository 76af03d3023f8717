import CrashWave.Ledger.DailyEntryCounts

/-! The slot numbers of the entries of a day that are reserved or confirmed. A number is taken from
the counters of the day, whatever numbers its entries have.
-/

namespace CrashWave.Ledger

open JavaScript

/-- The slot number of an entry that is reserved or confirmed. -/
def DailyEntryRecord.activeSlot (entry : DailyEntryRecord) : Option Nat :=
  match entry.status with
  | .reserved | .confirmed => some entry.slotNumber
  | .released | .failed => none

/-- Slot numbers that are distinct, and within the daily maximum. -/
structure SlotsFit (maxEntries : Nat) (slots : List Nat) : Prop where
  distinct : slots.Nodup
  within : ∀ slot ∈ slots, 1 ≤ slot ∧ slot ≤ maxEntries

/-- The slot number of an entry is within the daily maximum. -/
def DailyEntryRecord.Numbered (maxEntries : Nat) (entry : DailyEntryRecord) : Prop :=
  1 ≤ entry.slotNumber ∧ entry.slotNumber ≤ maxEntries

section Lists

variable {α β : Type*}

/-- What an element contributes to a list of results, next to what the others do. -/
theorem filterMap_set_perm {items : List α} {place : Nat} {old : α}
    (found : items[place]? = some old) (result : α → Option β)
    : ∃ others, (items.filterMap result).Perm ((result old).toList ++ others)
      ∧ ∀ new, ((items.set place new).filterMap result).Perm
          ((result new).toList ++ others) := by
  induction items generalizing place with
  | nil => cases found
  | cons first rest ih =>
      cases place with
      | zero =>
          obtain rfl : first = old := Option.some.inj found
          refine ⟨rest.filterMap result, ?_, fun new => ?_⟩
          · rw [List.filterMap_cons]
            cases result first <;> exact .rfl
          · rw [List.set_cons_zero, List.filterMap_cons]
            cases result new <;> exact .rfl
      | succ place =>
          obtain ⟨others, before, after⟩ := ih found
          have swapped : ∀ {results : List β} {one : Option β},
              results.Perm (one.toList ++ others) →
              ((result first).toList ++ results).Perm
                (one.toList ++ ((result first).toList ++ others)) := by
            intro results one perm
            refine (perm.append_left _).trans ?_
            rw [← List.append_assoc, ← List.append_assoc]
            exact List.perm_append_comm.append_right _
          have split : ∀ items : List α, (first :: items).filterMap result
              = (result first).toList ++ items.filterMap result := by
            intro items
            rw [List.filterMap_cons]
            cases result first <;> rfl
          refine ⟨(result first).toList ++ others, ?_, fun new => ?_⟩
          · rw [split]
            exact swapped before
          · rw [List.set_cons_succ, split]
            exact swapped (after new)

end Lists

/-- The active slot numbers of the entries that pass a test. -/
def activeSlots (here : DailyEntryRecord → Bool) (entries : List DailyEntryRecord) : List Nat :=
  entries.filterMap fun entry => if here entry then entry.activeSlot else none

section Slots

variable {maxEntries : Nat} {here : DailyEntryRecord → Bool} {entries : List DailyEntryRecord}
  {entry updated : DailyEntryRecord} {place : Nat}

theorem slotsFit_perm {slots others : List Nat} (same : slots.Perm others)
    (fit : SlotsFit maxEntries slots) : SlotsFit maxEntries others where
  distinct := same.nodup_iff.mp fit.distinct
  within slot member := fit.within slot (same.mem_iff.mpr member)

/-- One more slot number fits exactly if it is not taken. -/
theorem slotsFit_cons_iff {slots : List Nat} {number : Nat} (fit : SlotsFit maxEntries slots)
    (within : 1 ≤ number ∧ number ≤ maxEntries)
    : SlotsFit maxEntries (number :: slots) ↔ number ∉ slots := by
  constructor
  · intro more
    exact (List.nodup_cons.mp more.distinct).1
  · intro free
    refine ⟨List.nodup_cons.mpr ⟨free, fit.distinct⟩, ?_⟩
    intro other member
    rcases List.mem_cons.mp member with rfl | member
    · exact within
    · exact fit.within other member

/-- An entry of the day is added with its number. -/
theorem activeSlots_append (here : DailyEntryRecord → Bool) (entries : List DailyEntryRecord)
    (entry : DailyEntryRecord) (present : here entry = true)
    (active : entry.activeSlot = some entry.slotNumber)
    : (activeSlots here (entries ++ [entry])).Perm
        (entry.slotNumber :: activeSlots here entries) := by
  have added : activeSlots here (entries ++ [entry])
      = activeSlots here entries ++ [entry.slotNumber] := by
    simp [activeSlots, present, active]
  rw [added]
  exact List.perm_append_comm

/-- An entry that gives up its number leaves the others. -/
theorem fit_deactivated (fit : SlotsFit maxEntries (activeSlots here entries))
    (found : entries[place]? = some entry) (inactive : updated.activeSlot = none)
    : SlotsFit maxEntries (activeSlots here (entries.set place updated)) := by
  obtain ⟨others, before, after⟩ := filterMap_set_perm found
    fun entry => if here entry then entry.activeSlot else none
  have left := slotsFit_perm before fit
  have rest : SlotsFit maxEntries others :=
    ⟨(List.nodup_append.mp left.distinct).2.1,
      fun slot member => left.within slot (List.mem_append_right _ member)⟩
  refine slotsFit_perm ((after updated).trans ?_).symm rest
  simp [inactive]

/-- An entry that keeps its number leaves them all. -/
theorem activeSlots_set_kept (found : entries[place]? = some entry)
    (same
      : (if here updated then updated.activeSlot else none)
        = if here entry then entry.activeSlot else none)
    : (activeSlots here (entries.set place updated)).Perm (activeSlots here entries) := by
  obtain ⟨others, before, after⟩ := filterMap_set_perm found
    fun entry => if here entry then entry.activeSlot else none
  have rewritten := after updated
  rw [same] at rewritten
  exact rewritten.trans before.symm

theorem fit_renamed (fit : SlotsFit maxEntries (activeSlots here entries))
    (found : entries[place]? = some entry) (same : here updated = here entry)
    (kept : updated.activeSlot = entry.activeSlot)
    : SlotsFit maxEntries (activeSlots here (entries.set place updated)) :=
  slotsFit_perm (activeSlots_set_kept found (by rw [same, kept])).symm fit

/-- An entry that takes its number again fits exactly if no other one has it. -/
theorem fit_activated_iff (fit : SlotsFit maxEntries (activeSlots here entries))
    (found : entries[place]? = some entry) (inactive : entry.activeSlot = none)
    (present : here updated = true) (active : updated.activeSlot = some updated.slotNumber)
    (within : 1 ≤ updated.slotNumber ∧ updated.slotNumber ≤ maxEntries)
    : SlotsFit maxEntries (activeSlots here (entries.set place updated))
      ↔ updated.slotNumber ∉ activeSlots here entries := by
  obtain ⟨others, before, after⟩ := filterMap_set_perm found
    fun entry => if here entry then entry.activeSlot else none
  have unchanged : (activeSlots here entries).Perm others := by
    simpa [inactive, activeSlots] using before
  have added : (activeSlots here (entries.set place updated)).Perm
      (updated.slotNumber :: activeSlots here entries) := by
    refine (after updated).trans ?_
    rw [if_pos present, active]
    exact (unchanged.symm.cons _)
  rw [← slotsFit_cons_iff fit within]
  exact ⟨slotsFit_perm added, slotsFit_perm added.symm⟩

/-- Entries with numbers are updated, keeping them. -/
theorem numbered_set (numbered : ∀ entry ∈ entries, entry.Numbered maxEntries)
    (found : entries[place]? = some entry) (kept : updated.slotNumber = entry.slotNumber)
    : ∀ other ∈ entries.set place updated, other.Numbered maxEntries := by
  intro other member
  rcases List.mem_or_eq_of_mem_set member with old | rfl
  · exact numbered other old
  · have before := numbered entry (List.mem_of_getElem? found)
    unfold DailyEntryRecord.Numbered at before ⊢
    rwa [kept]

end Slots

-----------------------------------------------------------------------------------------
-- The ledger on the database
-----------------------------------------------------------------------------------------

namespace DailyTables

/-- The active slot numbers of a day. -/
def slots (tables : DailyTables) (dailyKey : String) : List Nat :=
  activeSlots (fun entry => entry.dailyKey = dailyKey) tables.entries

/-- The slot numbers of every day fit. -/
def SlotsDistinct (maxEntries : Nat) (tables : DailyTables) : Prop :=
  ∀ dailyKey, SlotsFit maxEntries (tables.slots dailyKey)

/-- So do those of the entries that are not active any more. -/
structure Slotted (maxEntries : Nat) (tables : DailyTables) : Prop where
  distinct : tables.SlotsDistinct maxEntries
  numbered : ∀ entry ∈ tables.entries, entry.Numbered maxEntries

/-- A reservation that takes effect finds the number that follows from the counters free. -/
def SlotFree (maxEntries : Nat) (tables : DailyTables) (call : Call) : Prop :=
  match call.call with
  | .reserve dailyKey _ _ =>
      Runs.lands retries call.attempts = true →
      (tables.statsOf dailyKey).activeCount < maxEntries →
      (tables.statsOf dailyKey).activeCount + 1 ∉ tables.slots dailyKey
  | _ => True

variable {maxEntries : Nat} {tables : DailyTables} {stamp : Stamp} {dailyKey betId : String}

/-- The entries after a reservation. -/
theorem entries_reserve (maxEntries : Nat) (stamp : Stamp) (tables : DailyTables)
    (dailyKey betId sessionId : String)
    : (Runs.bodyState (reserve maxEntries stamp dailyKey betId sessionId) tables).entries
      = if maxEntries ≤ (tables.statsOf dailyKey).activeCount then tables.entries
        else
          tables.entries
            ++ [newSlot stamp.rowId stamp.now dailyKey betId sessionId
              ((tables.statsOf dailyKey).activeCount + 1)] := by
  unfold reserve Runs.bodyState
  simp only [statsOf_lockDailyStats]
  split
  · next ran =>
      split at ran
      · next full =>
          obtain ⟨rfl, -⟩ := Prod.mk.inj ran
          rw [if_pos full]
          rfl
      · next free =>
          obtain ⟨rfl, -⟩ := Prod.mk.inj ran
          rw [if_neg free]
          rfl
  · next ran => split at ran <;> cases ran

/-- A reservation keeps the numbers distinct exactly if the next one of its counters is free. -/
theorem distinct_reserve_iff (slotted : tables.Slotted maxEntries) (sessionId : String)
    : (Runs.bodyState (reserve maxEntries stamp dailyKey betId sessionId) tables).SlotsDistinct
        maxEntries
      ↔ ((tables.statsOf dailyKey).activeCount < maxEntries →
          (tables.statsOf dailyKey).activeCount + 1 ∉ tables.slots dailyKey) := by
  unfold SlotsDistinct slots
  rw [entries_reserve]
  split
  · next full => exact iff_of_true slotted.distinct fun free => absurd full (not_le.mpr free)
  · next free =>
      let slot := newSlot stamp.rowId stamp.now dailyKey betId sessionId
        ((tables.statsOf dailyKey).activeCount + 1)
      have added := activeSlots_append (fun entry => decide (entry.dailyKey = dailyKey))
        tables.entries slot (by simp [slot, newSlot]) rfl
      have grows := slotsFit_cons_iff (slotted.distinct dailyKey)
        (show 1 ≤ (tables.statsOf dailyKey).activeCount + 1
          ∧ (tables.statsOf dailyKey).activeCount + 1 ≤ maxEntries by omega)
      constructor
      · intro after _
        exact grows.mp (slotsFit_perm added (after dailyKey))
      · intro unused other
        by_cases same : other = dailyKey
        · subst same
          exact slotsFit_perm added.symm (grows.mpr (unused (not_le.mp free)))
        · have unchanged : activeSlots (fun entry => decide (entry.dailyKey = other))
              (tables.entries
                ++ [newSlot stamp.rowId stamp.now dailyKey betId sessionId
                  ((tables.statsOf dailyKey).activeCount + 1)])
              = tables.slots other := by
            simp [activeSlots, slots, newSlot, Ne.symm same]
          rw [unchanged]
          exact slotted.distinct other

theorem numbered_reserve (slotted : tables.Slotted maxEntries) (sessionId : String)
    : ∀ entry ∈ (Runs.bodyState (reserve maxEntries stamp dailyKey betId sessionId) tables).entries,
      entry.Numbered maxEntries := by
  intro entry member
  rw [entries_reserve] at member
  split at member
  · exact slotted.numbered entry member
  · rcases List.mem_append.mp member with old | new
    · exact slotted.numbered entry old
    · obtain rfl := List.mem_singleton.mp new
      unfold DailyEntryRecord.Numbered
      simp only [newSlot]
      omega

/-- An entry that changes its status, from active to active or to inactive, keeps them. -/
theorem slotted_set (slotted : tables.Slotted maxEntries) {entry : DailyEntryRecord}
    {id : Nat} (found : tables.entries[id]? = some entry) (updated : DailyEntryRecord)
    (sameDay : updated.dailyKey = entry.dailyKey)
    (sameSlot : updated.slotNumber = entry.slotNumber)
    (kept : updated.activeSlot = entry.activeSlot ∨ updated.activeSlot = none)
    (stats : Map String DailyStats)
    : Slotted maxEntries { entries := tables.entries.set id updated, stats } where
  distinct dailyKey := by
    rcases kept with kept | inactive
    · exact fit_renamed (slotted.distinct dailyKey) found (by simp [sameDay]) kept
    · exact fit_deactivated (slotted.distinct dailyKey) found inactive
  numbered := numbered_set slotted.numbered found sameSlot

theorem slotted_confirm (slotted : tables.Slotted maxEntries) (order : Nat)
    (now dailyKey betId : String)
    : (Runs.bodyState (confirm order now dailyKey betId) tables).Slotted maxEntries := by
  rw [Runs.bodyState, confirm]
  cases selected : tables.selectEntry order dailyKey betId with
  | none => exact slotted
  | some row =>
      obtain ⟨entry, id⟩ := row
      obtain ⟨found, -, -⟩ := selectEntry_spec selected
      dsimp only
      by_cases done : entry.status = .confirmed
      · rw [if_pos done]
        exact slotted
      · rw [if_neg done]
        by_cases pending : entry.status = .reserved
        · rw [if_neg (not_not.mpr pending)]
          refine slotted_set slotted found
            { entry with status := .confirmed, confirmedAt := some now } rfl rfl (.inl ?_) _
          simp [DailyEntryRecord.activeSlot, pending]
        · rw [if_pos pending]
          exact slotted

theorem slotted_release (slotted : tables.Slotted maxEntries) (order : Nat)
    (now dailyKey betId reason : String)
    : (Runs.bodyState (release order now dailyKey betId reason) tables).Slotted maxEntries := by
  rw [Runs.bodyState, release]
  cases selected : tables.selectEntry order dailyKey betId with
  | none => exact slotted
  | some row =>
      obtain ⟨entry, id⟩ := row
      obtain ⟨found, -, -⟩ := selectEntry_spec selected
      dsimp only
      by_cases ended : entry.status = .released ∨ entry.status = .failed
      · rw [if_pos ended]
        exact slotted
      · rw [if_neg ended]
        exact slotted_set slotted found
          { entry with status := .released, releasedAt := some now, reason := some reason }
          rfl rfl (.inr rfl) _

/-- Each call keeps all numbers within the maximum, and the active ones distinct exactly if it
finds its slot free.
-/
theorem slotted_step_iff (slotted : tables.Slotted maxEntries) (call : Call)
    : ((tables.step maxEntries call).SlotsDistinct maxEntries ↔ tables.SlotFree maxEntries call)
      ∧ ∀ entry ∈ (tables.step maxEntries call).entries, entry.Numbered maxEntries := by
  obtain ⟨call, order, stamp, attempts⟩ := call
  rw [step, run, Runs.withRetry_transact_fst]
  cases lands : Runs.lands retries attempts with
  | false =>
      refine ⟨iff_of_true slotted.distinct ?_, slotted.numbered⟩
      cases call with
      | reserve => exact fun effective => absurd effective (by simp [lands])
      | confirm => trivial
      | release => trivial
  | true =>
      rw [if_pos rfl]
      cases call with
      | reserve dailyKey betId sessionId =>
          refine ⟨?_, numbered_reserve slotted sessionId⟩
          simpa [SlotFree, lands, body] using distinct_reserve_iff slotted sessionId
      | confirm dailyKey betId =>
          have kept := slotted_confirm slotted order stamp.now dailyKey betId
          exact ⟨iff_of_true kept.distinct trivial, kept.numbered⟩
      | release dailyKey betId reason =>
          have kept := slotted_release slotted order stamp.now dailyKey betId reason
          exact ⟨iff_of_true kept.distinct trivial, kept.numbered⟩

theorem slotted_empty : Slotted maxEntries {} where
  distinct _ := ⟨List.nodup_nil, fun _ => nofun⟩
  numbered _ := nofun

end DailyTables

-----------------------------------------------------------------------------------------
-- The ledger in memory
-----------------------------------------------------------------------------------------

namespace InMemoryDailyEntryLedger

/-- The active slot numbers of a day. -/
def slots (ledger : InMemoryDailyEntryLedger) (dailyKey : String) : List Nat :=
  activeSlots (fun _ => true) (ledger.dayEntries dailyKey)

/-- The slot numbers of every day fit. -/
def SlotsDistinct (maxEntries : Nat) (ledger : InMemoryDailyEntryLedger) : Prop :=
  ∀ dailyKey, SlotsFit maxEntries (ledger.slots dailyKey)

/-- So do those of the entries that are not active any more. -/
structure Slotted (maxEntries : Nat) (ledger : InMemoryDailyEntryLedger) : Prop where
  distinct : ledger.SlotsDistinct maxEntries
  numbered : ∀ dailyKey, ∀ entry ∈ ledger.dayEntries dailyKey, entry.Numbered maxEntries

/-- A reservation finds the number that follows from the counters free; so does a confirmation the
number of an entry that was released.
-/
def SlotFree (maxEntries : Nat) (ledger : InMemoryDailyEntryLedger) : LedgerCall → Prop
  | .reserve dailyKey _ _ =>
      (ledger.statsOf dailyKey).activeCount < maxEntries →
      (ledger.statsOf dailyKey).activeCount + 1 ∉ ledger.slots dailyKey
  | .confirm dailyKey betId =>
      ∀ entry place, ledger.findEntry dailyKey betId = some (entry, place) →
        entry.activeSlot = none → entry.slotNumber ∉ ledger.slots dailyKey
  | .release _ _ _ => True

variable {maxEntries : Nat} {ledger : InMemoryDailyEntryLedger} {now dailyKey betId : String}

/-- A day that is written anew is all that is left to check. -/
theorem slotted_write_iff (slotted : ledger.Slotted maxEntries) (dailyKey : String)
    {entries : List DailyEntryRecord}
    (numbered : ∀ entry ∈ entries, entry.Numbered maxEntries) (stats : Map String DailyStats)
    : (SlotsDistinct maxEntries { entries := ledger.entries.set dailyKey entries, stats }
        ↔ SlotsFit maxEntries (activeSlots (fun _ => true) entries))
      ∧ ∀ other, ∀ entry ∈
          dayEntries { entries := ledger.entries.set dailyKey entries, stats } other,
        entry.Numbered maxEntries := by
  unfold SlotsDistinct slots
  refine ⟨⟨?_, ?_⟩, ?_⟩
  · intro fit
    have here := fit dailyKey
    rwa [dayEntries_set, if_pos rfl] at here
  · intro fit other
    rw [dayEntries_set]
    split
    · exact fit
    · exact slotted.distinct other
  · intro other entry member
    rw [dayEntries_set] at member
    split at member
    · exact numbered entry member
    · exact slotted.numbered other entry member

/-- A reservation keeps the numbers distinct exactly if the next one of its counters is free. -/
theorem distinct_reserve_iff (slotted : ledger.Slotted maxEntries) (sessionId : String)
    : let after := (ledger.reserve maxEntries now dailyKey betId sessionId).1
      (after.SlotsDistinct maxEntries
        ↔ ((ledger.statsOf dailyKey).activeCount < maxEntries →
            (ledger.statsOf dailyKey).activeCount + 1 ∉ ledger.slots dailyKey))
      ∧ ∀ other, ∀ entry ∈ after.dayEntries other, entry.Numbered maxEntries := by
  unfold reserve
  dsimp only
  split
  · next full =>
      have full' : ¬ (ledger.statsOf dailyKey).activeCount < maxEntries := not_lt.mpr full
      exact ⟨iff_of_true slotted.distinct fun free => absurd free full', slotted.numbered⟩
  · next free =>
      have free' : (ledger.statsOf dailyKey).activeCount < maxEntries := not_le.mp free
      let number := (ledger.statsOf dailyKey).activeCount + 1
      let slot :=
        newSlot (dailyKey ++ "-" ++ toString number) now dailyKey betId sessionId number
      have within : slot.Numbered maxEntries := by
        unfold DailyEntryRecord.Numbered
        simp only [slot, newSlot, number]
        omega
      have numbered : ∀ entry ∈ ledger.dayEntries dailyKey ++ [slot],
          entry.Numbered maxEntries := by
        intro entry member
        rcases List.mem_append.mp member with old | new
        · exact slotted.numbered dailyKey entry old
        · exact List.mem_singleton.mp new ▸ within
      obtain ⟨fits, all⟩ := slotted_write_iff slotted dailyKey numbered
        (ledger.stats.set dailyKey
          { ledger.statsOf dailyKey with
            entriesAttempted := (ledger.statsOf dailyKey).entriesAttempted + 1 }.reserved)
      refine ⟨fits.trans ?_, all⟩
      have added := activeSlots_append (fun _ => true) (ledger.dayEntries dailyKey) slot rfl rfl
      have grows := slotsFit_cons_iff (slotted.distinct dailyKey) within
      constructor
      · exact fun after _ => grows.mp (slotsFit_perm added after)
      · exact fun unused => slotsFit_perm added.symm (grows.mpr (unused free'))

/-- An entry of a day that is rewritten keeps its number. -/
theorem slotted_set_iff (slotted : ledger.Slotted maxEntries) {entry : DailyEntryRecord}
    {place : Nat} (found : ledger.findEntry dailyKey betId = some (entry, place))
    (updated : DailyEntryRecord) (sameSlot : updated.slotNumber = entry.slotNumber)
    (stats : Map String DailyStats)
    : let after : InMemoryDailyEntryLedger :=
        { entries := ledger.entries.set dailyKey ((ledger.dayEntries dailyKey).set place updated)
          stats }
      (after.SlotsDistinct maxEntries
        ↔ SlotsFit maxEntries
            (activeSlots (fun _ => true) ((ledger.dayEntries dailyKey).set place updated)))
      ∧ ∀ other, ∀ entry ∈ after.dayEntries other, entry.Numbered maxEntries :=
  slotted_write_iff slotted dailyKey
    (numbered_set (slotted.numbered dailyKey) (findEntry_spec found) sameSlot) stats

/-- A confirmation keeps the numbers distinct exactly if it does not bring back a number that is
taken.
-/
theorem distinct_confirm_iff (slotted : ledger.Slotted maxEntries) (now dailyKey betId : String)
    : ((ledger.confirm now dailyKey betId).SlotsDistinct maxEntries
        ↔ ledger.SlotFree maxEntries (.confirm dailyKey betId))
      ∧ ∀ other, ∀ entry ∈ (ledger.confirm now dailyKey betId).dayEntries other,
        entry.Numbered maxEntries := by
  rw [confirm, SlotFree]
  cases found : ledger.findEntry dailyKey betId with
  | none =>
      refine ⟨iff_of_true slotted.distinct ?_, slotted.numbered⟩
      intro _ _ absent
      cases absent
  | some row =>
      obtain ⟨entry, place⟩ := row
      have listed := findEntry_spec found
      dsimp only
      by_cases done : entry.status = .confirmed
      · rw [if_pos done]
        refine ⟨iff_of_true slotted.distinct ?_, slotted.numbered⟩
        rintro _ _ ⟨⟩ inactive
        simp [DailyEntryRecord.activeSlot, done] at inactive
      · rw [if_neg done]
        obtain ⟨fits, all⟩ := slotted_set_iff slotted found
          { entry with status := .confirmed, confirmedAt := some now } rfl
          (ledger.stats.set dailyKey (ledger.statsOf dailyKey).confirmed)
        refine ⟨fits.trans ?_, all⟩
        cases active : entry.activeSlot with
        | none =>
            have numbered := slotted.numbered dailyKey entry (List.mem_of_getElem? listed)
            let updated :=
              { entry with status := .confirmed, confirmedAt := some now }
            have again : SlotsFit maxEntries
                  (activeSlots (fun _ => true) ((ledger.dayEntries dailyKey).set place updated))
                ↔ updated.slotNumber ∉ ledger.slots dailyKey :=
              fit_activated_iff (slotted.distinct dailyKey) listed active rfl rfl numbered
            refine again.trans ⟨?_, fun free => free entry place rfl active⟩
            rintro free _ _ ⟨⟩ _
            exact free
        | some number =>
            refine iff_of_true ?_ ?_
            · refine fit_renamed (slotted.distinct dailyKey) listed rfl ?_
              cases was : entry.status <;> simp [DailyEntryRecord.activeSlot, was] at active ⊢
            · rintro _ _ ⟨⟩ inactive
              rw [active] at inactive
              cases inactive

theorem slotted_release (slotted : ledger.Slotted maxEntries) (now dailyKey betId : String)
    : (ledger.release now dailyKey betId).Slotted maxEntries := by
  rw [release]
  cases found : ledger.findEntry dailyKey betId with
  | none => exact slotted
  | some row =>
      obtain ⟨entry, place⟩ := row
      dsimp only
      by_cases ended : entry.status = .released ∨ entry.status = .failed
      · rw [if_pos ended]
        exact slotted
      · rw [if_neg ended]
        obtain ⟨fits, all⟩ := slotted_set_iff slotted found
          { entry with status := .released, releasedAt := some now } rfl
          (ledger.stats.set dailyKey ((ledger.statsOf dailyKey).released entry.status))
        exact ⟨fits.mpr (fit_deactivated (slotted.distinct dailyKey) (findEntry_spec found) rfl),
          all⟩

/-- Each call keeps all numbers within the maximum, and the active ones distinct exactly if it
finds its slot free.
-/
theorem slotted_step_iff (slotted : ledger.Slotted maxEntries) (call : TimedCall)
    : ((ledger.step maxEntries call).SlotsDistinct maxEntries
        ↔ ledger.SlotFree maxEntries call.call)
      ∧ ∀ dailyKey, ∀ entry ∈ (ledger.step maxEntries call).dayEntries dailyKey,
        entry.Numbered maxEntries := by
  obtain ⟨call, now⟩ := call
  cases call with
  | reserve dailyKey betId sessionId => exact distinct_reserve_iff slotted sessionId
  | confirm dailyKey betId => exact distinct_confirm_iff slotted now dailyKey betId
  | release dailyKey betId reason =>
      have kept := slotted_release slotted now dailyKey betId
      exact ⟨iff_of_true kept.distinct trivial, kept.numbered⟩

theorem slotted_empty : Slotted maxEntries {} where
  distinct _ := ⟨List.nodup_nil, fun _ => nofun⟩
  numbered _ _ := nofun

end InMemoryDailyEntryLedger

/-- Over every sequence of calls, on the database and in memory, the active slot numbers of every
day are distinct and within the maximum after every call exactly when every call finds its slot
free.
-/
theorem slots_distinct_iff (maxEntries : Nat) (calls : List DailyTables.Call)
    (memoryCalls : List TimedCall)
    : (Runs.Always (DailyTables.step maxEntries)
          (fun tables call => (tables.step maxEntries call).SlotsDistinct maxEntries) {} calls
        ↔ Runs.Always (DailyTables.step maxEntries) (DailyTables.SlotFree maxEntries) {} calls)
      ∧ (Runs.Always (InMemoryDailyEntryLedger.step maxEntries)
          (fun ledger call => (ledger.step maxEntries call).SlotsDistinct maxEntries) {}
          memoryCalls
        ↔ Runs.Always (InMemoryDailyEntryLedger.step maxEntries)
          (fun ledger call => ledger.SlotFree maxEntries call.call) {} memoryCalls) := by
  constructor
  · apply Runs.always_iff_of_invariant
    · exact fun tables call slotted => (DailyTables.slotted_step_iff slotted call).1
    · intro tables call slotted free
      obtain ⟨distinct, numbered⟩ := DailyTables.slotted_step_iff slotted call
      exact ⟨distinct.mpr free, numbered⟩
    · exact DailyTables.slotted_empty
  · apply Runs.always_iff_of_invariant
    · exact fun ledger call slotted => (InMemoryDailyEntryLedger.slotted_step_iff slotted call).1
    · intro ledger call slotted free
      obtain ⟨distinct, numbered⟩ := InMemoryDailyEntryLedger.slotted_step_iff slotted call
      exact ⟨distinct.mpr free, numbered⟩
    · exact InMemoryDailyEntryLedger.slotted_empty

/-- Two reservations, of which the first one is released, and a third one. -/
def releasedFirst : List LedgerCall :=
  [.reserve "2024-01-15" "bet-1" "session-1", .reserve "2024-01-15" "bet-2" "session-1",
    .release "2024-01-15" "bet-1" "timeout", .reserve "2024-01-15" "bet-3" "session-1"]

/-- The third one gets the number of the second one, on both ledgers. -/
theorem slot_given_twice
    : ¬ Runs.Always (DailyTables.step 100)
        (fun tables call => (tables.step 100 call).SlotsDistinct 100) {}
        (releasedFirst.map fun call => { call })
      ∧ ¬ Runs.Always (InMemoryDailyEntryLedger.step 100)
        (fun ledger call => (ledger.step 100 call).SlotsDistinct 100) {}
        (releasedFirst.map fun call => { call }) := by
  constructor
  · intro law
    have distinct := (law.2.2.2.1 "2024-01-15").distinct
    revert distinct
    decide
  · intro law
    have distinct := (law.2.2.2.1 "2024-01-15").distinct
    revert distinct
    decide

end CrashWave.Ledger
