import CrashWave.Ledger.SlotNumbers

/-! Slot numbers that are taken and given back as on a stack: a release gives up the last number of
its day. The counters then always lead to a free one.
-/

namespace CrashWave.Ledger

open JavaScript

/-- The numbers in use are those from one to how many there are. -/
def Filled (slots : List Nat) : Prop := slots.Perm (List.range' 1 slots.length)

section Filled

variable {slots others : List Nat} {here : DailyEntryRecord → Bool}
  {entries : List DailyEntryRecord} {entry updated : DailyEntryRecord} {place number : Nat}

theorem Filled.perm (filled : Filled slots) (same : slots.Perm others) : Filled others := by
  rw [Filled, ← same.length_eq]
  exact same.symm.trans filled

theorem Filled.next_free (filled : Filled slots) : slots.length + 1 ∉ slots := by
  intro taken
  have inside := List.mem_range'_1.mp (filled.mem_iff.mp taken)
  omega

/-- The next number is taken, or the last one given up. -/
theorem filled_cons_iff : Filled ((slots.length + 1) :: slots) ↔ Filled slots := by
  have range : List.range' 1 (slots.length + 1)
      = List.range' 1 slots.length ++ [slots.length + 1] := by
    rw [List.range'_1_concat, Nat.add_comm 1]
  have turned : (List.range' 1 slots.length ++ [slots.length + 1]).Perm
      ((slots.length + 1) :: List.range' 1 slots.length) :=
    List.perm_append_comm
  rw [Filled, List.length_cons, range]
  constructor
  · intro filled
    exact (List.perm_cons _).mp (filled.trans turned)
  · intro filled
    exact (filled.cons _).trans turned.symm

/-- As many numbers are in use as entries are confirmed or reserved, by induction over them. -/
theorem length_activeSlots (here : DailyEntryRecord → Bool) (entries : List DailyEntryRecord)
    : (activeSlots here entries).length
      = entries.countP (fun entry => here entry ∧ entry.status = .confirmed)
        + entries.countP (fun entry => here entry ∧ entry.status = .reserved) := by
  induction entries with
  | nil => rfl
  | cons entry rest ih =>
      have first : activeSlots here (entry :: rest)
          = (if here entry then entry.activeSlot else none).toList ++ activeSlots here rest := by
        rw [activeSlots, List.filterMap_cons]
        cases (if here entry then entry.activeSlot else none) <;> rfl
      rw [first, List.length_append, ih, List.countP_cons, List.countP_cons]
      cases present : here entry with
      | false => simp
      | true =>
          cases status : entry.status <;> simp [DailyEntryRecord.activeSlot, status] <;> omega

/-- An entry that was neither released nor failed is active. -/
theorem activeSlot_eq_some (going : ¬ (entry.status = .released ∨ entry.status = .failed))
    : entry.activeSlot = some entry.slotNumber := by
  cases was : entry.status <;> simp [DailyEntryRecord.activeSlot, was] at going ⊢

/-- An active entry that gives up its number. -/
theorem activeSlots_set_released (found : entries[place]? = some entry)
    (present : here entry = true) (active : entry.activeSlot = some number)
    (inactive : updated.activeSlot = none)
    : (activeSlots here entries).Perm
        (number :: activeSlots here (entries.set place updated)) := by
  obtain ⟨others, before, after⟩ := filterMap_set_perm found
    fun entry => if here entry then entry.activeSlot else none
  have rest : (activeSlots here (entries.set place updated)).Perm others := by
    simpa [activeSlots, inactive] using after updated
  refine before.trans ?_
  rw [if_pos present, active]
  exact rest.symm.cons number

/-- Numbers without the last one. -/
theorem Filled.of_released (filled : Filled (activeSlots here entries))
    (found : entries[place]? = some entry) (present : here entry = true)
    (last : entry.activeSlot = some (activeSlots here entries).length)
    (inactive : updated.activeSlot = none)
    : Filled (activeSlots here (entries.set place updated)) := by
  have released := activeSlots_set_released found present last inactive
  rw [released.length_eq, List.length_cons] at released
  exact filled_cons_iff.mp (filled.perm released)

/-- One more entry of the day, with the next number. -/
theorem Filled.append (filled : Filled (activeSlots here entries)) (present : here entry = true)
    (active : entry.activeSlot = some entry.slotNumber)
    (next : entry.slotNumber = (activeSlots here entries).length + 1)
    : Filled (activeSlots here (entries ++ [entry])) := by
  refine Filled.perm ?_ (activeSlots_append here entries entry present active).symm
  rw [next]
  exact filled_cons_iff.mpr filled

end Filled

-----------------------------------------------------------------------------------------
-- The ledger on the database
-----------------------------------------------------------------------------------------

namespace DailyTables

/-- The numbers of every day are filled. -/
def SlotsFilled (tables : DailyTables) : Prop := ∀ dailyKey, Filled (tables.slots dailyKey)

/-- A release that takes effect gives up the last number of its day. -/
def Stacked (tables : DailyTables) (call : Call) : Prop :=
  match call.call with
  | .release dailyKey betId _ =>
      Runs.lands retries call.attempts = true →
      ∀ entry id, tables.selectEntry call.order dailyKey betId = some (entry, id) →
        entry.activeSlot ≠ none → entry.slotNumber = (tables.statsOf dailyKey).activeCount
  | _ => True

variable {maxEntries order id : Nat} {tables : DailyTables} {entry : DailyEntryRecord}
  {stamp : Stamp} {now dailyKey betId : String}

/-- Counters that agree with the entries count the numbers in use. -/
theorem Consistent.length_slots (consistent : tables.Consistent maxEntries) (dailyKey : String)
    : (tables.slots dailyKey).length = (tables.statsOf dailyKey).activeCount := by
  obtain ⟨confirmed, reserved, -⟩ := consistent dailyKey
  rw [DailyStats.activeCount, confirmed, reserved, slots, length_activeSlots]
  simp [entryCount]

/-- The next number by the counters is free. -/
theorem SlotsFilled.slotFree (filled : tables.SlotsFilled)
    (consistent : tables.Consistent maxEntries) (call : Call)
    : tables.SlotFree maxEntries call := by
  obtain ⟨call, order, stamp, attempts⟩ := call
  cases call with
  | reserve dailyKey betId sessionId =>
      intro _ _
      rw [← consistent.length_slots]
      exact (filled dailyKey).next_free
  | confirm => trivial
  | release => trivial

theorem filled_reserve (filled : tables.SlotsFilled) (consistent : tables.Consistent maxEntries)
    (sessionId : String)
    : SlotsFilled
        (Runs.bodyState (reserve maxEntries stamp dailyKey betId sessionId) tables) := by
  intro other
  have before := filled other
  rw [slots] at before ⊢
  rw [entries_reserve]
  split
  · exact before
  · by_cases here : dailyKey = other
    · subst here
      refine before.append (by simp [newSlot]) rfl ?_
      exact congrArg (· + 1) (consistent.length_slots dailyKey).symm
    · simpa [activeSlots, newSlot, here] using before

/-- A confirmation keeps the number of what is reserved. -/
theorem filled_confirm (filled : tables.SlotsFilled)
    : SlotsFilled (Runs.bodyState (confirm order now dailyKey betId) tables) := by
  rw [Runs.bodyState, confirm]
  cases selected : tables.selectEntry order dailyKey betId with
  | none => exact filled
  | some row =>
      obtain ⟨entry, id⟩ := row
      obtain ⟨found, -, -⟩ := selectEntry_spec selected
      dsimp only
      by_cases done : entry.status = .confirmed
      · rw [if_pos done]
        exact filled
      · rw [if_neg done]
        by_cases pending : entry.status = .reserved
        · rw [if_neg (not_not.mpr pending)]
          have kept :
              DailyEntryRecord.activeSlot
                { entry with status := .confirmed, confirmedAt := some now }
              = entry.activeSlot := by
            simp [DailyEntryRecord.activeSlot, pending]
          exact fun other =>
            (filled other).perm (activeSlots_set_kept found (by rw [kept])).symm
        · rw [if_pos pending]
          exact filled

theorem filled_release (filled : tables.SlotsFilled) (consistent : tables.Consistent maxEntries)
    (last : ∀ entry id, tables.selectEntry order dailyKey betId = some (entry, id) →
      entry.activeSlot ≠ none → entry.slotNumber = (tables.statsOf dailyKey).activeCount)
    (reason : String)
    : SlotsFilled (Runs.bodyState (release order now dailyKey betId reason) tables) := by
  rw [Runs.bodyState, release]
  cases selected : tables.selectEntry order dailyKey betId with
  | none => exact filled
  | some row =>
      obtain ⟨entry, id⟩ := row
      obtain ⟨found, rfl, -⟩ := selectEntry_spec selected
      dsimp only
      by_cases ended : entry.status = .released ∨ entry.status = .failed
      · rw [if_pos ended]
        exact filled
      · rw [if_neg ended]
        have active := activeSlot_eq_some ended
        have number := last entry id selected (by rw [active]; simp)
        intro other
        by_cases here : entry.dailyKey = other
        · subst here
          refine (filled entry.dailyKey).of_released found (decide_eq_true rfl) ?_ rfl
          rw [active, number]
          exact congrArg some (consistent.length_slots entry.dailyKey).symm
        · exact (filled other).perm (activeSlots_set_kept found (by simp [here])).symm

/-- A call that releases at most the last number keeps the numbers filled. -/
theorem filled_step (filled : tables.SlotsFilled) (consistent : tables.Consistent maxEntries)
    {call : Call} (stacked : tables.Stacked call) : (tables.step maxEntries call).SlotsFilled := by
  obtain ⟨call, order, stamp, attempts⟩ := call
  rw [step, run, Runs.withRetry_transact_fst]
  cases lands : Runs.lands retries attempts with
  | false => exact filled
  | true =>
      rw [if_pos rfl]
      cases call with
      | reserve dailyKey betId sessionId => exact filled_reserve filled consistent sessionId
      | confirm dailyKey betId => exact filled_confirm filled
      | release dailyKey betId reason =>
          exact filled_release filled consistent (stacked lands) reason

theorem filled_empty : SlotsFilled {} := fun _ => .rfl

end DailyTables

-----------------------------------------------------------------------------------------
-- The ledger in memory
-----------------------------------------------------------------------------------------

namespace InMemoryDailyEntryLedger

/-- The numbers of every day are filled. -/
def SlotsFilled (ledger : InMemoryDailyEntryLedger) : Prop :=
  ∀ dailyKey, Filled (ledger.slots dailyKey)

/-- A release gives up the last number of its day, and no entry is confirmed after its release. -/
def Stacked (ledger : InMemoryDailyEntryLedger) : LedgerCall → Prop
  | .reserve _ _ _ => True
  | .confirm dailyKey betId =>
      ∀ entry place, ledger.findEntry dailyKey betId = some (entry, place) →
        entry.activeSlot ≠ none
  | .release dailyKey betId _ =>
      ∀ entry place, ledger.findEntry dailyKey betId = some (entry, place) →
        entry.activeSlot ≠ none → entry.slotNumber = (ledger.statsOf dailyKey).activeCount

variable {maxEntries : Nat} {ledger : InMemoryDailyEntryLedger}
  {now dailyKey betId reason : String}

/-- Counters that agree with the entries count the numbers in use. -/
theorem Consistent.length_slots (consistent : ledger.Consistent maxEntries) (dailyKey : String)
    : (ledger.slots dailyKey).length = (ledger.statsOf dailyKey).activeCount := by
  obtain ⟨confirmed, reserved, -⟩ := consistent dailyKey
  rw [DailyStats.activeCount, confirmed, reserved, slots, length_activeSlots]
  simp [entryCount]

/-- The next number by the counters is free. -/
theorem SlotsFilled.slotFree (filled : ledger.SlotsFilled)
    (consistent : ledger.Consistent maxEntries) {call : LedgerCall}
    (stacked : ledger.Stacked call) : ledger.SlotFree maxEntries call := by
  cases call with
  | reserve dailyKey betId sessionId =>
      intro _
      rw [← consistent.length_slots]
      exact (filled dailyKey).next_free
  | confirm dailyKey betId =>
      intro entry place found inactive
      exact absurd inactive (stacked entry place found)
  | release => trivial

/-- A day that is written anew is all that is left to check. -/
theorem filled_write (filled : ledger.SlotsFilled) {entries : List DailyEntryRecord}
    (day : Filled (activeSlots (fun _ => true) entries)) (stats : Map String DailyStats)
    : SlotsFilled { entries := ledger.entries.set dailyKey entries, stats } := by
  intro other
  rw [slots, dayEntries_set]
  split
  · exact day
  · exact filled other

theorem filled_reserve (filled : ledger.SlotsFilled) (consistent : ledger.Consistent maxEntries)
    (sessionId : String)
    : (ledger.reserve maxEntries now dailyKey betId sessionId).1.SlotsFilled := by
  unfold reserve
  dsimp only
  split
  · exact filled
  · refine filled_write filled ((filled dailyKey).append rfl rfl ?_) _
    exact congrArg (· + 1) (consistent.length_slots dailyKey).symm

/-- The confirmation of an active entry keeps its number. -/
theorem filled_confirm (filled : ledger.SlotsFilled)
    (active : ledger.Stacked (.confirm dailyKey betId))
    : (ledger.confirm now dailyKey betId).SlotsFilled := by
  rw [confirm]
  cases found : ledger.findEntry dailyKey betId with
  | none => exact filled
  | some row =>
      obtain ⟨entry, place⟩ := row
      dsimp only
      split
      · exact filled
      · have going := active entry place found
        have kept :
            DailyEntryRecord.activeSlot
              { entry with status := .confirmed, confirmedAt := some now }
            = entry.activeSlot := by
          cases was : entry.status <;> simp [DailyEntryRecord.activeSlot, was] at going ⊢
        exact filled_write filled
          ((filled dailyKey).perm
            (activeSlots_set_kept (findEntry_spec found) (by rw [kept])).symm) _

theorem filled_release (filled : ledger.SlotsFilled) (consistent : ledger.Consistent maxEntries)
    (last : ledger.Stacked (.release dailyKey betId reason))
    : (ledger.release now dailyKey betId).SlotsFilled := by
  rw [release]
  cases found : ledger.findEntry dailyKey betId with
  | none => exact filled
  | some row =>
      obtain ⟨entry, place⟩ := row
      dsimp only
      split
      · exact filled
      · next going =>
          have active := activeSlot_eq_some going
          have number := last entry place found (by rw [active]; simp)
          refine filled_write filled
            ((filled dailyKey).of_released (findEntry_spec found) rfl ?_ rfl) _
          rw [active, number]
          exact congrArg some (consistent.length_slots dailyKey).symm

/-- A call that releases at most the last number keeps the numbers filled. -/
theorem filled_step (filled : ledger.SlotsFilled) (consistent : ledger.Consistent maxEntries)
    {call : TimedCall} (stacked : ledger.Stacked call.call)
    : (ledger.step maxEntries call).SlotsFilled := by
  obtain ⟨call, now⟩ := call
  cases call with
  | reserve dailyKey betId sessionId => exact filled_reserve filled consistent sessionId
  | confirm dailyKey betId => exact filled_confirm filled stacked
  | release dailyKey betId reason => exact filled_release filled consistent stacked

theorem filled_empty : SlotsFilled {} := fun _ => .rfl

end InMemoryDailyEntryLedger

/-- On both ledgers, sound calls that release their numbers as from a stack find every slot free.
Each of them keeps the counters and the numbers from one to their count.
-/
theorem slots_free_of_stacked (maxEntries : Nat) (calls : List DailyTables.Call)
    (memoryCalls : List TimedCall)
    : (Runs.Always (DailyTables.step maxEntries)
          (fun tables call => tables.Sound call ∧ tables.Stacked call) {} calls
        → Runs.Always (DailyTables.step maxEntries) (DailyTables.SlotFree maxEntries) {} calls)
      ∧ (Runs.Always (InMemoryDailyEntryLedger.step maxEntries)
          (fun ledger call => ledger.Sound maxEntries call.call ∧ ledger.Stacked call.call) {}
          memoryCalls
        → Runs.Always (InMemoryDailyEntryLedger.step maxEntries)
          (fun ledger call => ledger.SlotFree maxEntries call.call) {} memoryCalls) := by
  constructor
  · intro lawful
    have kept : ∀ (tables : DailyTables) (call : DailyTables.Call),
        tables.Consistent maxEntries ∧ tables.SlotsFilled →
        tables.Sound call ∧ tables.Stacked call →
        tables.SlotFree maxEntries call
          ∧ (tables.step maxEntries call).Consistent maxEntries
          ∧ (tables.step maxEntries call).SlotsFilled := by
      rintro tables call ⟨consistent, filled⟩ ⟨sound, stacked⟩
      exact ⟨filled.slotFree consistent call,
        (DailyTables.consistent_step_iff consistent call).mpr sound,
        DailyTables.filled_step filled consistent stacked⟩
    exact lawful.of_invariant kept ⟨DailyTables.consistent_empty, DailyTables.filled_empty⟩
  · intro lawful
    have kept : ∀ (ledger : InMemoryDailyEntryLedger) (call : TimedCall),
        ledger.Consistent maxEntries ∧ ledger.SlotsFilled →
        ledger.Sound maxEntries call.call ∧ ledger.Stacked call.call →
        ledger.SlotFree maxEntries call.call
          ∧ (ledger.step maxEntries call).Consistent maxEntries
          ∧ (ledger.step maxEntries call).SlotsFilled := by
      rintro ledger call ⟨consistent, filled⟩ ⟨sound, stacked⟩
      exact ⟨filled.slotFree consistent stacked,
        (InMemoryDailyEntryLedger.consistent_step_iff consistent call).mpr sound,
        InMemoryDailyEntryLedger.filled_step filled consistent stacked⟩
    exact lawful.of_invariant kept
      ⟨InMemoryDailyEntryLedger.consistent_empty, InMemoryDailyEntryLedger.filled_empty⟩

end CrashWave.Ledger
