import CrashWave.Persistence.BetRepository

/-! What the queries of the bet repository find. -/

namespace CrashWave.Persistence

open JavaScript

variable {tables : BetTables} {state : BetState}

theorem mem_rows_iff {record : BetRecord}
    : record ∈ tables.rows
      ↔ ∃ id row, tables.bets.get id = some row ∧ { row with id } = record := by
  simp only [BetTables.rows, List.mem_map, Prod.exists, Map.mem_entries_iff]

/-- A page that is large enough holds every bet of its state. -/
theorem findByState_complete {limit : Nat}
    (fits : (tables.rows.countP fun row => row.state = state) ≤ limit)
    : ∃ page, tables.findByState state limit false = .ok page
      ∧ ∀ id row, tables.bets.get id = some row → row.state = state
        → id ∈ page.map (·.id) := by
  refine ⟨_, rfl, fun id row found here => ?_⟩
  have member : { row with id } ∈ tables.rows := mem_rows_iff.mpr ⟨id, row, found, rfl⟩
  rw [List.take_of_length_le (by simpa [List.countP_eq_length_filter] using fits)]
  simp only [List.map_map, List.mem_map, List.mem_insertionSort, List.mem_filter]
  exact ⟨_, ⟨member, by simpa using here⟩, rfl⟩

theorem rows_ids_nodup (tables : BetTables) : (tables.rows.map (·.id)).Nodup := by
  simpa [BetTables.rows, Function.comp_def] using tables.bets.unique

theorem filtered_ids_nodup (tables : BetTables) (state : BetState)
    : ((tables.rows.filter fun row => row.state = state).map (·.id)).Nodup :=
  (rows_ids_nodup tables).sublist (List.filter_sublist.map _)

/-- A page lists no bet twice. -/
theorem findByState_nodup {limit : Nat} {fails : Bool} {page : List BetRecord}
    (read : tables.findByState state limit fails = .ok page)
    : (page.map (·.id)).Nodup := by
  unfold BetTables.findByState at read
  split at read
  · cases read
  · obtain rfl := Except.ok.inj read
    rw [List.map_map]
    refine List.Nodup.sublist ((List.take_sublist _ _).map _) ?_
    exact ((List.perm_insertionSort _ _).map _).nodup_iff.mpr (filtered_ids_nodup tables state)

/-- A page that holds every bet of its state is large enough, since no bet has two rows. -/
theorem countP_le_of_findByState {limit : Nat} {page : List BetRecord}
    (read : tables.findByState state limit false = .ok page)
    (complete : ∀ id row, tables.bets.get id = some row → row.state = state
      → id ∈ page.map (·.id))
    : (tables.rows.countP fun row => row.state = state) ≤ limit := by
  obtain rfl := Except.ok.inj read
  have within := (filtered_ids_nodup tables state).length_le_of_subset fun id member => by
    obtain ⟨row, found, rfl⟩ := List.mem_map.mp member
    obtain ⟨inRows, inState⟩ := List.mem_filter.mp found
    obtain ⟨id, stored, here, rfl⟩ := mem_rows_iff.mp inRows
    exact complete id stored here (by simpa using inState)
  rw [List.length_map, ← List.countP_eq_length_filter] at within
  refine within.trans ?_
  rw [List.length_map, List.length_map, List.length_take]
  exact min_le_left _ _

/-- A page holds records of bets of its state only. -/
theorem mem_findByState {limit : Nat} {fails : Bool} {page : List BetRecord}
    {record : BetRecord} (read : tables.findByState state limit fails = .ok page)
    (member : record ∈ page)
    : ∃ id row, tables.bets.get id = some row ∧ row.state = state
      ∧ record = mapRow { row with id } := by
  unfold BetTables.findByState at read
  split at read
  · cases read
  · obtain rfl := Except.ok.inj read
    obtain ⟨found, taken, rfl⟩ := List.mem_map.mp member
    have listed := List.mem_of_mem_take taken
    rw [List.mem_insertionSort, List.mem_filter, mem_rows_iff] at listed
    obtain ⟨⟨id, row, here, rfl⟩, inState⟩ := listed
    exact ⟨id, row, here, by simpa using inState, rfl⟩

/-- No bet is counted exactly when none is in the state. -/
theorem countP_rows_eq_zero
    : (tables.rows.countP fun row => row.state = state) = 0
      ↔ ∀ id row, tables.bets.get id = some row → row.state ≠ state := by
  simp only [List.countP_eq_zero, decide_eq_true_eq, mem_rows_iff]
  constructor
  · intro none id row found
    exact none { row with id } ⟨id, row, found, rfl⟩
  · rintro none _ ⟨id, row, found, rfl⟩
    exact none id row found

/-- A bet of the given state, created at the given time. -/
def betRow (id : String) (state : BetState) (createdAt : Int) : BetRecord where
  id
  sessionId := some "s1"
  roundId := some "r1"
  dailyKey := "2024-01-01"
  stake := 700
  cashOutTarget := 2
  state
  createdAt
  updatedAt := createdAt

/-- The bets of a list. -/
def betsOf (rows : List BetRecord) : BetTables where
  bets := rows.foldl (fun bets row => bets.set row.id row) ∅

end CrashWave.Persistence
