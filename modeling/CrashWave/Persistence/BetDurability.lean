import CrashWave.Persistence.BetRepository

/-! When an update of a bet is durable. A failing event insert is swallowed by the code but
aborts the transaction, so the change of state that was reported is rolled back.
-/

namespace CrashWave.Persistence

open Database JavaScript

variable {tables : BetTables} {id : String} {input : UpdateBetInput} {now : Int}
  {faults : BetFaults}

/-- The row that the database shows after a call matches what the call answered: a returned
record is the row, and otherwise the row is as before.
-/
def Durable (before after : BetTables) (id : String) : Except String (Option BetRecord) → Prop
  | .ok (some record) => (after.bets.get id).map mapRow = some record
  | _ => after.bets.get id = before.bets.get id

/-- The update reaches its commit: it names a column, the bet exists, and no call of the
database fails but those for the events.
-/
structure Reaches (tables : BetTables) (id : String) (input : UpdateBetInput)
    (faults : BetFaults) (before : BetRecord) : Prop where
  namesColumn : input.noFields = false
  found : tables.bets.get id = some before
  connects : faults.connect = false
  starts : faults.start = false
  selects : faults.select = false
  writes : faults.write = false
  commits : faults.commit = false

/-- One of the events that a change of state inserts fails: the financial event of every
change, or the outbox event of the states that have one.
-/
def EventInsertFails (previous : BetRecord) (input : UpdateBetInput) (faults : BetFaults)
    : Prop :=
  ∃ state, input.state = some state ∧ state ≠ previous.state
    ∧ (faults.financialEvent = true
      ∨ (systemEventForState state).isSome = true ∧ faults.outboxEvent = true)

/-- The update is answered with a record and rolled back. -/
def LosesUpdate (tables : BetTables) (id : String) (input : UpdateBetInput)
    (faults : BetFaults) : Prop :=
  ∃ before, Reaches tables id input faults before ∧ EventInsertFails before input faults

/-- Recording a change of state does not commit anything. -/
@[simp] theorem recordStateChange_committed (txn : Transaction BetTables)
    (previous record : BetRecord)
    : (recordStateChange txn id input previous record faults).committed = txn.committed := by
  unfold recordStateChange
  split
  · rfl
  · split
    · rfl
    · dsimp only
      split <;> simp

theorem insertFinancialEvent_eq_none {fails : Bool} {event : FinancialEvent}
    : insertFinancialEvent fails event tables = none ↔ fails = true := by
  cases fails <;> simp [insertFinancialEvent]

theorem enqueueOutboxEvent_eq_none {fails : Bool} {event : OutboxEvent}
    : enqueueOutboxEvent fails event tables = none ↔ fails = true := by
  cases fails <;> simp [enqueueOutboxEvent]

/-- Recording a change of state aborts a running transaction exactly when one of its event
inserts fails.
-/
theorem recordStateChange_aborted {txn : Transaction BetTables}
    (running : txn.aborted = false) (id : String) (previous record : BetRecord)
    : (recordStateChange txn id input previous record faults).aborted = true
      ↔ EventInsertFails previous input faults := by
  unfold recordStateChange EventInsertFails
  cases named : input.state with
  | none => simp [running]
  | some state =>
      by_cases same : state = previous.state
      · simp [same, running]
      · cases event : systemEventForState state <;>
          simp [same, event, Transaction.attempt_aborted, running,
            insertFinancialEvent_eq_none, enqueueOutboxEvent_eq_none]

/-- An event insert leaves the bets. -/
theorem attempt_bets {txn : Transaction BetTables} {work : BetTables → Option (BetTables × Unit)}
    (keeps : ∀ tables next answer, work tables = some (next, answer) → next.bets = tables.bets)
    : (txn.attempt work).working.bets = txn.working.bets := by
  rw [Transaction.attempt_working]
  split
  · rfl
  · cases done : work txn.working with
    | none => rfl
    | some outcome => exact keeps _ _ _ done

theorem insertFinancialEvent_bets {fails : Bool} {event : FinancialEvent} (next : BetTables)
    (answer : Unit) (done : insertFinancialEvent fails event tables = some (next, answer))
    : next.bets = tables.bets := by
  cases fails with
  | true => cases done
  | false =>
      cases done
      rfl

theorem enqueueOutboxEvent_bets {fails : Bool} {event : OutboxEvent} (next : BetTables)
    (answer : Unit) (done : enqueueOutboxEvent fails event tables = some (next, answer))
    : next.bets = tables.bets := by
  cases fails with
  | true => cases done
  | false =>
      cases done
      rfl

/-- Recording a change of state leaves the bets as the update wrote them. -/
theorem recordStateChange_bets (txn : Transaction BetTables) (previous record : BetRecord)
    : (recordStateChange txn id input previous record faults).working.bets
      = txn.working.bets := by
  unfold recordStateChange
  split
  · rfl
  · split
    · rfl
    · dsimp only
      split
      · exact attempt_bets fun _ => insertFinancialEvent_bets
      · rw [attempt_bets fun _ => enqueueOutboxEvent_bets,
          attempt_bets fun _ => insertFinancialEvent_bets]

/-- The transaction after a statement has written a row. -/
def withRow (tables : BetTables) (id : String) (row : BetRecord) : Transaction BetTables where
  committed := tables
  working := { tables with bets := tables.bets.set id row }

theorem select_statement
    : (Transaction.start tables).statement (selectBet faults.select id)
      = if faults.select then ({ Transaction.start tables with aborted := true }, none)
        else (Transaction.start tables, some (tables.bets.get id)) := by
  cases selects : faults.select with
  | true => exact Transaction.statement_of_failed rfl (by simp [selectBet])
  | false => exact Transaction.statement_of_done rfl (by simp [selectBet, Transaction.start])

/-- What the update statement does to a bet that is there. -/
theorem write_statement {before : BetRecord} (found : tables.bets.get id = some before)
    : (Transaction.start tables).statement (updateBet faults.write id input now)
      = if faults.write then ({ Transaction.start tables with aborted := true }, none)
        else
          (withRow tables id (before.updated input now),
            some (some (before.updated input now))) := by
  cases writes : faults.write with
  | true => exact Transaction.statement_of_failed rfl (by simp [updateBet])
  | false =>
      exact Transaction.statement_of_done rfl (by simp [updateBet, found, Transaction.start])

/-- An update that reaches its commit records the change after its row is written, and
commits.
-/
theorem update_eq_of_reaches {before : BetRecord}
    (reaches : Reaches tables id input faults before)
    : tables.update id input now faults
      = ((recordStateChange (withRow tables id (before.updated input now)) id input
            (mapRow before) (mapRow (before.updated input now)) faults).commit,
          .ok (some (mapRow (before.updated input now)))) := by
  rw [BetTables.update, if_neg (by simp [reaches.namesColumn]),
    if_neg (by simp [reaches.connects, reaches.starts]), select_statement]
  simp only [reaches.selects, Bool.false_eq_true, if_false, reaches.found]
  rw [write_statement reaches.found]
  simp [reaches.writes, reaches.commits]

theorem update_answer_of_reaches {before : BetRecord}
    (reaches : Reaches tables id input faults before)
    : (tables.update id input now faults).2
      = .ok (some (mapRow (before.updated input now))) := by
  rw [update_eq_of_reaches reaches]

/-- An update that reaches its commit leaves the tables as they were if an event insert
failed.
-/
theorem update_tables_of_failed_event {before : BetRecord}
    (reaches : Reaches tables id input faults before)
    (fails : EventInsertFails before input faults)
    : (tables.update id input now faults).1 = tables := by
  have aborted := (recordStateChange_aborted
    (show (withRow tables id (before.updated input now)).aborted = false from rfl) id
    (mapRow before) (mapRow (before.updated input now))).mpr fails
  rw [update_eq_of_reaches reaches]
  dsimp only
  rw [Transaction.commit_of_aborted aborted, recordStateChange_committed]
  rfl

/-- An update that reaches its commit shows the changed row if no event insert failed. -/
theorem update_bets_of_reaches {before : BetRecord}
    (reaches : Reaches tables id input faults before)
    (passes : ¬ EventInsertFails before input faults)
    : (tables.update id input now faults).1.bets
      = tables.bets.set id (before.updated input now) := by
  have running := mt (recordStateChange_aborted
    (show (withRow tables id (before.updated input now)).aborted = false from rfl) id
    (mapRow before) (mapRow (before.updated input now))).mp passes
  rw [update_eq_of_reaches reaches]
  dsimp only
  rw [Transaction.commit_of_not_aborted (by simpa using running), recordStateChange_bets]
  rfl

/-- An update that names a column and does not reach its commit is rolled back: it throws,
or there is no such bet.
-/
theorem update_rolled_back (now : Int) (fields : input.noFields = false)
    (stops : ∀ before, ¬ Reaches tables id input faults before)
    : (tables.update id input now faults).1 = tables
      ∧ ((tables.update id input now faults).2 = .error "BET_UPDATE_FAILED"
        ∨ tables.bets.get id = none ∧ (tables.update id input now faults).2 = .ok none) := by
  rw [BetTables.update, if_neg (by simp [fields])]
  by_cases opened : faults.connect = true ∨ faults.start = true
  · rw [if_pos opened]
    simp
  rw [if_neg opened, select_statement]
  cases selects : faults.select with
  | true => simp [Transaction.rollback, Transaction.start]
  | false =>
      cases found : tables.bets.get id with
      | none => simp [Transaction.rollback, Transaction.start]
      | some before =>
          simp only [Bool.false_eq_true, if_false]
          rw [write_statement found]
          cases writes : faults.write with
          | true => simp [Transaction.rollback, Transaction.start]
          | false =>
              cases commits : faults.commit with
              | true => simp [Transaction.rollback, withRow]
              | false =>
                  simp only [not_or, Bool.not_eq_true] at opened
                  exact absurd
                    ⟨fields, found, opened.1, opened.2, selects, writes, commits⟩
                    (stops before)

/-- The update of a bet that is there is answered exactly when it reaches its commit. -/
theorem update_answered_iff {before : BetRecord} (now : Int) (fields : input.noFields = false)
    (found : tables.bets.get id = some before)
    : (∃ record, (tables.update id input now faults).2 = .ok record)
      ↔ Reaches tables id input faults before := by
  constructor
  · rintro ⟨record, answered⟩
    by_contra stops
    have others : ∀ other, ¬ Reaches tables id input faults other := by
      intro other reached
      obtain rfl : before = other := Option.some.inj (found.symm.trans reached.found)
      exact stops reached
    obtain ⟨-, thrown | ⟨absent, -⟩⟩ := update_rolled_back now fields others
    · rw [thrown] at answered
      cases answered
    · rw [found] at absent
      cases absent
  · intro reaches
    exact ⟨_, update_answer_of_reaches reaches⟩

/-- An update that does not reach its commit leaves the tables, and returns a record only
where it read one.
-/
theorem update_of_not_reaches (now : Int)
    (stops : ∀ before, ¬ Reaches tables id input faults before)
    : (tables.update id input now faults).1 = tables
      ∧ ∀ record, (tables.update id input now faults).2 = .ok (some record)
        → (tables.bets.get id).map mapRow = some record := by
  cases noFields : input.noFields with
  | true =>
      rw [BetTables.update, if_pos noFields]
      refine ⟨rfl, fun record read => ?_⟩
      simp only [BetTables.findById] at read
      split at read
      · cases read
      · exact Except.ok.inj read
  | false =>
      obtain ⟨kept, answer⟩ := update_rolled_back now noFields stops
      refine ⟨kept, fun record returned => ?_⟩
      rcases answer with thrown | ⟨-, absent⟩
      · rw [thrown] at returned
        cases returned
      · rw [absent] at returned
        cases returned

/-- The update reaches its commit and none of its event inserts fails. -/
def Lands (tables : BetTables) (id : String) (input : UpdateBetInput) (faults : BetFaults)
    (before : BetRecord) : Prop :=
  Reaches tables id input faults before ∧ ¬ EventInsertFails before input faults

theorem update_bets_of_lands {before : BetRecord} (now : Int)
    (lands : Lands tables id input faults before)
    : (tables.update id input now faults).1.bets
      = tables.bets.set id (before.updated input now) :=
  update_bets_of_reaches lands.1 lands.2

theorem update_of_not_lands (misses : ∀ before, ¬ Lands tables id input faults before)
    : (tables.update id input now faults).1 = tables := by
  by_cases reaches : ∃ before, Reaches tables id input faults before
  · obtain ⟨before, reaches⟩ := reaches
    exact update_tables_of_failed_event reaches
      (not_not.mp fun passes => misses before ⟨reaches, passes⟩)
  · exact (update_of_not_reaches now (not_exists.mp reaches)).1

/-- What a row looks like after an update: as before, or changed if it is the updated one
and the update lands.
-/
theorem get_update_cases (tables : BetTables) (id : String) (input : UpdateBetInput)
    (now : Int) (faults : BetFaults) (other : String)
    : (tables.update id input now faults).1.bets.get other = tables.bets.get other
      ∨ ∃ before, Lands tables id input faults before ∧ other = id
        ∧ (tables.update id input now faults).1.bets.get other
          = some (before.updated input now) := by
  by_cases lands : ∃ before, Lands tables id input faults before
  · obtain ⟨before, lands⟩ := lands
    rw [update_bets_of_lands now lands]
    by_cases same : other = id
    · subst same
      exact .inr ⟨before, lands, rfl, Map.get_set_self ..⟩
    · exact .inl (Map.get_set_of_ne _ _ same)
  · rw [update_of_not_lands (not_exists.mp lands)]
    exact .inl rfl

theorem get_update_of_ne {other : String} (different : other ≠ id)
    : (tables.update id input now faults).1.bets.get other = tables.bets.get other := by
  rcases get_update_cases tables id input now faults other with kept | ⟨_, -, same, -⟩
  · exact kept
  · exact absurd same different

theorem isSome_get_update {other : String} (present : (tables.bets.get other).isSome = true)
    : ((tables.update id input now faults).1.bets.get other).isSome = true := by
  rcases get_update_cases tables id input now faults other with kept | ⟨before, -, -, changed⟩
  · rwa [kept]
  · rw [changed]
    rfl

/-- Where the tables of the events are missing, no update changes the state of any bet. -/
theorem update_keeps_states (missing : faults.financialEvent = true) (other : String)
    : ((tables.update id input now faults).1.bets.get other).map (·.state)
      = (tables.bets.get other).map (·.state) := by
  rcases get_update_cases tables id input now faults other with
    kept | ⟨before, ⟨reaches, passes⟩, rfl, changed⟩
  · rw [kept]
  · have unchanged : input.state.getD before.state = before.state := by
      by_contra changes
      cases named : input.state with
      | none => simp [named] at changes
      | some state =>
          exact passes ⟨state, named, by simpa [named] using changes, .inl missing⟩
    rw [changed, reaches.found]
    simp [BetRecord.updated, unchanged]

/-- The creation of a bet returns its record: no call of the database fails but those for
the events.
-/
structure Creates (tables : BetTables) (id : String) (faults : BetFaults) : Prop where
  connects : faults.connect = false
  starts : faults.start = false
  writes : faults.write = false
  fresh : tables.bets.get id = none
  commits : faults.commit = false

/-- A creation that returns its record shows the row, unless an event insert failed. -/
theorem create_of_creates (input : CreateBetInput) (now : Int)
    (creates : Creates tables id faults)
    : (tables.create input id now faults).2 = .ok (mapRow (input.row id now))
      ∧ (tables.create input id now faults).1.bets
        = if faults.financialEvent ∨ faults.outboxEvent then tables.bets
          else tables.bets.set id (input.row id now) := by
  have inserted : (Transaction.start tables).statement
      (insertBet faults.write (input.row id now))
      = (withRow tables id (input.row id now), some (input.row id now)) :=
    Transaction.statement_of_done rfl
      (by simp [insertBet, creates.writes, creates.fresh, Map.has, Transaction.start,
        CreateBetInput.row])
  rw [BetTables.create, if_neg (by simp [creates.connects, creates.starts]), inserted]
  dsimp only
  rw [if_neg (by simp [creates.commits])]
  refine ⟨rfl, ?_⟩
  simp only [Transaction.commit, Transaction.attempt_aborted,
    insertFinancialEvent_eq_none, enqueueOutboxEvent_eq_none, Transaction.attempt_committed,
    withRow, Bool.false_eq_true, false_or]
  split
  · rfl
  · rw [attempt_bets fun _ => enqueueOutboxEvent_bets,
      attempt_bets fun _ => insertFinancialEvent_bets]

/-- A creation that returns no record leaves the tables. -/
theorem create_of_not_creates (input : CreateBetInput) (now : Int)
    (fails : ¬ Creates tables id faults)
    : tables.create input id now faults = (tables, .error "BET_CREATE_FAILED") := by
  rw [BetTables.create]
  by_cases opened : faults.connect = true ∨ faults.start = true
  · rw [if_pos opened]
  rw [if_neg opened]
  by_cases refused : faults.write = true ∨ tables.bets.has id = true
  · have failed : (Transaction.start tables).statement
        (insertBet faults.write (input.row id now))
        = ({ Transaction.start tables with aborted := true }, none) :=
      Transaction.statement_of_failed rfl (if_pos refused)
    rw [failed]
    rfl
  · have inserted : (Transaction.start tables).statement
        (insertBet faults.write (input.row id now))
        = (withRow tables id (input.row id now), some (input.row id now)) :=
      Transaction.statement_of_done rfl (if_neg refused)
    rw [inserted]
    dsimp only
    by_cases commits : faults.commit = true
    · rw [if_pos commits]
      simp [Transaction.rollback, withRow]
    · simp only [not_or, Bool.not_eq_true] at opened refused commits
      refine absurd ⟨opened.1, opened.2, refused.1, ?_, commits⟩ fails
      simpa [Map.has] using refused.2

/-- A creation leaves every row that is there, and adds no other one than its own. -/
theorem get_create_cases (tables : BetTables) (input : CreateBetInput) (id : String)
    (now : Int) (faults : BetFaults) (other : String)
    : (tables.create input id now faults).1.bets.get other = tables.bets.get other
      ∨ tables.bets.get other = none ∧ other = id
        ∧ (tables.create input id now faults).1.bets.get other = some (input.row id now) := by
  by_cases creates : Creates tables id faults
  · rw [(create_of_creates input now creates).2]
    split
    · exact .inl rfl
    · by_cases same : other = id
      · subst same
        exact .inr ⟨creates.fresh, rfl, Map.get_set_self ..⟩
      · exact .inl (Map.get_set_of_ne _ _ same)
  · rw [create_of_not_creates input now creates]
    exact .inl rfl

/-- An update is durable exactly when it is not answered with a record and rolled back. -/
theorem update_durable_iff (tables : BetTables) (id : String) (input : UpdateBetInput)
    (now : Int) (faults : BetFaults)
    : Durable tables (tables.update id input now faults).1 id
        (tables.update id input now faults).2
      ↔ ¬ LosesUpdate tables id input faults := by
  by_cases reaches : ∃ before, Reaches tables id input faults before
  · obtain ⟨before, reaches⟩ := reaches
    rw [update_answer_of_reaches reaches]
    by_cases fails : EventInsertFails before input faults
    · -- the committed row still has its old state, the returned record the new one
      refine iff_of_false ?_ (fun passes => passes ⟨before, reaches, fails⟩)
      rw [update_tables_of_failed_event reaches fails, Durable, reaches.found]
      obtain ⟨state, named, changed, -⟩ := fails
      intro same
      have states := congrArg BetRecord.state (Option.some.inj same)
      simp only [mapRow, BetRecord.updated, named, Option.getD_some] at states
      exact changed states.symm
    · refine iff_of_true ?_ ?_
      · rw [Durable, update_bets_of_reaches reaches fails, Map.get_set_self]
        rfl
      · rintro ⟨other, reachesOther, failsOther⟩
        obtain rfl : before = other :=
          Option.some.inj (reaches.found.symm.trans reachesOther.found)
        exact fails failsOther
  · simp only [not_exists] at reaches
    obtain ⟨kept, returned⟩ := update_of_not_reaches now reaches
    refine iff_of_true ?_ (fun ⟨before, reached, _⟩ => reaches before reached)
    rw [kept]
    cases answer : (tables.update id input now faults).2 with
    | error code => rfl
    | ok found =>
        cases found with
        | none => rfl
        | some record => exact returned record answer

/-- A pending bet. -/
def pendingBet : BetRecord where
  id := "bet-1"
  sessionId := some "s1"
  roundId := some "r1"
  dailyKey := "2024-01-01"
  stake := 700
  cashOutTarget := .finite (13 / 10)
  state := .pending
  createdAt := 0
  updatedAt := 0

/-- A repository that holds it. -/
def pendingTables : BetTables where
  bets := (∅ : Map String BetRecord).set "bet-1" pendingBet

/-- Confirming the bet without a table of financial events returns a confirmed record and
leaves a pending row.
-/
theorem confirmed_record_of_pending_row
    : let outcome :=
        pendingTables.updateState "bet-1" .confirmed none 5 { financialEvent := true }
      outcome.2 = .ok (some { pendingBet with state := .confirmed, updatedAt := 5 })
      ∧ outcome.1.bets.get "bet-1" = some pendingBet
      ∧ ¬ Durable pendingTables outcome.1 "bet-1" outcome.2 := by
  intro outcome
  have returned : outcome.2
      = .ok (some { pendingBet with state := .confirmed, updatedAt := 5 }) := by
    rfl
  have kept : outcome.1.bets.get "bet-1" = some pendingBet := by
    rfl
  refine ⟨returned, kept, ?_⟩
  rw [returned, Durable, kept]
  decide +kernel

end CrashWave.Persistence
