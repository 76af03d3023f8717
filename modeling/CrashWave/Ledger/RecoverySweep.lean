import CrashWave.Ledger.UnknownStateRecovery
import CrashWave.Persistence.BetDurability
import CrashWave.Persistence.BetQueries

/-! What a recovery sweep does to the unknown bets, and which of them it reports as resolved:
a settlement whose event inserts fail is reported and rolled back.
-/

namespace CrashWave.Ledger

open CrashWave.Persistence JavaScript

variable {recovery : UnknownStateRecovery} {tables : BetTables} {bet : BetRecord}

/-- The bet is unknown. -/
def StillUnknown (tables : BetTables) (id : String) : Prop :=
  ∃ row, tables.bets.get id = some row ∧ row.state = .unknown

/-- Every call of the database succeeds during an update, but for those of its events. -/
structure Answers (faults : BetFaults) : Prop where
  connects : faults.connect = false
  starts : faults.start = false
  selects : faults.select = false
  writes : faults.write = false
  commits : faults.commit = false

/-- A settlement of the bet is established, and the database answers its update. -/
def Reported (recovery : UnknownStateRecovery) (bet : BetRecord)
    (answers : BetRecoveryAnswers) : Prop :=
  (∃ settlement, recovery.establish bet answers = .ok settlement) ∧ Answers answers.faults

/-- No event insert of the update fails either. -/
def Recorded (recovery : UnknownStateRecovery) (bet : BetRecord)
    (answers : BetRecoveryAnswers) : Prop :=
  Reported recovery bet answers ∧ answers.faults.financialEvent = false
  ∧ answers.faults.outboxEvent = false

theorem settled_ne_unknown (status : SettlementStatus) : status.betState ≠ .unknown := by
  cases status <;> decide

theorem settled_emits (status : SettlementStatus)
    : (systemEventForState status.betState).isSome = true := by
  cases status <;> rfl

/-- The update of a bet that is there reaches its commit exactly when the database answers. -/
theorem settlement_reaches (evidence : SettlementEvidence) (status : SettlementStatus)
    (stake : Number) {faults : BetFaults} {id : String} {row : BetRecord}
    (found : tables.bets.get id = some row)
    : Reaches tables id (evidence.update status stake) faults row ↔ Answers faults := by
  constructor
  · intro reaches
    exact ⟨reaches.connects, reaches.starts, reaches.selects, reaches.writes,
      reaches.commits⟩
  · intro answers
    exact ⟨rfl, found, answers.connects, answers.starts, answers.selects, answers.writes,
      answers.commits⟩

/-- An unknown bet is settled exactly when no call of the database fails. -/
theorem settlement_lands (evidence : SettlementEvidence) (status : SettlementStatus)
    (stake : Number) {faults : BetFaults} {id : String} {row : BetRecord}
    (found : tables.bets.get id = some row) (unknown : row.state = .unknown)
    : Lands tables id (evidence.update status stake) faults row
      ↔ Answers faults ∧ faults.financialEvent = false ∧ faults.outboxEvent = false := by
  have events : EventInsertFails row (evidence.update status stake) faults
      ↔ faults.financialEvent = true ∨ faults.outboxEvent = true := by
    simp [EventInsertFails, SettlementEvidence.update, unknown, settled_ne_unknown,
      settled_emits]
  rw [Lands, settlement_reaches evidence status stake found, events]
  simp

-----------------------------------------------------------------------------------------
-- One bet
-----------------------------------------------------------------------------------------

theorem recoverBet_of_error {answers : BetRecoveryAnswers} {reason : String}
    (none : recovery.establish bet answers = .error reason)
    : recovery.recoverBet tables bet answers = (tables, unresolved bet.id reason) := by
  rw [UnknownStateRecovery.recoverBet, none]

/-- An established settlement is handed to the repository, whose answer decides what is
reported.
-/
theorem recoverBet_of_ok {answers : BetRecoveryAnswers} {evidence : SettlementEvidence}
    {status : SettlementStatus}
    (established : recovery.establish bet answers = .ok (evidence, status))
    : let updated :=
        tables.update bet.id (evidence.update status bet.stake) answers.now answers.faults
      (recovery.recoverBet tables bet answers).1 = updated.1
      ∧ ((recovery.recoverBet tables bet answers).2.resolved = true
        ↔ ∃ record, updated.2 = .ok record) := by
  rw [UnknownStateRecovery.recoverBet, established]
  dsimp only
  split
  · next code failed => simp [failed, unresolved]
  · next record answered => simp [answered, SettlementEvidence.resolved]

/-- A bet that is there is reported as resolved exactly when its settlement is established
and the database answers.
-/
theorem recoverBet_resolved_iff {answers : BetRecoveryAnswers}
    (present : (tables.bets.get bet.id).isSome = true)
    : (recovery.recoverBet tables bet answers).2.resolved = true
      ↔ Reported recovery bet answers := by
  obtain ⟨row, found⟩ := Option.isSome_iff_exists.mp present
  cases established : recovery.establish bet answers with
  | error reason => simp [recoverBet_of_error established, unresolved, Reported, established]
  | ok settlement =>
      obtain ⟨evidence, status⟩ := settlement
      rw [(recoverBet_of_ok established).2, update_answered_iff answers.now (by rfl) found,
        settlement_reaches evidence status bet.stake found, Reported, established]
      simp

/-- The update of a settlement leaves the bet unknown exactly when it was and the update does
not land.
-/
theorem stillUnknown_settlement (evidence : SettlementEvidence) (status : SettlementStatus)
    (stake : Number) (now : Int) (faults : BetFaults) (id : String)
    : StillUnknown (tables.update id (evidence.update status stake) now faults).1 id
      ↔ StillUnknown tables id
        ∧ ¬ (Answers faults ∧ faults.financialEvent = false ∧ faults.outboxEvent = false) := by
  have settled : ∀ before : BetRecord,
      (before.updated (evidence.update status stake) now).state ≠ .unknown :=
    fun _ => settled_ne_unknown status
  by_cases before : StillUnknown tables id
  · obtain ⟨row, found, unknown⟩ := before
    rw [← settlement_lands evidence status stake found unknown,
      and_iff_right ⟨row, found, unknown⟩]
    by_cases lands : Lands tables id (evidence.update status stake) faults row
    · refine iff_of_false ?_ (not_not.mpr lands)
      rw [StillUnknown, update_bets_of_lands now lands, Map.get_set_self]
      rintro ⟨changed, same, still⟩
      obtain rfl := Option.some.inj same
      exact settled row still
    · refine iff_of_true ?_ lands
      rw [update_of_not_lands fun other landed => lands ?_]
      · exact ⟨row, found, unknown⟩
      · obtain rfl : row = other := Option.some.inj (found.symm.trans landed.1.found)
        exact landed
  · refine iff_of_false ?_ fun ⟨unknown, _⟩ => before unknown
    rintro ⟨row, found, unknown⟩
    rcases get_update_cases tables id (evidence.update status stake) now faults id with
      kept | ⟨old, -, -, changed⟩
    · exact before ⟨row, kept.symm.trans found, unknown⟩
    · obtain rfl := Option.some.inj (changed.symm.trans found)
      exact settled old unknown

/-- After its recovery a bet is unknown exactly when it was and was not recorded; the other
bets are as before.
-/
theorem stillUnknown_recoverBet {answers : BetRecoveryAnswers} {id : String}
    : StillUnknown (recovery.recoverBet tables bet answers).1 id
      ↔ StillUnknown tables id ∧ (bet.id = id → ¬ Recorded recovery bet answers) := by
  cases established : recovery.establish bet answers with
  | error reason => simp [recoverBet_of_error established, Recorded, Reported, established]
  | ok settlement =>
      obtain ⟨evidence, status⟩ := settlement
      rw [(recoverBet_of_ok established).1]
      by_cases same : bet.id = id
      · subst same
        rw [stillUnknown_settlement]
        simp [Recorded, Reported, established]
      · rw [StillUnknown, get_update_of_ne (Ne.symm same)]
        simp [same, StillUnknown]

theorem isSome_get_recoverBet {answers : BetRecoveryAnswers} {id : String}
    (present : (tables.bets.get id).isSome = true)
    : ((recovery.recoverBet tables bet answers).1.bets.get id).isSome = true := by
  cases established : recovery.establish bet answers with
  | error reason => rwa [recoverBet_of_error established]
  | ok settlement =>
      rw [(recoverBet_of_ok established).1]
      exact isSome_get_update present

-----------------------------------------------------------------------------------------
-- The sweep
-----------------------------------------------------------------------------------------

variable {answers : String → BetRecoveryAnswers} {page : List BetRecord}

/-- After the loop a bet is unknown exactly when it was and none of the page recorded it, by
induction on the page.
-/
theorem stillUnknown_recoverAll {id : String}
    : StillUnknown (recovery.recoverAll answers tables page).1 id
      ↔ StillUnknown tables id
        ∧ ∀ bet ∈ page, bet.id = id → ¬ Recorded recovery bet (answers bet.id) := by
  induction page generalizing tables with
  | nil => simp [UnknownStateRecovery.recoverAll]
  | cons bet rest ih =>
      rw [UnknownStateRecovery.recoverAll, ih, stillUnknown_recoverBet, List.forall_mem_cons,
        and_assoc]

/-- The loop has a result for each bet of the page, and all of them are resolved exactly when
all bets are reported, by induction on the page.
-/
theorem recoverAll_results (present : ∀ bet ∈ page, (tables.bets.get bet.id).isSome = true)
    : (∀ result ∈ (recovery.recoverAll answers tables page).2, result.resolved = true)
      ↔ ∀ bet ∈ page, Reported recovery bet (answers bet.id) := by
  induction page generalizing tables with
  | nil => simp [UnknownStateRecovery.recoverAll]
  | cons bet rest ih =>
      obtain ⟨here, there⟩ := List.forall_mem_cons.mp present
      rw [UnknownStateRecovery.recoverAll, List.forall_mem_cons, List.forall_mem_cons,
        recoverBet_resolved_iff here,
        ih fun other member => isSome_get_recoverBet (there other member)]

/-- The bets that a sweep lists. -/
def Listed (recovery : UnknownStateRecovery) (tables : BetTables) (bet : BetRecord) : Prop :=
  ∃ page, tables.findByState .unknown recovery.maxBetsPerSweep false = .ok page ∧ bet ∈ page

theorem Listed.eq_mapRow (listed : Listed recovery tables bet) {row : BetRecord}
    (found : tables.bets.get bet.id = some row)
    : bet = mapRow { row with id := bet.id } := by
  obtain ⟨page, read, member⟩ := listed
  obtain ⟨id, stored, here, -, rfl⟩ := mem_findByState read member
  obtain rfl := Option.some.inj (here.symm.trans found)
  rfl

theorem Listed.stillUnknown (listed : Listed recovery tables bet)
    : StillUnknown tables bet.id := by
  obtain ⟨page, read, member⟩ := listed
  obtain ⟨id, row, found, unknown, rfl⟩ := mem_findByState read member
  exact ⟨row, found, unknown⟩

/-- A sweep that is not next to another one, and reads its page, leaves the bets unknown that
it did not list and record.
-/
theorem stillUnknown_sweep {pageFails : Bool} {id : String}
    : StillUnknown (recovery.runRecoverySweep tables pageFails answers).1 id
      ↔ StillUnknown tables id
        ∧ (recovery.isReconciling = false → pageFails = false → ∀ bet,
            Listed recovery tables bet → bet.id = id
            → ¬ Recorded recovery bet (answers bet.id)) := by
  unfold UnknownStateRecovery.runRecoverySweep
  cases reconciling : recovery.isReconciling with
  | true => simp
  | false =>
      cases pageFails with
      | true => simp [BetTables.findByState]
      | false =>
          simp only [Bool.false_eq_true, if_false, true_implies]
          cases read : tables.findByState .unknown recovery.maxBetsPerSweep false with
          | error code => cases read
          | ok page =>
              dsimp only
              rw [stillUnknown_recoverAll]
              simp [Listed, read]

/-- A sweep reports that no bet is still unknown exactly when it ran next to another one, or
read its page and reported all of it.
-/
theorem sweep_clears_iff {pageFails : Bool}
    : (∃ result, (recovery.runRecoverySweep tables pageFails answers).2 = .ok result
        ∧ result.stillUnknown = 0)
      ↔ recovery.isReconciling = false → pageFails = false ∧ ∀ bet,
          Listed recovery tables bet → Reported recovery bet (answers bet.id) := by
  unfold UnknownStateRecovery.runRecoverySweep
  cases reconciling : recovery.isReconciling with
  | true => simp
  | false =>
      cases pageFails with
      | true => simp [BetTables.findByState]
      | false =>
          simp only [Bool.false_eq_true, if_false, true_implies]
          cases read : tables.findByState .unknown recovery.maxBetsPerSweep false with
          | error code => cases read
          | ok page =>
              have present : ∀ bet ∈ page, (tables.bets.get bet.id).isSome = true := by
                intro bet member
                obtain ⟨id, row, found, -, rfl⟩ := mem_findByState read member
                simpa [mapRow] using congrArg Option.isSome found
              have cleared : ∀ results : List BetRecoveryResult,
                  results.length - results.countP (·.resolved) = 0
                    ↔ ∀ result ∈ results, result.resolved = true := by
                intro results
                rw [Nat.sub_eq_zero_iff_le, ← List.countP_eq_length]
                exact ⟨(List.countP_le_length).antisymm, ge_of_eq⟩
              simp [Listed, read, cleared, recoverAll_results present]

end CrashWave.Ledger
