import CrashWave.Settlement.SettlementService

/-! What keeps the settlements of one bet apart: only one transaction at a time has work for it,
and the work is that of one call.
-/

namespace CrashWave.MiniApp

open JavaScript Runs

/-- The statements of a settlement that a call at a position has executed, and not ended. -/
def CallPosition.done : CallPosition → List SettleStatement
  | .closed => [.closeBet]
  | .ensured => [.closeBet, .ensureBalance]
  | .credited => [.closeBet, .ensureBalance, .creditBalance]
  | _ => []

/-- A call has begun and is not over. -/
def CallPosition.underWay : CallPosition → Bool
  | .begun | .missed | .closed | .ensured | .credited => true
  | _ => false

/-- All that a call executes for a bet that it settles. -/
def settlementOf (call : Nat) : List (Nat × SettleStatement) :=
  [(call, .closeBet), (call, .ensureBalance), (call, .creditBalance)]

/-- The bet cannot be settled any more. -/
def BetClosed (tables : MiniAppTables) : Prop :=
  ∀ bet, tables.bet = some bet → bet.state.isOpen = false

section Statements

variable {inputs : Nat → SettleWinInput} {tables : MiniAppTables}

/-- A closed bet is settled by no call. -/
theorem BetClosed.not_settles (closed : BetClosed tables) (input : SettleWinInput)
    : input.settles tables = false := by
  unfold SettleWinInput.settles
  split
  · rename_i bet found
    simp [closed bet found]
  · rfl

/-- Closing it closes it. -/
theorem betClosed_execute (input : SettleWinInput) (tables : MiniAppTables)
    : BetClosed (input.execute tables .closeBet) := by
  intro bet found
  obtain ⟨before, _, rfl⟩ := Option.map_eq_some_iff.mp found
  rfl

/-- No statement opens a bet. -/
theorem BetClosed.execute (closed : BetClosed tables) (input : SettleWinInput)
    (statement : SettleStatement)
    : BetClosed (input.execute tables statement) := by
  cases statement with
  | closeBet => exact betClosed_execute input tables
  | ensureBalance => exact closed
  | creditBalance => exact closed

/-- Work that closes the bet first leaves it closed, by induction on the rest. -/
theorem betClosed_executeAll (call : Nat) (work : List (Nat × SettleStatement))
    : BetClosed (executeAll inputs tables ((call, .closeBet) :: work)) := by
  have kept : ∀ work tables, BetClosed tables → BetClosed (executeAll inputs tables work) := by
    intro work
    induction work with
    | nil => exact fun _ closed => closed
    | cons done rest ih => exact fun _ closed => ih _ (closed.execute (inputs done.1) done.2)
  exact kept work _ (betClosed_execute (inputs call) tables)

variable (inputs tables) in
/-- The tables after a settlement. -/
theorem executeAll_settlementOf (call : Nat)
    : (executeAll inputs tables (settlementOf call)).bet
        = tables.bet.map (fun bet =>
          { bet with
            state := .cashedOut
            cashoutMultiplier := some (inputs call).multiplier
            pnl := some (inputs call).pnl })
      ∧ (executeAll inputs tables (settlementOf call)).balances
        = Function.update tables.balances (inputs call).userId
          (some (((tables.balances (inputs call).userId).getD 0) + (inputs call).payout)) := by
  refine ⟨rfl, ?_⟩
  simp [executeAll, settlementOf, SettleWinInput.execute]

end Statements

-----------------------------------------------------------------------------------------
-- One settlement at a time
-----------------------------------------------------------------------------------------

section Invariant

variable (inputs : Nat → SettleWinInput) (initial : MiniAppTables) (system : SettlementSystem)

/-- The call has settled the bet, and that is committed. -/
structure Paid (call : Nat) : Prop where
  settles : (inputs call).settles initial = true
  credited : system.credited = [call]
  tables : system.tables = executeAll inputs initial (settlementOf call)

/-- The call is the one whose work its transaction holds. -/
structure Settling (call : Nat) : Prop where
  settles : (inputs call).settles initial = true
  position : (system.positions call).done ≠ []
    ∨ (system.positions call = .returned true ∧ (inputs call).client ≠ none
      ∧ (system.transactions ((inputs call).transaction call)).work = settlementOf call)

/-- The lock is held by a running transaction with the work of one call, and no other one has any
work; without it nothing is committed but the settlement of one call. A call that returned true
has its work in a running transaction, or is credited; a call with its own transaction that
found nothing to settle came after the credit.
-/
structure SettlesAlone : Prop where
  unlocked : ∀ id, system.lock ≠ some id → (system.transactions id).work = []
  worked : ∀ call,
    (system.transactions ((inputs call).transaction call)).status = .running →
    (system.positions call).done ≠ [] →
    (system.transactions ((inputs call).transaction call)).work
      = (system.positions call).done.map (call, ·)
  locked : ∀ id, system.lock = some id →
    (system.transactions id).status = .running ∧ system.credited = []
    ∧ system.tables = initial
    ∧ ∃ call, (inputs call).transaction call = id ∧ Settling inputs initial system call
  free : system.lock = none →
    (system.credited = [] ∧ system.tables = initial) ∨ ∃ call, Paid inputs initial system call
  wonOwn : ∀ call, system.positions call = .returned true → (inputs call).client = none →
    system.credited = [call]
  wonClient : ∀ call client, system.positions call = .returned true →
    (inputs call).client = some client →
    ((system.transactions (.client client)).status = .running →
      (system.transactions (.client client)).work = settlementOf call)
    ∧ ((system.transactions (.client client)).status = .committed →
      system.credited = [call])
  missed : ∀ call, system.positions call = .missed ∨ system.positions call = .returned false →
    (inputs call).client = none → (inputs call).settles initial = true → system.credited ≠ []
  listed : ∀ call client, (inputs call).client = some client →
    (system.positions call).underWay = true →
    call ∈ (system.transactions (.client client)).calls
  unopened : ∀ call client, (inputs call).client = some client →
    (system.transactions (.client client)).status = .unopened →
    system.positions call = .idle
  committed : ∀ client, (system.transactions (.client client)).status = .committed →
    (system.transactions (.client client)).calls = []

/-- A call with work in its own transaction has it running. -/
def OwnRunning : Prop :=
  ∀ call, (inputs call).client = none → (system.positions call).done ≠ [] →
    (system.transactions (.own call)).status = .running

/-- What every step keeps. -/
structure SettlesSafely : Prop where
  alone : SettlesAlone inputs initial system
  ownRunning : OwnRunning inputs system

end Invariant

section Steps

variable {inputs : Nat → SettleWinInput} {initial : MiniAppTables} {system : SettlementSystem}
  {call : Nat} {id : TransactionId}

theorem transaction_own (own : (inputs call).client = none)
    : (inputs call).transaction call = .own call := by
  simp [SettleWinInput.transaction, own]

theorem transaction_client {client : Nat} (handed : (inputs call).client = some client)
    : (inputs call).transaction call = .client client := by
  simp [SettleWinInput.transaction, handed]

/-- The calls in the transaction of a caller are those that it is handed to. -/
theorem client_of_transaction {client : Nat}
    (mine : (inputs call).transaction call = .client client)
    : (inputs call).client = some client := by
  unfold SettleWinInput.transaction at mine
  split at mine
  · cases mine
  · next holder handed => rw [handed, TransactionId.client.inj mine]

/-- Calls with the same transaction of their own are the same. -/
theorem eq_of_own {other : Nat} (same : (inputs other).transaction other = .own call)
    : other = call := by
  unfold SettleWinInput.transaction at same
  split at same
  · exact TransactionId.own.inj same
  · cases same

theorem positions_move (system : SettlementSystem) (call : Nat) (position : CallPosition)
    (other : Nat)
    : (system.move call position).positions other
      = if other = call then position else system.positions other :=
  Function.update_apply _ _ _ _

theorem transactions_setTransaction (system : SettlementSystem) (id : TransactionId)
    (txn : SettleTransaction) (other : TransactionId)
    : (system.setTransaction id txn).transactions other
      = if other = id then txn else system.transactions other :=
  Function.update_apply _ _ _ _

/-- Nothing has begun. -/
theorem settlesAlone_initial (inputs : Nat → SettleWinInput) (initial : MiniAppTables)
    : SettlesAlone inputs initial { tables := initial } where
  unlocked _ _ := rfl
  worked _ _ working := absurd rfl working
  locked _ held := by cases held
  free _ := .inl ⟨rfl, rfl⟩
  wonOwn _ won := by cases won
  wonClient _ _ won := by cases won
  missed _ position := by rcases position with position | position <;> cases position
  listed _ _ _ under := by cases under
  unopened _ _ _ _ := rfl
  committed _ done := by cases done

/-- What is committed without the lock is kept by a step that commits nothing. -/
theorem SettlesAlone.free_of_eq (alone : SettlesAlone inputs initial system)
    {after : SettlementSystem} (free : system.lock = none)
    (credited : after.credited = system.credited) (tables : after.tables = system.tables)
    : (after.credited = [] ∧ after.tables = initial)
      ∨ ∃ call, Paid inputs initial after call := by
  rcases alone.free free with ⟨uncredited, same⟩ | ⟨call, paid⟩
  · exact .inl ⟨credited.trans uncredited, tables.trans same⟩
  · exact .inr ⟨call, paid.settles, credited.trans paid.credited, tables.trans paid.tables⟩

/-- A call that holds no work moves to where it holds none. -/
theorem SettlesAlone.move (alone : SettlesAlone inputs initial system) {position : CallPosition}
    (holds : ∀ id, system.lock = some id → (inputs call).transaction call = id →
      (system.positions call).done = [] ∧ system.positions call ≠ .returned true)
    (done : position.done = [])
    (won : position = .returned true → (inputs call).client = none ∧ system.credited = [call])
    (missed : position = .missed ∨ position = .returned false → (inputs call).client = none →
      (inputs call).settles initial = true → system.credited ≠ [])
    (listed : ∀ client, (inputs call).client = some client → position.underWay = true →
      call ∈ (system.transactions (.client client)).calls)
    (opened : ∀ client, (inputs call).client = some client →
      (system.transactions (.client client)).status ≠ .unopened)
    : SettlesAlone inputs initial (system.move call position) := by
  have at' := positions_move system call position
  refine ⟨alone.unlocked, ?_, ?_, ?_, ?_, ?_, ?_, ?_, ?_,
    alone.committed⟩
  · intro other running working
    rw [at'] at working ⊢
    split at working
    · exact absurd done working
    · next differs =>
        rw [if_neg differs]
        exact alone.worked other running working
  · intro id held
    obtain ⟨running, uncredited, same, other, mine, settling⟩ := alone.locked id held
    refine ⟨running, uncredited, same, other, mine, settling.settles, ?_⟩
    have differs : other ≠ call := by
      rintro rfl
      obtain ⟨idle, notWon⟩ := holds id held mine
      rcases settling.position with working | ⟨won, _⟩
      · exact working idle
      · exact notWon won
    rw [at', if_neg differs]
    exact settling.position
  · exact fun free => alone.free_of_eq free rfl rfl
  · intro other returned own
    rw [at'] at returned
    split at returned
    · next same => exact same ▸ (won returned).2
    · exact alone.wonOwn other returned own
  · intro other client returned handed
    rw [at'] at returned
    split at returned
    · next same =>
        have own := (won returned).1
        rw [← same, handed] at own
        cases own
    · exact alone.wonClient other client returned handed
  · intro other gone own settles
    rw [at'] at gone
    split at gone
    · next same =>
        subst same
        exact missed gone own settles
    · exact alone.missed other gone own settles
  · intro other client handed under
    rw [at'] at under
    split at under
    · next same =>
        subst same
        exact listed client handed under
    · exact alone.listed other client handed under
  · intro other client handed unopened
    rw [at']
    split
    · next same =>
        subst same
        exact absurd unopened (opened client handed)
    · exact alone.unopened other client handed unopened

/-- The calls in a transaction change, and those under way are among them. -/
theorem SettlesAlone.setCalls (alone : SettlesAlone inputs initial system) (calls : List Nat)
    (listed : ∀ call, (inputs call).transaction call = id →
      (system.positions call).underWay = true → call ∈ calls)
    (ended : (system.transactions id).status = .committed →
      (system.transactions id).calls = [] → calls = [])
    : SettlesAlone inputs initial
      (system.setTransaction id { system.transactions id with calls }) := by
  have at' := transactions_setTransaction system id { system.transactions id with calls }
  have status : ∀ other, ((system.setTransaction id
      { system.transactions id with calls }).transactions other).status
      = (system.transactions other).status := by
    intro other
    rw [at']
    split
    · next same => rw [same]
    · rfl
  have work : ∀ other, ((system.setTransaction id
      { system.transactions id with calls }).transactions other).work
      = (system.transactions other).work := by
    intro other
    rw [at']
    split
    · next same => rw [same]
    · rfl
  refine ⟨?_, ?_, ?_, ?_, alone.wonOwn, ?_, alone.missed, ?_, ?_, ?_⟩
  · intro other unheld
    rw [work]
    exact alone.unlocked other unheld
  · intro call
    rw [status, work]
    exact alone.worked call
  · intro other held
    obtain ⟨running, uncredited, same, call, mine, settling⟩ := alone.locked other held
    refine ⟨(status other).trans running, uncredited, same, call, mine, settling.settles, ?_⟩
    rw [work]
    exact settling.position
  · exact fun free => alone.free_of_eq free rfl rfl
  · intro call client
    rw [status, work]
    exact alone.wonClient call client
  · intro call client handed under
    rw [at']
    split
    · next same => exact listed call ((transaction_client handed).trans same) under
    · exact alone.listed call client handed under
  · intro call client
    rw [status]
    exact alone.unopened call client
  · intro client
    rw [status, at']
    split
    · next same =>
        subst same
        exact fun done => ended done (alone.committed client done)
    · exact alone.committed client

/-- A transaction has ended with a status and without work, and no call has moved. -/
structure Ended (system : SettlementSystem) (id : TransactionId) (status : TransactionStatus)
    (after : SettlementSystem) : Prop where
  transactions : ∀ other, after.transactions other
    = if other = id then { system.transactions id with status, work := [] }
      else system.transactions other
  positions : after.positions = system.positions

section Ended

variable {status : TransactionStatus} {after : SettlementSystem}

theorem Ended.worked (ended : Ended system id status after)
    (alone : SettlesAlone inputs initial system) (finished : status ≠ .running)
    : ∀ call,
      (after.transactions ((inputs call).transaction call)).status = .running →
      (after.positions call).done ≠ [] →
      (after.transactions ((inputs call).transaction call)).work
        = (after.positions call).done.map (call, ·) := by
  intro call running working
  rw [ended.positions] at working ⊢
  rw [ended.transactions] at running ⊢
  split at running
  · exact absurd running finished
  · next differs =>
      rw [if_neg differs]
      exact alone.worked call running working

theorem Ended.listed (ended : Ended system id status after)
    (alone : SettlesAlone inputs initial system)
    : ∀ call client, (inputs call).client = some client →
      (after.positions call).underWay = true →
      call ∈ (after.transactions (.client client)).calls := by
  intro call client handed under
  rw [ended.positions] at under
  rw [ended.transactions]
  split
  · next same => exact same ▸ alone.listed call client handed under
  · exact alone.listed call client handed under

theorem Ended.unopened (ended : Ended system id status after)
    (alone : SettlesAlone inputs initial system) (opened : status ≠ .unopened)
    : ∀ call client, (inputs call).client = some client →
      (after.transactions (.client client)).status = .unopened →
      after.positions call = .idle := by
  intro call client handed unopened
  rw [ended.positions]
  rw [ended.transactions] at unopened
  split at unopened
  · exact absurd unopened opened
  · exact alone.unopened call client handed unopened

/-- The end of another transaction leaves the one with the lock. -/
theorem Ended.locked (ended : Ended system id status after)
    (alone : SettlesAlone inputs initial system) {other : TransactionId} (differs : other ≠ id)
    (held : system.lock = some other) (credited : after.credited = system.credited)
    (tables : after.tables = system.tables)
    : (after.transactions other).status = .running ∧ after.credited = []
      ∧ after.tables = initial
      ∧ ∃ call, (inputs call).transaction call = other ∧ Settling inputs initial after call := by
  obtain ⟨running, uncredited, same, call, mine, settling⟩ := alone.locked other held
  refine ⟨?_, credited.trans uncredited, tables.trans same, call, mine, settling.settles, ?_⟩
  · rw [ended.transactions, if_neg differs]
    exact running
  · rw [ended.positions, ended.transactions, mine, if_neg differs, ← mine]
    exact settling.position

end Ended

theorem ended_discard (system : SettlementSystem) (id : TransactionId) (status : TransactionStatus)
    : Ended system id status (system.discard id status) where
  transactions _ := Function.update_apply _ _ _ _
  positions := rfl

variable (inputs) in
theorem ended_commit (running : (system.transactions id).status = .running)
    : Ended system id .committed (system.commit inputs id) := by
  have ended := ended_discard system id .committed
  constructor
  · intro other
    rw [SettlementSystem.commit, if_pos running]
    exact ended.transactions other
  · rw [SettlementSystem.commit, if_pos running]
    exact ended.positions

/-- A transaction ends without effect. -/
theorem SettlesAlone.discard (alone : SettlesAlone inputs initial system)
    {status : TransactionStatus} (finished : status ≠ .running) (uncommitted : status ≠ .committed)
    (opened : status ≠ .unopened)
    : SettlesAlone inputs initial (system.discard id status) := by
  have ended := ended_discard system id status
  have lock : ∀ other, (system.discard id status).lock = some other →
      other ≠ id ∧ system.lock = some other := by
    intro other held
    simp only [SettlementSystem.discard] at held
    split at held
    · cases held
    · next free =>
        refine ⟨?_, held⟩
        rintro rfl
        exact free held
  refine ⟨?_, ended.worked alone finished, ?_, ?_, alone.wonOwn, ?_, alone.missed,
    ended.listed alone, ended.unopened alone opened, ?_⟩
  · intro other unheld
    rw [ended.transactions]
    split
    · rfl
    · next differs =>
        apply alone.unlocked other
        intro held
        apply unheld
        simp only [SettlementSystem.discard]
        rw [if_neg]
        · exact held
        · rw [held]
          exact fun same => differs (Option.some.inj same)
  · intro other held
    obtain ⟨differs, before⟩ := lock other held
    exact ended.locked alone differs before rfl rfl
  · intro _
    cases held : system.lock with
    | none => exact alone.free_of_eq held rfl rfl
    | some other =>
        obtain ⟨_, uncredited, same, _⟩ := alone.locked other held
        exact .inl ⟨uncredited, same⟩
  · intro call client returned handed
    rw [ended.transactions]
    split
    · exact ⟨fun running => absurd running finished, fun done => absurd done uncommitted⟩
    · exact alone.wonClient call client returned handed
  · intro client done
    rw [ended.transactions] at done ⊢
    split at done
    · exact absurd done uncommitted
    · next differs =>
        rw [if_neg differs]
        exact alone.committed client done

/-- A transaction begins in which no call is under way. -/
theorem SettlesAlone.start (alone : SettlesAlone inputs initial system)
    (free : system.lock ≠ some id)
    (idle : ∀ call, (inputs call).transaction call = id → system.positions call = .idle)
    : SettlesAlone inputs initial (system.setTransaction id { status := .running }) := by
  have at' := transactions_setTransaction system id { status := .running }
  refine ⟨?_, ?_, ?_, ?_, alone.wonOwn, ?_, alone.missed, ?_, ?_, ?_⟩
  · intro other unheld
    rw [at']
    split
    · rfl
    · exact alone.unlocked other unheld
  · intro call running working
    have differs : (inputs call).transaction call ≠ id := by
      intro same
      have waiting : system.positions call = .idle := idle call same
      exact working (by rw [show (system.setTransaction id _).positions call = .idle from waiting]
                        rfl)
    rw [at', if_neg differs] at running ⊢
    exact alone.worked call running working
  · intro other held
    obtain ⟨running, uncredited, same, call, mine, settling⟩ := alone.locked other held
    have differs : other ≠ id := by
      rintro rfl
      exact free held
    refine ⟨?_, uncredited, same, call, mine, settling.settles, ?_⟩
    · rw [at', if_neg differs]
      exact running
    · rw [at', mine, if_neg differs, ← mine]
      exact settling.position
  · exact fun unheld => alone.free_of_eq unheld rfl rfl
  · intro call client returned handed
    have differs : TransactionId.client client ≠ id := by
      rintro rfl
      have waiting := idle call (transaction_client handed)
      rw [show system.positions call = .returned true from returned] at waiting
      cases waiting
    rw [at', if_neg differs]
    exact alone.wonClient call client returned handed
  · intro call client handed under
    have differs : TransactionId.client client ≠ id := by
      rintro rfl
      have waiting := idle call (transaction_client handed)
      rw [show (system.setTransaction _ _).positions call = .idle from waiting] at under
      cases under
    rw [at', if_neg differs]
    exact alone.listed call client handed under
  · intro call client handed unopened
    rw [at'] at unopened
    split at unopened
    · cases unopened
    · exact alone.unopened call client handed unopened
  · intro client done
    rw [at'] at done ⊢
    split at done
    · cases done
    · next differs =>
        rw [if_neg differs]
        exact alone.committed client done

/-- A call of a caller whose work is done returns, and leaves it to its caller. -/
theorem SettlesAlone.win (alone : SettlesAlone inputs initial system) {client : Nat}
    (handed : (inputs call).client = some client) (credited : system.positions call = .credited)
    : SettlesAlone inputs initial (system.move call (.returned true)) := by
  have at' := positions_move system call (.returned true)
  have working : (system.positions call).done ≠ [] := by
    rw [credited]
    exact List.cons_ne_nil _ _
  have own : (inputs call).transaction call = .client client := transaction_client handed
  have work : (system.transactions (.client client)).status = .running →
      (system.transactions (.client client)).work = settlementOf call := by
    intro running
    have all := alone.worked call (own ▸ running) working
    rw [own, credited] at all
    exact all
  have idle : ∀ other, (system.move call (.returned true)).positions other = system.positions other
      ∨ other = call := by
    intro other
    rw [at']
    split
    · next same => exact .inr same
    · exact .inl rfl
  refine ⟨alone.unlocked, ?_, ?_, ?_, ?_, ?_, ?_, ?_, ?_,
    alone.committed⟩
  · intro other running busy
    rcases idle other with same | rfl
    · rw [same] at busy ⊢
      exact alone.worked other running busy
    · rw [at', if_pos rfl] at busy
      exact absurd rfl busy
  · intro id held
    obtain ⟨running, uncredited, same, other, mine, settling⟩ := alone.locked id held
    refine ⟨running, uncredited, same, other, mine, settling.settles, ?_⟩
    rcases idle other with kept | rfl
    · rw [kept]
      exact settling.position
    · rw [at', if_pos rfl]
      refine .inr ⟨rfl, by simp [handed], ?_⟩
      have running' : (system.transactions (.client client)).status = .running := by
        rw [← own, mine]
        exact running
      rw [own]
      exact work running'
  · exact fun free => alone.free_of_eq free rfl rfl
  · intro other returned mine
    rcases idle other with same | rfl
    · exact alone.wonOwn other (same ▸ returned) mine
    · rw [handed] at mine
      cases mine
  · intro other holder returned given
    rcases idle other with same | rfl
    · exact alone.wonClient other holder (same ▸ returned) given
    · obtain rfl : client = holder := Option.some.inj (handed.symm.trans given)
      refine ⟨work, ?_⟩
      intro committed
      have member := alone.listed _ client handed (by rw [credited]; rfl)
      rw [alone.committed client committed] at member
      cases member
  · intro other gone mine
    rcases idle other with same | rfl
    · exact alone.missed other (same ▸ gone) mine
    · rw [handed] at mine
      cases mine
  · intro other holder given under
    rcases idle other with same | rfl
    · exact alone.listed other holder given (same ▸ under)
    · rw [at', if_pos rfl] at under
      cases under
  · intro other holder given unopened
    rcases idle other with same | rfl
    · exact same ▸ alone.unopened other holder given unopened
    · have waiting := alone.unopened other holder given unopened
      rw [credited] at waiting
      cases waiting

/-- The work of one call is not that of another one. -/
theorem eq_of_work {other : Nat} {statements more : List SettleStatement}
    (some : statements ≠ [])
    (same : statements.map (other, ·) = more.map (call, ·)) : other = call := by
  cases statements with
  | nil => exact absurd rfl some
  | cons first rest =>
      cases more with
      | nil => cases same
      | cons second last => exact (Prod.mk.inj (List.cons.inj same).1).1

/-- While a transaction holds the work of a call, or none, no other call has work in it. -/
theorem SettlesAlone.only (alone : SettlesAlone inputs initial system)
    (running : (system.transactions id).status = .running) {statements : List SettleStatement}
    (work : (system.transactions id).work = statements.map (call, ·))
    : ∀ other ≠ call, (inputs other).transaction other = id →
      (system.positions other).done = []
      ∧ (system.positions other = .returned true → (inputs other).client = none) := by
  intro other differs mine
  constructor
  · by_contra working
    have theirs := alone.worked other (mine ▸ running) working
    rw [mine, work] at theirs
    exact differs (eq_of_work working theirs.symm)
  · intro returned
    cases handed : (inputs other).client with
    | none => rfl
    | some client =>
        have held : id = .client client := mine.symm.trans (transaction_client handed)
        have theirs := (alone.wonClient other client returned handed).1 (held ▸ running)
        rw [← held, work] at theirs
        have all : settlementOf other
            = [.closeBet, .ensureBalance, .creditBalance].map (other, ·) := rfl
        exact absurd (eq_of_work (List.cons_ne_nil _ _) (all ▸ theirs).symm) differs

/-- A call executes its next statement, and its transaction has the lock. -/
theorem SettlesAlone.record (alone : SettlesAlone inputs initial system)
    {statement : SettleStatement} {position : CallPosition}
    (mine : (inputs call).transaction call = id)
    (running : (system.transactions id).status = .running)
    (under : (system.positions call).underWay = true)
    (untouched : system.credited = [] ∧ system.tables = initial)
    (settles : (inputs call).settles initial = true)
    (lock : system.lock = none ∨ system.lock = some id)
    (work : (system.transactions id).work = (system.positions call).done.map (call, ·))
    (next : position.done = (system.positions call).done ++ [statement])
    (still : position.underWay = true)
    : SettlesAlone inputs initial
      ({ system.append id call statement with lock := some id }.move call position) := by
  have only := alone.only running work
  have at' : ∀ other, (Function.update system.transactions id
      { system.transactions id with
        work := (system.transactions id).work ++ [(call, statement)] }) other
      = if other = id then
          { system.transactions id with
            work := (system.transactions id).work ++ [(call, statement)] }
        else system.transactions other := fun other => Function.update_apply _ _ _ _
  have moved : ∀ other, Function.update system.positions call position other
      = if other = call then position else system.positions other := fun other =>
    Function.update_apply _ _ _ _
  have working : position.done ≠ [] := by
    rw [next]
    simp
  have notMissed : position ≠ .missed := by
    rintro rfl
    exact working rfl
  have notReturned : ∀ ok, position ≠ .returned ok := by
    rintro ok rfl
    exact working rfl
  refine ⟨?_, ?_, ?_, ?_, ?_, ?_, ?_, ?_, ?_, ?_⟩ <;>
    simp only [SettlementSystem.move, SettlementSystem.append, SettlementSystem.setTransaction]
  · intro other unheld
    have differs : other ≠ id := fun same => unheld (same ▸ rfl)
    rw [at', if_neg differs]
    refine alone.unlocked other ?_
    rcases lock with free | held
    · simp [free]
    · rw [held]
      exact fun same => differs (Option.some.inj same).symm
  · intro other active busy
    rw [moved] at busy ⊢
    split at busy
    · next same =>
        subst same
        rw [mine, at', if_pos rfl, if_pos rfl, next, List.map_append, work]
        rfl
    · next differs =>
        rw [if_neg differs]
        have apart : (inputs other).transaction other ≠ id := fun same =>
          busy (only other differs same).1
        rw [at', if_neg apart] at active ⊢
        exact alone.worked other active busy
  · intro other held
    obtain rfl : id = other := Option.some.inj held
    rw [at', if_pos rfl]
    refine ⟨running, untouched.1, untouched.2, call, mine, settles, .inl ?_⟩
    simp only [moved, if_true]
    exact working
  · intro held
    cases held
  · intro other returned own
    rw [moved] at returned
    split at returned
    · exact absurd returned (notReturned true)
    · exact alone.wonOwn other returned own
  · intro other client returned handed
    rw [moved] at returned
    split at returned
    · exact absurd returned (notReturned true)
    · next differs =>
        have apart : TransactionId.client client ≠ id := by
          intro same
          have own := (only other differs ((transaction_client handed).trans same)).2 returned
          rw [handed] at own
          cases own
        rw [at', if_neg apart]
        exact alone.wonClient other client returned handed
  · intro other gone own
    rw [moved] at gone
    split at gone
    · rcases gone with gone | gone
      · exact absurd gone notMissed
      · exact absurd gone (notReturned false)
    · exact alone.missed other gone own
  · intro other client handed active
    have member : other ∈ (system.transactions (.client client)).calls := by
      rw [moved] at active
      split at active
      · next same =>
          subst same
          exact alone.listed other client handed under
      · exact alone.listed other client handed active
    rw [at']
    split
    · next same => exact same ▸ member
    · exact member
  · intro other client handed unopened
    rw [at'] at unopened
    split at unopened
    · exact absurd (unopened.symm.trans running) (by decide)
    · next apart =>
        rw [moved, if_neg]
        · exact alone.unopened other client handed unopened
        · rintro rfl
          exact apart ((transaction_client handed).symm.trans mine)
  · intro client done
    rw [at'] at done ⊢
    split at done
    · exact absurd (done.symm.trans running) (by decide)
    · next apart =>
        rw [if_neg apart]
        exact alone.committed client done

variable (inputs) in
/-- A transaction without work commits nothing. -/
theorem commit_of_idle (running : (system.transactions id).status = .running)
    (idle : (system.transactions id).work = [])
    : (system.commit inputs id).credited = system.credited
      ∧ (system.commit inputs id).tables = system.tables := by
  simp [SettlementSystem.commit, running, idle, executeAll]

variable (inputs) in
/-- A transaction with a settlement commits it. -/
theorem commit_of_settlement (running : (system.transactions id).status = .running)
    (work : (system.transactions id).work = settlementOf call)
    : (system.commit inputs id).credited = system.credited ++ [call]
      ∧ (system.commit inputs id).tables
        = executeAll inputs system.tables (settlementOf call) := by
  simp [SettlementSystem.commit, running, work, settlementOf]

/-- A running transaction commits with the whole settlement of a call, or without work. -/
theorem SettlesAlone.commit (alone : SettlesAlone inputs initial system)
    (running : (system.transactions id).status = .running)
    (whole : system.lock = some id →
      ∃ call, (inputs call).settles initial = true
        ∧ (system.transactions id).work = settlementOf call)
    (emptied : ∀ client, id = .client client → (system.transactions id).calls = [])
    : SettlesAlone inputs initial (system.commit inputs id) := by
  have ended := ended_commit inputs running
  have lock : (system.commit inputs id).lock = (system.discard id .committed).lock := by
    simp [SettlementSystem.commit, running]
  have committed : ∀ client,
      ((system.commit inputs id).transactions (.client client)).status = .committed →
      ((system.commit inputs id).transactions (.client client)).calls = [] := by
    intro client done
    rw [ended.transactions] at done ⊢
    split
    · next mine => exact emptied client mine.symm
    · next differs =>
        rw [if_neg differs] at done
        exact alone.committed client done
  by_cases held : system.lock = some id
  · obtain ⟨_, uncredited, same, _⟩ := alone.locked id held
    obtain ⟨call, settles, work⟩ := whole held
    obtain ⟨credited, tables⟩ := commit_of_settlement inputs running work
    rw [uncredited, List.nil_append] at credited
    rw [same] at tables
    have unlocked : (system.commit inputs id).lock = none := by
      rw [lock, SettlementSystem.discard, held]
      exact if_pos rfl
    refine ⟨?_, ended.worked alone (by decide), ?_,
      fun _ => .inr ⟨call, settles, credited, tables⟩, ?_, ?_, ?_, ended.listed alone,
      ended.unopened alone (by decide), committed⟩
    · intro other _
      rw [ended.transactions]
      split
      · rfl
      · next differs =>
          refine alone.unlocked other ?_
          rw [held]
          exact fun same => differs (Option.some.inj same).symm
    · intro other locked
      rw [unlocked] at locked
      cases locked
    · intro other returned own
      rw [ended.positions] at returned
      have before := alone.wonOwn other returned own
      rw [uncredited] at before
      cases before
    · intro other client returned handed
      rw [ended.positions] at returned
      obtain ⟨active, done⟩ := alone.wonClient other client returned handed
      rw [ended.transactions]
      split
      · next mine =>
          refine ⟨fun running => (by cases running), fun _ => ?_⟩
          have theirs := active (mine ▸ running)
          rw [mine, work] at theirs
          have first := (List.cons.inj theirs).1
          rw [credited, (Prod.mk.inj first).1]
      · refine ⟨active, fun finished => ?_⟩
        have before := done finished
        rw [uncredited] at before
        cases before
    · intro other _ _ _
      rw [credited]
      exact List.cons_ne_nil _ _
  · have idle := alone.unlocked id held
    obtain ⟨credited, tables⟩ := commit_of_idle inputs running idle
    have still : (system.commit inputs id).lock = system.lock := by
      rw [lock, SettlementSystem.discard]
      exact if_neg held
    refine ⟨?_, ended.worked alone (by decide), ?_, ?_, ?_, ?_, ?_, ended.listed alone,
      ended.unopened alone (by decide), committed⟩
    · intro other unheld
      rw [ended.transactions]
      split
      · rfl
      · exact alone.unlocked other (still ▸ unheld)
    · intro other locked
      rw [still] at locked
      have differs : other ≠ id := by
        rintro rfl
        exact held locked
      exact ended.locked alone differs locked credited tables
    · exact fun free => alone.free_of_eq (still ▸ free) credited tables
    · intro other returned own
      rw [ended.positions] at returned
      exact credited.trans (alone.wonOwn other returned own)
    · intro other client returned handed
      rw [ended.positions] at returned
      obtain ⟨active, done⟩ := alone.wonClient other client returned handed
      rw [ended.transactions, credited]
      split
      · next mine =>
          have theirs := active (mine ▸ running)
          rw [mine, idle] at theirs
          cases theirs
      · exact ⟨active, done⟩
    · intro other
      rw [ended.positions, credited]
      exact alone.missed other

end Steps

end CrashWave.MiniApp
