import CrashWave.Settlement.SettlementWork

/-! Over any interleaving of `settleWin` calls for one bet its payout is credited once. -/

namespace CrashWave.MiniApp

open JavaScript Runs

section Steps

variable {inputs : Nat → SettleWinInput} {initial : MiniAppTables} {system : SettlementSystem}
  {call : Nat} {id : TransactionId}

-----------------------------------------------------------------------------------------
-- The steps of a call
-----------------------------------------------------------------------------------------

theorem done_eq_nil {position : CallPosition} (ended : position.underWay = false)
    : position.done = [] := by
  cases position <;> first | rfl | cases ended

/-- A transaction that is discarded has no lock. -/
theorem discard_unlocked (system : SettlementSystem) (id : TransactionId)
    (status : TransactionStatus)
    : (system.discard id status).lock ≠ some id := by
  simp only [SettlementSystem.discard]
  split
  · exact (Option.some_ne_none id).symm
  · assumption

/-- What a call with work in a running transaction has: the lock, for a bet that it settles. -/
theorem SettlesAlone.holder (alone : SettlesAlone inputs initial system)
    (mine : (inputs call).transaction call = id)
    (running : (system.transactions id).status = .running)
    (working : (system.positions call).done ≠ [])
    : system.lock = some id ∧ system.credited = [] ∧ system.tables = initial
      ∧ (inputs call).settles initial = true
      ∧ (system.transactions id).work = (system.positions call).done.map (call, ·) := by
  have work := alone.worked call (mine ▸ running) working
  rw [mine] at work
  have held : system.lock = some id := by
    by_contra unheld
    rw [alone.unlocked id unheld] at work
    exact working (List.map_eq_nil_iff.mp work.symm)
  obtain ⟨_, uncredited, same, other, theirs, settling⟩ := alone.locked id held
  have single : other = call := by
    by_contra differs
    obtain ⟨idle, own⟩ := alone.only running work other differs theirs
    rcases settling.position with busy | ⟨returned, handed, _⟩
    · exact busy idle
    · exact handed (own returned)
  exact ⟨held, uncredited, same, single ▸ settling.settles, work⟩

/-- A call whose own transaction has no work has no lock. -/
theorem SettlesAlone.not_held (alone : SettlesAlone inputs initial system)
    (own : (inputs call).client = none) (idle : (system.positions call).done = [])
    : system.lock ≠ some (.own call) := by
  intro held
  obtain ⟨_, _, _, other, mine, settling⟩ := alone.locked _ held
  obtain rfl := eq_of_own mine
  rcases settling.position with busy | ⟨_, handed, _⟩
  · exact busy idle
  · exact handed own

/-- What the lock stands for: the bet is closed in the eyes of its transaction. -/
theorem SettlesAlone.closed (alone : SettlesAlone inputs initial system)
    (held : system.lock = some id)
    : BetClosed (executeAll inputs system.tables (system.transactions id).work) := by
  obtain ⟨running, _, _, other, mine, settling⟩ := alone.locked id held
  rcases settling.position with busy | ⟨_, _, work⟩
  · have work := alone.worked other (mine ▸ running) busy
    rw [mine] at work
    rw [work]
    cases position : system.positions other <;> rw [position] at busy <;>
      first
      | exact absurd rfl busy
      | exact betClosed_executeAll other _
  · rw [mine] at work
    rw [work]
    exact betClosed_executeAll other _

/-- A call that is over leaves the transaction of its caller. -/
theorem SettlesAlone.leave (alone : SettlesAlone inputs initial system)
    (ended : (system.positions call).underWay = false)
    (handed : ∃ client, id = .client client)
    : SettlesAlone inputs initial (system.leave id call) := by
  obtain ⟨client, rfl⟩ := handed
  refine alone.setCalls _ ?_ ?_
  · intro other mine under
    have member := alone.listed other client (client_of_transaction mine) under
    refine List.mem_filter.mpr ⟨member, decide_eq_true ?_⟩
    rintro rfl
    rw [ended] at under
    cases under
  · intro _ empty
    rw [empty]
    rfl

theorem SettlesAlone.reject (alone : SettlesAlone inputs initial system)
    : SettlesAlone inputs initial (system.reject inputs call) := by
  unfold SettlementSystem.reject
  cases handed : (inputs call).client with
  | none =>
      rw [transaction_own handed]
      refine (alone.discard (by decide) (by decide) (by decide)).move ?_ rfl nofun
        (fun position => by rcases position with position | position <;> cases position)
        (fun client given => by rw [handed] at given; cases given)
        (fun client given => by rw [handed] at given; cases given)
      intro id held mine
      rw [transaction_own handed] at mine
      exact absurd held (mine ▸ discard_unlocked system (.own call) .rolledBack)
  | some client =>
      rw [transaction_client handed]
      have moved : SettlesAlone inputs initial
          ((system.discard (.client client) .aborted).move call .failed) := by
        refine (alone.discard (by decide) (by decide) (by decide)).move ?_ rfl nofun
          (fun position => by rcases position with position | position <;> cases position)
          (fun _ _ under => by cases under) ?_
        · intro id held mine
          rw [transaction_client handed] at mine
          exact absurd held (mine ▸ discard_unlocked system (.client client) .aborted)
        · intro holder given
          obtain rfl : client = holder := Option.some.inj (handed.symm.trans given)
          simp [SettlementSystem.discard, SettlementSystem.setTransaction]
      refine moved.leave ?_ ⟨client, rfl⟩
      simp [SettlementSystem.move, CallPosition.underWay]

theorem SettlesAlone.begin (alone : SettlesAlone inputs initial system)
    (idle : system.positions call = .idle)
    : SettlesAlone inputs initial (system.begin inputs call) := by
  unfold SettlementSystem.begin
  cases handed : (inputs call).client with
  | none =>
      rw [transaction_own handed]
      have free : system.lock ≠ some (.own call) := alone.not_held handed (by rw [idle]; rfl)
      refine (alone.start free ?_).move ?_ rfl nofun
        (fun position => by rcases position with position | position <;> cases position)
        (fun client given => by rw [handed] at given; cases given)
        (fun client given => by rw [handed] at given; cases given)
      · intro other mine
        rw [eq_of_own mine, idle]
      · intro id held mine
        rw [transaction_own handed] at mine
        exact absurd held (mine ▸ free)
  | some client =>
      rw [transaction_client handed]
      dsimp only
      split
      · next open' =>
          refine (alone.setCalls _ ?_ ?_).move ?_ rfl nofun
            (fun position => by rcases position with position | position <;> cases position)
            ?_ ?_
          · intro other mine under
            exact List.mem_cons_of_mem _
              (alone.listed other client (client_of_transaction mine) under)
          · intro committed
            rcases open' with status | status <;> rw [status] at committed <;> cases committed
          · intro id held mine
            refine ⟨by rw [show (system.setTransaction _ _).positions call = .idle from idle]; rfl,
              ?_⟩
            rw [show (system.setTransaction _ _).positions call = .idle from idle]
            exact CallPosition.noConfusion
          · intro holder given _
            obtain rfl : client = holder := Option.some.inj (handed.symm.trans given)
            simp [SettlementSystem.setTransaction]
          · intro holder given
            obtain rfl : client = holder := Option.some.inj (handed.symm.trans given)
            rcases open' with status | status <;>
              simp [SettlementSystem.setTransaction, status]
      · exact alone

theorem SettlesAlone.closeBet (alone : SettlesAlone inputs initial system)
    (begun : system.positions call = .begun)
    (running : (system.transactions ((inputs call).transaction call)).status = .running)
    : SettlesAlone inputs initial (system.closeBet inputs call) := by
  unfold SettlementSystem.closeBet
  dsimp only
  have under : (system.positions call).underWay = true := by rw [begun]; rfl
  split
  · next settles =>
      split
      · next lock =>
          have free : system.lock = none := by
            rcases lock with free | held
            · exact free
            · rw [(alone.closed held).not_settles] at settles
              cases settles
          have work : (system.transactions ((inputs call).transaction call)).work = [] :=
            alone.unlocked _ (by simp [free])
          rw [work] at settles
          rcases alone.free free with untouched | ⟨other, paid⟩
          · refine alone.record rfl running under untouched (untouched.2 ▸ settles) lock
              ?_ ?_ rfl
            · rw [work, begun]
              rfl
            · rw [begun]
              rfl
          · have closed : BetClosed system.tables := paid.tables ▸ betClosed_executeAll other _
            rw [show executeAll inputs system.tables [] = system.tables from rfl,
              closed.not_settles] at settles
            cases settles
      · exact alone
  · next unsettled =>
      refine alone.move ?_ rfl nofun ?_ ?_ ?_
      · intro id _ _
        rw [begun]
        exact ⟨rfl, CallPosition.noConfusion⟩
      · intro _ own settles
        have unheld : system.lock ≠ some ((inputs call).transaction call) := by
          rw [transaction_own own]
          exact alone.not_held own (by rw [begun]; rfl)
        rw [alone.unlocked _ unheld] at unsettled
        intro uncredited
        apply unsettled
        cases lock : system.lock with
        | none =>
            rcases alone.free lock with ⟨_, same⟩ | ⟨other, paid⟩
            · exact same.symm ▸ settles
            · rw [paid.credited] at uncredited
              cases uncredited
        | some id =>
            obtain ⟨_, _, same, _⟩ := alone.locked id lock
            exact same.symm ▸ settles
      · exact fun client handed _ => alone.listed call client handed under
      · intro client handed
        rw [← transaction_client handed, running]
        exact TransactionStatus.noConfusion

/-- A call executes one more statement of a settlement. -/
theorem SettlesAlone.append (alone : SettlesAlone inputs initial system)
    {statement : SettleStatement} {position : CallPosition}
    (running : (system.transactions ((inputs call).transaction call)).status = .running)
    (working : (system.positions call).done ≠ [])
    (next : position.done = (system.positions call).done ++ [statement])
    : SettlesAlone inputs initial
      ((system.append ((inputs call).transaction call) call statement).move call position) := by
  obtain ⟨held, uncredited, same, settles, work⟩ := alone.holder rfl running working
  have under : ∀ {position : CallPosition}, position.done ≠ [] → position.underWay = true := by
    intro position busy
    by_contra ended
    exact busy (done_eq_nil (Bool.eq_false_iff.mpr ended))
  have recorded := alone.record rfl running (under working) ⟨uncredited, same⟩ settles
    (.inr held) work next (under (by rw [next]; simp))
  have kept : { system.append ((inputs call).transaction call) call statement with
        lock := some ((inputs call).transaction call) }
      = system.append ((inputs call).transaction call) call statement := by
    rw [← held]
    rfl
  rwa [kept] at recorded

/-- A call commits its own transaction; it is then the one that is credited. -/
theorem SettlesAlone.commitOwn (alone : SettlesAlone inputs initial system)
    (own : (inputs call).client = none) (credited : system.positions call = .credited)
    (running : (system.transactions (.own call)).status = .running)
    {position : CallPosition} (ended : position = .returned true ∨ position = .failed)
    : SettlesAlone inputs initial ((system.commit inputs (.own call)).move call position) := by
  have mine := transaction_own own
  obtain ⟨held, uncredited, _, settles, work⟩ := alone.holder mine running
    (by rw [credited]; exact List.cons_ne_nil _ _)
  have whole : (system.transactions (.own call)).work = settlementOf call := by
    rw [work, credited]
    rfl
  have committed := alone.commit running (fun _ => ⟨call, settles, whole⟩) nofun
  obtain ⟨after, _⟩ := commit_of_settlement inputs running whole
  rw [uncredited, List.nil_append] at after
  have unlocked : (system.commit inputs (.own call)).lock ≠ some (.own call) := by
    simp only [SettlementSystem.commit, running, if_true]
    exact discard_unlocked system (.own call) .committed
  refine committed.move ?_ ?_ (fun _ => ⟨own, after⟩) ?_ ?_ ?_
  · intro id locked same
    rw [mine] at same
    exact absurd locked (same ▸ unlocked)
  · rcases ended with rfl | rfl <;> rfl
  · intro position
    rcases ended with rfl | rfl <;> rcases position with position | position <;> cases position
  · intro client given
    rw [own] at given
    cases given
  · intro client given
    rw [own] at given
    cases given

theorem SettlesAlone.advance (alone : SettlesAlone inputs initial system)
    (ownRunning : OwnRunning inputs system)
    : SettlesAlone inputs initial (system.advance inputs call) := by
  unfold SettlementSystem.advance
  dsimp only
  split
  · next idle => exact alone.begin idle
  · next begun =>
      split
      · next running => exact alone.closeBet begun running
      · exact alone.reject
  · next closed =>
      split
      · next running =>
          refine alone.append running ?_ ?_ <;> rw [closed]
          · exact List.cons_ne_nil _ _
          · rfl
      · exact alone.reject
  · next ensured =>
      split
      · next running =>
          refine alone.append running ?_ ?_ <;> rw [ensured]
          · exact List.cons_ne_nil _ _
          · rfl
      · exact alone.reject
  · next missed =>
      split
      · next own =>
          rw [transaction_own own]
          refine (alone.discard (by decide) (by decide) (by decide)).move ?_ rfl nofun ?_
            (fun client given => by rw [own] at given; cases given)
            (fun client given => by rw [own] at given; cases given)
          · intro id held mine
            rw [transaction_own own] at mine
            exact absurd held (mine ▸ discard_unlocked system (.own call) .rolledBack)
          · exact fun _ own settles => alone.missed call (.inl missed) own settles
      · next client handed =>
          have moved : SettlesAlone inputs initial (system.move call (.returned false)) := by
            refine alone.move ?_ rfl nofun ?_ (fun _ _ under => by cases under) ?_
            · intro _ _ _
              rw [missed]
              exact ⟨rfl, CallPosition.noConfusion⟩
            · intro _ own
              rw [handed] at own
              cases own
            · intro holder given unopened
              have waiting := alone.unopened call holder given unopened
              rw [missed] at waiting
              cases waiting
          exact moved.leave (by simp [SettlementSystem.move, CallPosition.underWay])
            ⟨client, transaction_client handed⟩
  · next credited =>
      split
      · next own =>
          rw [transaction_own own]
          refine alone.commitOwn own credited ?_ (.inl rfl)
          exact ownRunning call own (by rw [credited]; exact List.cons_ne_nil _ _)
      · next client handed =>
          exact (alone.win handed credited).leave
            (by simp [SettlementSystem.move, CallPosition.underWay])
            ⟨client, transaction_client handed⟩
  · exact alone
  · exact alone

theorem SettlesAlone.fail (alone : SettlesAlone inputs initial system)
    (ownRunning : OwnRunning inputs system) (executed : Bool)
    : SettlesAlone inputs initial (system.fail inputs call executed) := by
  unfold SettlementSystem.fail
  dsimp only
  split
  · next idle own =>
      refine alone.move ?_ rfl nofun
        (fun position => by rcases position with position | position <;> cases position)
        (fun _ _ under => by cases under)
        (fun client given => by rw [own] at given; cases given)
      intro _ _ _
      rw [idle]
      exact ⟨rfl, CallPosition.noConfusion⟩
  · exact alone.reject
  · exact alone.reject
  · exact alone.reject
  · exact alone.reject
  · next credited own =>
      split
      · rw [transaction_own own]
        refine alone.commitOwn own credited ?_ (.inr rfl)
        exact ownRunning call own (by rw [credited]; exact List.cons_ne_nil _ _)
      · exact alone.reject
  · exact alone

/-- A step of one call leaves the others, and their own transactions. -/
structure Leaves (system : SettlementSystem) (call : Nat) (after : SettlementSystem) : Prop where
  positions : ∀ other ≠ call, after.positions other = system.positions other
  transactions : ∀ other ≠ call,
    after.transactions (.own other) = system.transactions (.own other)

theorem Leaves.refl (system : SettlementSystem) (call : Nat) : Leaves system call system :=
  ⟨fun _ _ => rfl, fun _ _ => rfl⟩

/-- The transaction of a call is not the one of another one's own. -/
theorem transaction_ne_own {other : Nat} (differs : other ≠ call)
    : TransactionId.own other ≠ (inputs call).transaction call := by
  intro same
  exact differs (eq_of_own same.symm).symm

section Leaving

variable {after : SettlementSystem} (leaves : Leaves system call after)
include leaves

theorem Leaves.move (position : CallPosition) : Leaves system call (after.move call position) where
  positions other differs := by
    rw [← leaves.positions other differs]
    exact Function.update_of_ne differs _ _
  transactions := leaves.transactions

theorem Leaves.lock (lock : Option TransactionId) : Leaves system call { after with lock } :=
  ⟨leaves.positions, leaves.transactions⟩

theorem Leaves.setTransaction (txn : SettleTransaction)
    : Leaves system call (after.setTransaction ((inputs call).transaction call) txn) where
  positions := leaves.positions
  transactions other differs := by
    rw [← leaves.transactions other differs]
    exact Function.update_of_ne (transaction_ne_own differs) _ _

theorem Leaves.discard (status : TransactionStatus)
    : Leaves system call (after.discard ((inputs call).transaction call) status) where
  positions := leaves.positions
  transactions := (leaves.setTransaction _).transactions

theorem Leaves.commit
    : Leaves system call (after.commit inputs ((inputs call).transaction call)) := by
  unfold SettlementSystem.commit
  dsimp only
  split
  · exact ⟨leaves.positions, (leaves.setTransaction _).transactions⟩
  · exact leaves.discard _

theorem Leaves.reject : Leaves system call (after.reject inputs call) := by
  unfold SettlementSystem.reject
  cases (inputs call).client with
  | none => exact (leaves.discard _).move _
  | some client => exact ((leaves.discard _).setTransaction _).move _

end Leaving

theorem leaves_begin (inputs : Nat → SettleWinInput) (system : SettlementSystem) (call : Nat)
    : Leaves system call (system.begin inputs call) := by
  unfold SettlementSystem.begin
  cases (inputs call).client with
  | none => exact ((Leaves.refl system call).setTransaction _).move _
  | some client =>
      dsimp only
      split
      · exact ((Leaves.refl system call).setTransaction _).move _
      · exact .refl system call

theorem leaves_closeBet (inputs : Nat → SettleWinInput) (system : SettlementSystem) (call : Nat)
    : Leaves system call (system.closeBet inputs call) := by
  unfold SettlementSystem.closeBet
  dsimp only
  split
  · split
    · exact (((Leaves.refl system call).setTransaction _).lock _).move _
    · exact .refl system call
  · exact (Leaves.refl system call).move _

theorem leaves_advance (inputs : Nat → SettleWinInput) (system : SettlementSystem) (call : Nat)
    : Leaves system call (system.advance inputs call) := by
  have same := Leaves.refl system call
  unfold SettlementSystem.advance
  dsimp only
  split
  · exact leaves_begin inputs system call
  · split
    · exact leaves_closeBet inputs system call
    · exact same.reject
  · split
    · exact (same.setTransaction _).move _
    · exact same.reject
  · split
    · exact (same.setTransaction _).move _
    · exact same.reject
  · split
    · exact (same.discard _).move _
    · exact (same.setTransaction _).move _
  · split
    · exact same.commit.move _
    · exact (same.setTransaction _).move _
  · exact same
  · exact same

theorem leaves_fail (inputs : Nat → SettleWinInput) (system : SettlementSystem) (call : Nat)
    (executed : Bool)
    : Leaves system call (system.fail inputs call executed) := by
  have same := Leaves.refl system call
  unfold SettlementSystem.fail
  dsimp only
  split
  · exact same.move _
  · exact same.reject
  · exact same.reject
  · exact same.reject
  · exact same.reject
  · split
    · exact same.commit.move _
    · exact same.reject
  · exact same

/-- A call without work in its transaction, or with a running one. -/
def RunsWork (inputs : Nat → SettleWinInput) (call : Nat) (after : SettlementSystem) : Prop :=
  (after.positions call).done ≠ [] →
    (after.transactions ((inputs call).transaction call)).status = .running

/-- A call that moves to a position without work. -/
theorem runsWork_move (inputs : Nat → SettleWinInput) (system : SettlementSystem) (call : Nat)
    {position : CallPosition} (done : position.done = [])
    : RunsWork inputs call (system.move call position) := by
  intro working
  simp [SettlementSystem.move, done] at working

theorem runsWork_reject (inputs : Nat → SettleWinInput) (system : SettlementSystem) (call : Nat)
    : RunsWork inputs call (system.reject inputs call) := by
  unfold SettlementSystem.reject
  cases (inputs call).client <;> exact runsWork_move inputs _ call rfl

theorem runsWork_begin (runs : RunsWork inputs call system)
    : RunsWork inputs call (system.begin inputs call) := by
  unfold SettlementSystem.begin
  cases (inputs call).client with
  | none => exact runsWork_move inputs _ call rfl
  | some client =>
      dsimp only
      split
      · exact runsWork_move inputs _ call rfl
      · exact runs

theorem runsWork_append
    (running : (system.transactions ((inputs call).transaction call)).status = .running)
    (statement : SettleStatement) (position : CallPosition) (lock : Option TransactionId)
    : RunsWork inputs call
      ({ system.append ((inputs call).transaction call) call statement with lock }.move call
        position) := by
  intro _
  simpa [SettlementSystem.move, SettlementSystem.append, SettlementSystem.setTransaction]
    using running

theorem runsWork_closeBet
    (running : (system.transactions ((inputs call).transaction call)).status = .running)
    : RunsWork inputs call (system.closeBet inputs call) := by
  unfold SettlementSystem.closeBet
  dsimp only
  split
  · split
    · exact runsWork_append running _ _ _
    · exact fun _ => running
  · exact runsWork_move inputs _ call rfl

/-- A call gets to positions with work in running transactions only. -/
theorem runsWork_advance (runs : RunsWork inputs call system)
    : RunsWork inputs call (system.advance inputs call) := by
  unfold SettlementSystem.advance
  dsimp only
  split
  · exact runsWork_begin runs
  · split
    · next running => exact runsWork_closeBet running
    · exact runsWork_reject inputs system call
  · split
    · next running => exact runsWork_append running _ _ system.lock
    · exact runsWork_reject inputs system call
  · split
    · next running => exact runsWork_append running _ _ system.lock
    · exact runsWork_reject inputs system call
  · split <;> exact runsWork_move inputs _ call rfl
  · split <;> exact runsWork_move inputs _ call rfl
  · exact runs
  · exact runs

theorem runsWork_fail (runs : RunsWork inputs call system) (executed : Bool)
    : RunsWork inputs call (system.fail inputs call executed) := by
  unfold SettlementSystem.fail
  dsimp only
  split
  · exact runsWork_move inputs _ call rfl
  · exact runsWork_reject inputs system call
  · exact runsWork_reject inputs system call
  · exact runsWork_reject inputs system call
  · exact runsWork_reject inputs system call
  · split
    · exact runsWork_move inputs _ call rfl
    · exact runsWork_reject inputs system call
  · exact runs

/-- What a step leaves of the calls with their own transactions. -/
theorem OwnRunning.kept {after : SettlementSystem} (ownRunning : OwnRunning inputs system)
    (leaves : Leaves system call after)
    (here : (inputs call).client = none → RunsWork inputs call after)
    : OwnRunning inputs after := by
  intro other own working
  by_cases same : other = call
  · subst same
    have running := here own working
    rwa [transaction_own own] at running
  · rw [leaves.transactions other same]
    exact ownRunning other own (leaves.positions other same ▸ working)

/-- The calls with their own transactions are not concerned by those of callers. -/
theorem OwnRunning.of_same {after : SettlementSystem} (ownRunning : OwnRunning inputs system)
    (positions : after.positions = system.positions)
    (transactions : ∀ call, after.transactions (.own call) = system.transactions (.own call))
    : OwnRunning inputs after := by
  intro call own working
  rw [transactions]
  exact ownRunning call own (positions ▸ working)

/-- A call with its own transaction has it running while it has work. -/
theorem OwnRunning.runsWork (ownRunning : OwnRunning inputs system)
    (own : (inputs call).client = none) : RunsWork inputs call system := by
  intro working
  rw [transaction_own own]
  exact ownRunning call own working

theorem setTransaction_own (system : SettlementSystem) (client : Nat) (txn : SettleTransaction)
    (call : Nat)
    : (system.setTransaction (.client client) txn).transactions (.own call)
      = system.transactions (.own call) := by
  have apart : TransactionId.own call ≠ .client client := by simp
  exact Function.update_of_ne apart txn system.transactions

theorem discard_own (system : SettlementSystem) (client : Nat) (status : TransactionStatus)
    (call : Nat)
    : (system.discard (.client client) status).transactions (.own call)
      = system.transactions (.own call) :=
  setTransaction_own system client
    { system.transactions (.client client) with status, work := [] } call

/-- Every step keeps it. -/
theorem settlementStep_safely (inputs : Nat → SettleWinInput) (initial : MiniAppTables)
    (system : SettlementSystem) (event : SettlementEvent)
    (safely : SettlesSafely inputs initial system)
    : SettlesSafely inputs initial (settlementStep inputs system event) := by
  obtain ⟨alone, ownRunning⟩ := safely
  cases event with
  | advance call =>
      refine ⟨alone.advance ownRunning, ownRunning.kept (leaves_advance inputs system call) ?_⟩
      exact fun own => runsWork_advance (ownRunning.runsWork own)
  | fail call executed =>
      refine ⟨alone.fail ownRunning executed,
        ownRunning.kept (leaves_fail inputs system call executed) ?_⟩
      exact fun own => runsWork_fail (ownRunning.runsWork own) executed
  | «open» client =>
      simp only [settlementStep]
      split
      · next unopened =>
          refine ⟨alone.start ?_ ?_, ownRunning.of_same rfl ?_⟩
          · intro held
            obtain ⟨running, _⟩ := alone.locked _ held
            rw [unopened] at running
            cases running
          · intro call mine
            exact alone.unopened call client (client_of_transaction mine) unopened
          · exact setTransaction_own system client _
      · exact ⟨alone, ownRunning⟩
  | commit client =>
      simp only [settlementStep]
      split
      · next endable =>
          rw [SettleTransaction.endable, Bool.and_eq_true] at endable
          have empty := List.isEmpty_iff.mp endable.1
          by_cases running : (system.transactions (.client client)).status = .running
          · refine ⟨alone.commit running ?_ fun _ _ => empty, ownRunning.of_same ?_ ?_⟩
            · intro held
              obtain ⟨_, _, _, call, mine, settling⟩ := alone.locked _ held
              refine ⟨call, settling.settles, ?_⟩
              rcases settling.position with working | ⟨_, _, work⟩
              · have under : (system.positions call).underWay = true := by
                  by_contra ended
                  exact working (done_eq_nil (Bool.eq_false_iff.mpr ended))
                have member := alone.listed call client (client_of_transaction mine) under
                rw [empty] at member
                cases member
              · exact mine ▸ work
            · simp only [SettlementSystem.commit, running, if_true]
              rfl
            · simp only [SettlementSystem.commit, running, if_true]
              exact discard_own system client .committed
          · simp only [SettlementSystem.commit, running, if_false]
            exact ⟨alone.discard (by decide) (by decide) (by decide),
              ownRunning.of_same rfl (discard_own system client .rolledBack)⟩
      · exact ⟨alone, ownRunning⟩
  | rollback client =>
      simp only [settlementStep]
      split
      · exact ⟨alone.discard (by decide) (by decide) (by decide),
          ownRunning.of_same rfl (discard_own system client .rolledBack)⟩
      · exact ⟨alone, ownRunning⟩

end Steps

-----------------------------------------------------------------------------------------
-- Progress
-----------------------------------------------------------------------------------------

section Progress

variable {inputs : Nat → SettleWinInput} {initial : MiniAppTables}
  {before between system : SettlementSystem} {call : Nat}

/-- How many statements a call with its own transaction is from its end, at most. -/
def CallPosition.left : CallPosition → Nat
  | .idle => 5
  | .begun => 4
  | .closed => 3
  | .ensured => 2
  | .missed | .credited => 1
  | .returned _ | .failed => 0

/-- A call with its own transaction has not failed, and the transaction runs while it is under
way.
-/
structure Succeeds (system : SettlementSystem) (call : Nat) : Prop where
  unfailed : system.positions call ≠ .failed
  running : (system.positions call).underWay = true →
    (system.transactions (.own call)).status = .running

/-- No other transaction locks the bet. -/
def LockFree (system : SettlementSystem) (call : Nat) : Prop :=
  system.lock = none ∨ system.lock = some (.own call)

instance (system : SettlementSystem) (call : Nat) : Decidable (LockFree system call) :=
  inferInstanceAs (Decidable (_ ∨ _))

/-- A call goes on succeeding, and if no other transaction locks the bet it gets nearer to its
end.
-/
structure Nears (before after : SettlementSystem) (call : Nat) : Prop where
  succeeds : Succeeds after call
  free : LockFree before call → LockFree after call
  nearer : LockFree before call →
    (after.positions call).left ≤ (before.positions call).left - 1

theorem Nears.move {position : CallPosition} (unfailed : position ≠ .failed)
    (running : position.underWay = true →
      (between.transactions (.own call)).status = .running)
    (free : LockFree before call → LockFree between call)
    (nearer : position.left ≤ (before.positions call).left - 1)
    : Nears before (between.move call position) call where
  succeeds := by
    refine ⟨?_, ?_⟩
    · rwa [positions_move, if_pos rfl]
    · rw [positions_move, if_pos rfl]
      exact running
  free := free
  nearer := by
    rw [positions_move, if_pos rfl]
    exact fun _ => nearer

theorem LockFree.discard (free : LockFree system call) (status : TransactionStatus)
    : LockFree (system.discard (.own call) status) call := by
  unfold SettlementSystem.discard LockFree
  dsimp only
  split
  · exact .inl rfl
  · next other => exact .inl (free.resolve_right other)

theorem LockFree.commit (free : LockFree system call) (inputs : Nat → SettleWinInput)
    : LockFree (system.commit inputs (.own call)) call := by
  unfold SettlementSystem.commit
  dsimp only
  split
  · exact free.discard .committed
  · exact free.discard .rolledBack

theorem status_append (id : TransactionId) (statement : SettleStatement)
    : ((system.append id call statement).transactions id).status
      = (system.transactions id).status := by
  rw [SettlementSystem.append, transactions_setTransaction, if_pos rfl]

/-- The update of the bet by a call whose transaction runs. -/
theorem closeBet_nears (own : (inputs call).client = none)
    (begun : system.positions call = .begun)
    (running : (system.transactions (.own call)).status = .running)
    : Nears system (system.closeBet inputs call) call := by
  have left : (system.positions call).left = 4 := congrArg CallPosition.left begun
  unfold SettlementSystem.closeBet
  rw [transaction_own own]
  dsimp only
  split
  · split
    · refine .move (by decide) (fun _ => ?_) (fun _ => .inr rfl) (by rw [left]; decide)
      exact (status_append (.own call) .closeBet).trans running
    · next locked =>
        refine ⟨⟨?_, fun _ => running⟩, id, fun free => absurd free locked⟩
        rw [begun]
        decide
  · exact .move (by decide) (fun _ => running) id (by rw [left]; decide)

/-- A statement of a call that succeeds, by the position of the call. -/
theorem Succeeds.nears (succeeds : Succeeds system call) (own : (inputs call).client = none)
    : Nears system (system.advance inputs call) call := by
  have mine := transaction_own own
  have under := succeeds.running
  unfold SettlementSystem.advance
  rw [mine]
  dsimp only
  cases position : system.positions call with
  | idle =>
      have begins : system.begin inputs call
          = (system.setTransaction (.own call) { status := .running }).move call .begun := by
        simp only [SettlementSystem.begin, mine, own]
      dsimp only
      rw [begins]
      refine .move (by decide) (fun _ => ?_) id (by rw [position]; decide)
      rw [transactions_setTransaction, if_pos rfl]
  | begun =>
      have running := under (by rw [position]; rfl)
      dsimp only
      rw [if_pos running]
      exact closeBet_nears own position running
  | closed =>
      have running := under (by rw [position]; rfl)
      dsimp only
      rw [if_pos running]
      exact .move (by decide) (fun _ => (status_append _ _).trans running) id
        (by rw [position]; decide)
  | ensured =>
      have running := under (by rw [position]; rfl)
      dsimp only
      rw [if_pos running]
      exact .move (by decide) (fun _ => (status_append _ _).trans running) id
        (by rw [position]; decide)
  | missed =>
      simp only [own]
      exact .move (by decide) (fun under => by cases under) (fun free => free.discard _)
        (by rw [position]; decide)
  | credited =>
      simp only [own]
      exact .move (by decide) (fun under => by cases under) (fun free => free.commit inputs)
        (by rw [position]; decide)
  | returned ok =>
      refine ⟨succeeds, id, fun _ => ?_⟩
      dsimp only
      rw [position]
      exact Nat.zero_le _
  | failed => exact absurd position succeeds.unfailed

/-- Every step that is no failure of the call lets it go on succeeding. -/
theorem Succeeds.step (succeeds : Succeeds system call) (own : (inputs call).client = none)
    {event : SettlementEvent} (unfailed : ∀ executed, event ≠ .fail call executed)
    : Succeeds (settlementStep inputs system event) call := by
  have kept {after : SettlementSystem} (positions : after.positions call = system.positions call)
      (transaction : after.transactions (.own call) = system.transactions (.own call))
      : Succeeds after call := by
    refine ⟨?_, ?_⟩
    · rw [positions]
      exact succeeds.unfailed
    · rw [positions, transaction]
      exact succeeds.running
  cases event with
  | advance other =>
      by_cases same : call = other
      · subst same
        exact (succeeds.nears own).succeeds
      · have leaves := leaves_advance inputs system other
        exact kept (leaves.positions call same) (leaves.transactions call same)
  | fail other executed =>
      have same : call ≠ other := by
        rintro rfl
        exact unfailed executed rfl
      have leaves := leaves_fail inputs system other executed
      exact kept (leaves.positions call same) (leaves.transactions call same)
  | «open» client =>
      simp only [settlementStep]
      split
      · exact kept rfl (setTransaction_own system client _ call)
      · exact succeeds
  | commit client =>
      simp only [settlementStep, SettlementSystem.commit]
      split
      · split
        · exact kept rfl (discard_own system client .committed call)
        · exact kept rfl (discard_own system client .rolledBack call)
      · exact succeeds
  | rollback client =>
      simp only [settlementStep]
      split
      · exact kept rfl (discard_own system client .rolledBack call)
      · exact succeeds

/-- As many statements as a call has left bring it to its end, by induction on them. -/
theorem Succeeds.returns (succeeds : Succeeds system call) (own : (inputs call).client = none)
    (free : LockFree system call) {count : Nat} (enough : (system.positions call).left ≤ count)
    : let after := run (settlementStep inputs) system (List.replicate count (.advance call))
      (∃ ok, after.positions call = .returned ok) ∧ LockFree after call := by
  induction count generalizing system with
  | zero =>
      refine ⟨?_, free⟩
      cases position : system.positions call with
      | returned ok => exact ⟨ok, position⟩
      | failed => exact absurd position succeeds.unfailed
      | _ =>
          rw [position] at enough
          cases enough
  | succ count ih =>
      have nears := succeeds.nears own
      have nearer := nears.nearer free
      refine ih nears.succeeds (nears.free free) ?_
      change ((system.advance inputs call).positions call).left ≤ count
      omega

end Progress

-----------------------------------------------------------------------------------------
-- Whole runs
-----------------------------------------------------------------------------------------

/-- The tables are as they were, or those in which one call settled the bet: the bet is closed by
it, and its payout is added to the balance of the user. A call with its own transaction that
returned true is that one, and so is one that returned true in a committed transaction of its
caller; if a call with its own transaction returned false for a bet that it could settle at the
start, then another one settled it.
-/
structure CreditedOnce (inputs : Nat → SettleWinInput) (initial : MiniAppTables)
    (system : SettlementSystem) : Prop where
  once : (system.credited = [] ∧ system.tables = initial)
    ∨ ∃ call, system.credited = [call] ∧ (inputs call).settles initial = true
      ∧ system.tables.bet = initial.bet.map (fun bet =>
          { bet with
            state := .cashedOut
            cashoutMultiplier := some (inputs call).multiplier
            pnl := some (inputs call).pnl })
      ∧ system.tables.balances
        = Function.update initial.balances (inputs call).userId
          (some ((initial.balances (inputs call).userId).getD 0 + (inputs call).payout))
  own : ∀ call, system.positions call = .returned true → (inputs call).client = none →
    system.credited = [call]
  client : ∀ call client, system.positions call = .returned true →
    (inputs call).client = some client →
    (system.transactions (.client client)).status = .committed → system.credited = [call]
  refused : ∀ call, system.positions call = .returned false → (inputs call).client = none →
    (inputs call).settles initial = true → ∃ other, system.credited = [other]

/-- Calls that settle alone credit once. -/
theorem SettlesAlone.creditedOnce {inputs : Nat → SettleWinInput} {initial : MiniAppTables}
    {system : SettlementSystem} (alone : SettlesAlone inputs initial system)
    : CreditedOnce inputs initial system := by
  have once : (system.credited = [] ∧ system.tables = initial)
      ∨ ∃ call, Paid inputs initial system call := by
    cases lock : system.lock with
    | none => exact alone.free lock
    | some id =>
        obtain ⟨_, uncredited, same, _⟩ := alone.locked id lock
        exact .inl ⟨uncredited, same⟩
  refine ⟨?_, alone.wonOwn, ?_, ?_⟩
  · rcases once with untouched | ⟨call, paid⟩
    · exact .inl untouched
    · obtain ⟨bet, balances⟩ :=
        executeAll_settlementOf inputs initial call
      rw [← paid.tables] at bet balances
      exact .inr ⟨call, paid.credited, paid.settles, bet, balances⟩
  · exact fun call client returned handed => (alone.wonClient call client returned handed).2
  · intro call returned own settles
    have credited := alone.missed call (.inr returned) own settles
    rcases once with ⟨uncredited, _⟩ | ⟨other, paid⟩
    · exact absurd uncredited credited
    · exact ⟨other, paid.credited⟩

/-- Everything that runs keep. -/
theorem settlesSafely_run (inputs : Nat → SettleWinInput) (initial : MiniAppTables)
    (events : List SettlementEvent)
    : SettlesSafely inputs initial
      (run (settlementStep inputs) { tables := initial } events) :=
  run_invariant (settlementStep_safely inputs initial) events
    ⟨settlesAlone_initial inputs initial, fun _ _ working => absurd rfl working⟩

/-- A call with its own transaction of which no statement fails has succeeded so far. -/
theorem succeeds_run {inputs : Nat → SettleWinInput} {call : Nat}
    (own : (inputs call).client = none) (initial : MiniAppTables)
    {events : List SettlementEvent} (unfailed : ∀ executed, .fail call executed ∉ events)
    : Succeeds (run (settlementStep inputs) { tables := initial } events) call := by
  let Unfailed (_ : SettlementSystem) (event : SettlementEvent) : Prop :=
    ∀ executed, event ≠ .fail call executed
  have lawful : Always (settlementStep inputs) Unfailed { tables := initial } events := by
    refine .of_forall_mem fun event among _ executed same => ?_
    exact unfailed executed (same ▸ among)
  have initially : Succeeds { tables := initial } call :=
    ⟨CallPosition.noConfusion, fun under => by cases under⟩
  have kept : ∀ system event, Succeeds system call → Unfailed system event
      → Succeeds (settlementStep inputs system event) call :=
    fun _ _ succeeds unfailed => succeeds.step own unfailed
  exact lawful.invariant kept initially

/-- Over every run of any calls, with whatever statements fail and whatever callers do with their
transactions, the payout of the bet is credited no more than once. And it is credited: from every
state reached, five statements of a call with its own transaction, none of whose statements fails,
bring it to its end if no other transaction locks the bet; then nothing locks it, and if the call
could settle the bet at the start, a call has settled it, and its payout is credited.
-/
theorem settleWin_credits_once (inputs : Nat → SettleWinInput) (initial : MiniAppTables)
    (events : List SettlementEvent)
    : let system := run (settlementStep inputs) { tables := initial } events
      CreditedOnce inputs initial system
      ∧ ∀ call, (inputs call).client = none → (∀ executed, .fail call executed ∉ events)
        → LockFree system call
        → let after := run (settlementStep inputs) system (List.replicate 5 (.advance call))
          (∃ ok, after.positions call = .returned ok)
          ∧ after.lock = none
          ∧ ((inputs call).settles initial = true → ∃ other, Paid inputs initial after other) := by
  intro system
  have safely : SettlesSafely inputs initial system := settlesSafely_run inputs initial events
  refine ⟨safely.alone.creditedOnce, ?_⟩
  intro call own unfailed free after
  have succeeds : Succeeds system call := succeeds_run own initial unfailed
  have most : (system.positions call).left ≤ 5 := by
    cases system.positions call <;> simp [CallPosition.left]
  obtain ⟨⟨ok, returned⟩, free⟩ := succeeds.returns own free most
  have alone : SettlesAlone inputs initial after :=
    (run_invariant (settlementStep_safely inputs initial) _ safely).alone
  have unlocked : after.lock = none :=
    free.resolve_right (alone.not_held own (by rw [returned]; rfl))
  refine ⟨⟨ok, returned⟩, unlocked, fun settles => ?_⟩
  have credited : after.credited ≠ [] := by
    cases ok with
    | true =>
        rw [alone.wonOwn call returned own]
        exact List.cons_ne_nil _ _
    | false => exact alone.missed call (.inr returned) own settles
  exact (alone.free unlocked).resolve_left fun untouched => credited untouched.1

/-- A cash-out of a bet of 100 at 2 by its user. -/
def cashOutAtTwo (_ : Nat) : SettleWinInput where
  userId := "user-1"
  multiplier := 2
  amount := 100

/-- Two calls, of which the second waits for the lock of the first. -/
def twoCashOuts : List SettlementEvent :=
  [.advance 0, .advance 1, .advance 0, .advance 1]

theorem twoCashOuts_credited
    : let initial : MiniAppTables :=
        { bet := some { userId := "user-1", state := .active }, balances := fun _ => none }
      let system := run (settlementStep cashOutAtTwo) { tables := initial } twoCashOuts
      let after := run (settlementStep cashOutAtTwo) system (List.replicate 5 (.advance 0))
      system.credited = [] ∧ system.positions 1 = .begun
        ∧ (∃ other, Paid cashOutAtTwo initial after other)
        ∧ after.tables.balances "user-1" = some 200 := by
  intro initial system after
  have credits := (settleWin_credits_once cashOutAtTwo initial twoCashOuts).2 0 rfl
    (by simp [twoCashOuts]) (by decide +kernel)
  exact ⟨by decide +kernel, by decide +kernel, credits.2.2 (by decide +kernel),
    by decide +kernel⟩

end CrashWave.MiniApp
