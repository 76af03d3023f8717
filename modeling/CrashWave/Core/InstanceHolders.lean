import CrashWave.Core.InstanceLock
import CrashWave.Runs.Basic
import Mathlib.Data.Fintype.Basic

/-! Whether at most one instance reports that it holds the lock, while leases run out, commands
fail and answers are late.
-/

namespace CrashWave.Core

open JavaScript Leases Persistence Runs

variable {ι : Type*} {locks : ι → InstanceLock} {system : InstanceSystem ι}

/-- No two instances with one key report that they hold it. -/
def OneHolder (locks : ι → InstanceLock) (system : InstanceSystem ι) : Prop :=
  ∀ owner other, (system.instances owner).held = true → (system.instances other).held = true →
    (locks owner).key = (locks other).key → owner = other

/-- The `SET` of a call was answered OK, which its instance does not know yet. -/
def LockCall.granted (call : LockCall ι) : Bool :=
  call.command.isSet && call.stage = .executed true

/-- The instance reports that it holds the lock, or will do so with its next answer. -/
def Owner (system : InstanceSystem ι) (owner : ι) : Prop :=
  (system.instances owner).held = true
  ∨ ∃ call ∈ system.calls, call.owner = owner ∧ call.granted = true

/-- When the `SET` of an instance is executed, every other owner of its key has a live lease: its
own `SET` or a refresh was executed within the last TTL, and no script of its release since.
-/
def Renewed (locks : ι → InstanceLock) (system : InstanceSystem ι) : InstanceEvent ι → Prop
  | .execute index =>
      ∀ call ∈ system.calls[index]?, call.command.isSet = true →
        ∀ other, other ≠ call.owner → (locks other).key = (locks call.owner).key →
          Owner system other →
            ∃ lease ∈ (system.instances other).lease, lease.Live (.finite system.now)
  | .tryAcquire .. | .heartbeat _ | .release _ | .answer _ | .fail _ | .elapse _ => True

/-- No other instance with the key finds its token in the value. -/
def Own (locks : ι → InstanceLock) (owner : ι) (value : List Char) : Prop :=
  ∀ other, other ≠ owner → (locks other).key = (locks owner).key →
    (locks other).owns value = false

/-- The value that an instance wants to store has no token but its own. -/
def OwnToken (locks : ι → InstanceLock) (_ : InstanceSystem ι) : InstanceEvent ι → Prop
  | .tryAcquire owner startedAt => Own locks owner ((locks owner).value startedAt)
  | .heartbeat _ | .release _ | .execute _ | .answer _ | .fail _ | .elapse _ => True

section Decidable

variable [Fintype ι] [DecidableEq ι]

instance : Decidable (OneHolder locks system) := inferInstanceAs (Decidable (∀ _ _, _ → _))

instance (owner : ι) : Decidable (Owner system owner) := inferInstanceAs (Decidable (_ ∨ _))

instance : (event : InstanceEvent ι) → Decidable (Renewed locks system event)
  | .execute _ => inferInstanceAs (Decidable (∀ _ ∈ _, _ → ∀ _, _ → _ → _ → _))
  | .tryAcquire .. | .heartbeat _ | .release _ | .answer _ | .fail _ | .elapse _ =>
      .isTrue trivial

instance (owner : ι) (value : List Char) : Decidable (Own locks owner value) :=
  inferInstanceAs (Decidable (∀ _, _ → _ → _))

instance : (event : InstanceEvent ι) → Decidable (OwnToken locks system event)
  | .tryAcquire owner startedAt =>
      inferInstanceAs (Decidable (Own locks owner ((locks owner).value startedAt)))
  | .heartbeat _ | .release _ | .execute _ | .answer _ | .fail _ | .elapse _ => .isTrue trivial

end Decidable

-----------------------------------------------------------------------------------------
-- One owner
-----------------------------------------------------------------------------------------

/-- No two instances with one key own it. -/
def OneOwner (locks : ι → InstanceLock) (system : InstanceSystem ι) : Prop :=
  ∀ owner other, Owner system owner → Owner system other →
    (locks owner).key = (locks other).key → owner = other

/-- Who reports that it holds the lock is an owner. -/
theorem OneOwner.oneHolder (one : OneOwner locks system) : OneHolder locks system :=
  fun owner other held heldToo => one owner other (.inl held) (.inl heldToo)

theorem owner_send {owner other : ι} {command : LockCommand}
    (owns : Owner (system.send owner command) other)
    : Owner system other := by
  rcases owns with held | ⟨call, waits, own, granted⟩
  · exact .inl held
  · rcases List.mem_append.mp waits with before | new
    · exact .inr ⟨call, before, own, granted⟩
    · obtain rfl := List.mem_singleton.mp new
      simp [LockCall.granted] at granted

-----------------------------------------------------------------------------------------
-- Leases of instances
-----------------------------------------------------------------------------------------

/-- The leases that the instances were last given. -/
def leaseClaims (locks : ι → InstanceLock) (instances : ι → InstanceState)
    : Set (String × Lease (List Char) Number) :=
  { claim | ∃ owner, (instances owner).lease = some claim.2 ∧ (locks owner).key = claim.1 }

/-- Those of all instances but one. -/
def otherClaims (locks : ι → InstanceLock) (instances : ι → InstanceState) (owner : ι)
    : Set (String × Lease (List Char) Number) :=
  { claim | ∃ other, other ≠ owner ∧ (instances other).lease = some claim.2
      ∧ (locks other).key = claim.1 }

/-- Whatever is stored is the value of one instance with the key, and every instance whose lease
has not run out still has it.
-/
structure Leased (locks : ι → InstanceLock) (system : InstanceSystem ι) : Prop where
  sent : ∀ call ∈ system.calls, ∀ startedAt, call.command = .set startedAt →
    Own locks call.owner ((locks call.owner).value startedAt)
  stored : Stores (fun key value => ∃ owner, (locks owner).key = key ∧ Own locks owner value)
    system.keys
  given : ∀ owner lease, (system.instances owner).lease = some lease →
    Own locks owner lease.value
  backed : Backed (.finite system.now) system.keys (leaseClaims locks system.instances)

namespace Leased

variable {lease : Lease (List Char) Number}

/-- Nothing is leased before the first call. -/
theorem start : Leased locks {} where
  sent := fun _ waits => nomatch waits
  stored := fun _ _ found => nomatch found
  given := fun _ _ given => nomatch given
  backed := by
    intro key lease claimed
    obtain ⟨owner, given, _⟩ := claimed
    cases given

/-- The claims of the others are backed. -/
theorem others (leased : Leased locks system) (owner : ι)
    : Backed (.finite system.now) system.keys (otherClaims locks system.instances owner) := by
  refine leased.backed.mono ?_
  intro claim claimed
  obtain ⟨other, _, given, key⟩ := claimed
  exact ⟨other, given, key⟩

/-- The scripts of an instance leave them alone. -/
theorem foreign (leased : Leased locks system) (owner : ι)
    (claimed : ((locks owner).key, lease) ∈ otherClaims locks system.instances owner)
    : (locks owner).owns lease.value = false := by
  obtain ⟨other, apart, given, key⟩ := claimed
  exact leased.given other lease given owner (Ne.symm apart) key.symm

/-- Calls that were sent before, or that store a value of their instance alone, are in order. -/
theorem calling {calls : List (LockCall ι)} (leased : Leased locks system)
    (sent : ∀ call ∈ calls, ∀ startedAt, call.command = .set startedAt →
      Own locks call.owner ((locks call.owner).value startedAt))
    : Leased locks { system with calls } :=
  ⟨sent, leased.stored, leased.given, leased.backed⟩

theorem send {owner : ι} {command : LockCommand} (leased : Leased locks system)
    (own : ∀ startedAt, command = .set startedAt →
      Own locks owner ((locks owner).value startedAt))
    : Leased locks (system.send owner command) := by
  refine leased.calling fun call waits startedAt set => ?_
  rcases List.mem_append.mp waits with before | new
  · exact leased.sent call before startedAt set
  · obtain rfl := List.mem_singleton.mp new
    exact own startedAt set

/-- A call that goes on stores what it stored before. -/
theorem settle {index : Nat} {call : LockCall ι} (leased : Leased locks system)
    (found : system.calls[index]? = some call) (stage : CommandStage)
    : Leased locks { system with calls := system.calls.set index { call with stage } } := by
  refine leased.calling fun each waits startedAt set => ?_
  rcases List.mem_or_eq_of_mem_set waits with before | rfl
  · exact leased.sent each before startedAt set
  · exact leased.sent call (List.mem_of_getElem? found) startedAt set

end Leased

variable [DecidableEq ι] {owner other : ι} {lease : Lease (List Char) Number}
  {instances : ι → InstanceState}

-----------------------------------------------------------------------------------------
-- What a step does
-----------------------------------------------------------------------------------------

/-- The steps that a system can take, with what is known of the call. -/
inductive InstanceEffect (locks : ι → InstanceLock) (system : InstanceSystem ι)
    : InstanceEvent ι → InstanceSystem ι → Prop where
  | idle (event : InstanceEvent ι) : InstanceEffect locks system event system
  | sent (owner : ι) (startedAt : String)
    : InstanceEffect locks system (.tryAcquire owner startedAt)
      (system.send owner (.set startedAt))
  | refreshes (owner : ι)
    : InstanceEffect locks system (.heartbeat owner) (system.send owner .refresh)
  | stopped (owner : ι)
    : InstanceEffect locks system (.release owner)
      (system.modify owner fun state => { state with timer := false })
  | releases (owner : ι)
    : InstanceEffect locks system (.release owner)
      ((system.modify owner fun state => { state with timer := false }).send owner .delete)
  | executedLate {index call} (found : system.calls[index]? = some call)
    : InstanceEffect locks system (.execute index)
      (system.execute locks call.owner call.command).1
  | executed {index call} (found : system.calls[index]? = some call)
    : InstanceEffect locks system (.execute index)
      { (system.execute locks call.owner call.command).1 with
        calls := system.calls.set index
          { call with
            stage := .executed (system.execute locks call.owner call.command).2 } }
  | answered {index call ok} (found : system.calls[index]? = some call)
      (executed : call.stage = .executed ok)
    : InstanceEffect locks system (.answer index)
      (InstanceSystem.modify { system with calls := system.calls.eraseIdx index } call.owner
        (InstanceSystem.answered ok call.command))
  | failed {index call} (found : system.calls[index]? = some call)
    : InstanceEffect locks system (.fail index)
      (InstanceSystem.modify
        { system with calls := system.calls.set index { call with stage := .abandoned } }
        call.owner (InstanceSystem.failed call.command))
  | elapsed (time : ℤ)
    : InstanceEffect locks system (.elapse time) { system with now := max system.now time }

theorem instance_effect (locks : ι → InstanceLock) (system : InstanceSystem ι)
    (event : InstanceEvent ι)
    : InstanceEffect locks system event (system.next locks event) := by
  cases event with
  | tryAcquire owner startedAt => exact .sent owner startedAt
  | heartbeat owner =>
      simp only [InstanceSystem.next, InstanceSystem.heartbeat]
      split_ifs
      · exact .refreshes owner
      · exact .idle _
  | release owner =>
      simp only [InstanceSystem.next, InstanceSystem.release]
      split_ifs
      · exact .releases owner
      · exact .stopped owner
  | execute index =>
      simp only [InstanceSystem.next]
      split
      · exact .idle _
      · next call found =>
          split_ifs
          · split
            · exact .executedLate found
            all_goals exact .executed found
          · exact .idle _
  | answer index =>
      simp only [InstanceSystem.next]
      split
      · exact .idle _
      · next call found =>
          split
          · exact .idle _
          · exact .idle _
          · next ok executed => exact .answered found executed
  | fail index =>
      simp only [InstanceSystem.next]
      split
      · exact .idle _
      · next call found =>
          split
          · exact .idle _
          all_goals exact .failed found
  | elapse time => exact .elapsed time

-----------------------------------------------------------------------------------------
-- Leases along a step
-----------------------------------------------------------------------------------------

/-- An instance that is given a lease claims it instead of its last one. -/
theorem leaseClaims_give {state : InstanceState}
    (given : state.lease = some lease)
    : leaseClaims locks (Function.update instances owner state)
      ⊆ insert ((locks owner).key, lease) (otherClaims locks instances owner) := by
  intro claim claimed
  obtain ⟨other, held, key⟩ := claimed
  by_cases same : other = owner
  · subst same
    rw [Function.update_self, given] at held
    exact .inl (Prod.ext key.symm (Option.some_inj.mp held).symm)
  · rw [Function.update_of_ne same] at held
    exact .inr ⟨other, same, held, key⟩

theorem leaseClaims_drop {state : InstanceState} (none : state.lease = none)
    : leaseClaims locks (Function.update instances owner state)
      ⊆ otherClaims locks instances owner := by
  intro claim claimed
  obtain ⟨other, held, key⟩ := claimed
  by_cases same : other = owner
  · subst same
    rw [Function.update_self, none] at held
    cases held
  · rw [Function.update_of_ne same] at held
    exact ⟨other, same, held, key⟩

/-- The leases of the instances stay their own when one of them gets another lease. -/
theorem given_update {state : InstanceState}
    (given : ∀ other lease, (instances other).lease = some lease → Own locks other lease.value)
    (own : ∀ lease, state.lease = some lease → Own locks owner lease.value)
    : ∀ other lease, (Function.update instances owner state other).lease = some lease →
      Own locks other lease.value := by
  intro other lease held
  by_cases same : other = owner
  · subst same
    rw [Function.update_self] at held
    exact own lease held
  · rw [Function.update_of_ne same] at held
    exact given other lease held

theorem answered_lease (ok : Bool) (command : LockCommand) (state : InstanceState)
    : (InstanceSystem.answered ok command state).lease = state.lease := by
  cases command <;> cases ok <;> rfl

theorem failed_lease (command : LockCommand) (state : InstanceState)
    : (InstanceSystem.failed command state).lease = state.lease := by
  cases command <;> rfl

namespace Leased

/-- A script that finds the token of its instance finds the value of the instance. -/
theorem own (leased : Leased locks system)
    (stored : system.keys (locks owner).key = some lease)
    (owned : (locks owner).owns lease.value = true)
    : Own locks owner lease.value := by
  obtain ⟨other, key, own⟩ := leased.stored _ lease stored
  by_cases same : other = owner
  · exact same ▸ own
  · rw [own owner (Ne.symm same) key.symm] at owned
    cases owned

/-- What an instance does with its flags leaves the leases as they are. -/
theorem modify {change : InstanceState → InstanceState} (leased : Leased locks system)
    (kept : ∀ state, (change state).lease = state.lease)
    : Leased locks (system.modify owner change) := by
  have same (other : ι) :
      ((system.modify owner change).instances other).lease
        = (system.instances other).lease := by
    by_cases self : other = owner
    · subst self
      simp [InstanceSystem.modify, kept]
    · simp [InstanceSystem.modify, self]
  refine ⟨leased.sent, leased.stored, fun other lease given => ?_, leased.backed.mono ?_⟩
  · exact leased.given other lease (same other ▸ given)
  · intro claim claimed
    obtain ⟨other, given, key⟩ := claimed
    exact ⟨other, same other ▸ given, key⟩

/-- Redis executes a command of an instance. -/
theorem execute {command : LockCommand} (leased : Leased locks system)
    (own : ∀ startedAt, command = .set startedAt →
      Own locks owner ((locks owner).value startedAt))
    : Leased locks (system.execute locks owner command).1 := by
  cases command with
  | set startedAt =>
      simp only [InstanceSystem.execute]
      split
      · exact leased
      · next free =>
          have owned := own startedAt rfl
          have backed := (leased.others owner).grant_insert free
            ⟨(locks owner).value startedAt, RedisKeys.expiry system.now (locks owner).ttlMs⟩
          refine ⟨leased.sent, leased.stored.grant ⟨owner, rfl, owned⟩,
            given_update leased.given ?_, backed.mono (leaseClaims_give rfl)⟩
          intro lease given
          obtain rfl := Option.some_inj.mp given
          exact owned
  | refresh =>
      simp only [InstanceSystem.execute]
      split
      · exact leased
      · next cur live =>
          split_ifs with owned
          · have backed := (leased.others owner).renew_insert live owned
              (fun _ => leased.foreign owner)
              (RedisKeys.expiry system.now (locks owner).ttlMs)
            refine ⟨leased.sent, leased.stored.renew _ _ _, given_update leased.given ?_,
              backed.mono (leaseClaims_give rfl)⟩
            have own := leased.own (Table.live_eq_some_iff.mp live).1 owned
            intro lease given
            obtain rfl := Option.some_inj.mp given
            exact own
          · exact leased
  | delete =>
      have backed : Backed (.finite system.now)
          (system.keys.surrender (locks owner).key (locks owner).owns)
          (otherClaims locks system.instances owner) :=
        (leased.others owner).surrender fun _ => leased.foreign owner
      refine ⟨leased.sent, leased.stored.surrender _ _, given_update leased.given ?_,
        backed.mono (leaseClaims_drop rfl)⟩
      intro lease given
      cases given

theorem next {event : InstanceEvent ι} (leased : Leased locks system)
    (own : OwnToken locks system event)
    : Leased locks (system.next locks event) := by
  have effect := instance_effect locks system event
  generalize system.next locks event = after at effect ⊢
  have stopped (owner : ι)
      : Leased locks (system.modify owner fun state => { state with timer := false }) :=
    leased.modify fun _ => rfl
  have executed {index : Nat} {call : LockCall ι} (found : system.calls[index]? = some call)
      : Leased locks (system.execute locks call.owner call.command).1 :=
    leased.execute (leased.sent call (List.mem_of_getElem? found))
  cases effect with
  | idle => exact leased
  | sent owner startedAt =>
      refine leased.send fun other set => ?_
      obtain rfl := LockCommand.set.inj set
      exact own
  | refreshes owner => exact leased.send fun startedAt set => by cases set
  | stopped owner => exact stopped owner
  | releases owner => exact (stopped owner).send fun startedAt set => by cases set
  | executedLate found => exact executed found
  | executed found => exact (executed found).calling (leased.settle found _).sent
  | @answered index _ _ found =>
      have others : Leased locks { system with calls := system.calls.eraseIdx index } :=
        leased.calling fun call waits => leased.sent call (List.mem_of_mem_eraseIdx waits)
      exact others.modify (answered_lease _ _)
  | failed found => exact (leased.settle found .abandoned).modify (failed_lease _)
  | elapsed time =>
      have passed := RedisKeys.finite_le (le_max_left system.now time)
      exact ⟨leased.sent, leased.stored, leased.given, leased.backed.later passed⟩

end Leased

-----------------------------------------------------------------------------------------
-- Owners along a step
-----------------------------------------------------------------------------------------

/-- An instance that does not begin to hold the lock owns nothing new. -/
theorem owner_modify (change : InstanceState → InstanceState)
    (kept : ∀ state, (change state).held = true → state.held = true)
    (owns : Owner (system.modify owner change) other)
    : Owner system other := by
  rcases owns with held | called
  · by_cases same : other = owner
    · subst same
      simp only [InstanceSystem.modify, Function.update_self] at held
      exact .inl (kept _ held)
    · simp only [InstanceSystem.modify, Function.update_of_ne same] at held
      exact .inl held
  · exact .inr called

/-- An instance begins to hold the lock with the OK to its `SET` only. -/
theorem answered_held {ok : Bool} {command : LockCommand} {state : InstanceState}
    (held : (InstanceSystem.answered ok command state).held = true)
    : state.held = true ∨ (command.isSet = true ∧ ok = true) := by
  cases command with
  | set startedAt =>
      cases ok with
      | true => exact .inr ⟨rfl, rfl⟩
      | false => exact .inl held
  | refresh =>
      cases ok with
      | true => exact .inl held
      | false => cases held
  | delete => cases held

theorem failed_held (command : LockCommand) (state : InstanceState)
    (held : (InstanceSystem.failed command state).held = true)
    : state.held = true := by
  cases command with
  | set startedAt | refresh => exact held
  | delete => cases held

/-- A command that is executed changes no flags. -/
theorem execute_held (command : LockCommand) (other : ι)
    : ((system.execute locks owner command).1.instances other).held
      = (system.instances other).held := by
  have modified (lease : Option (Lease (List Char) Number)) :
      ((system.modify owner fun state => { state with lease }).instances other).held
        = (system.instances other).held := by
    by_cases same : other = owner
    · subst same
      simp [InstanceSystem.modify]
    · simp [InstanceSystem.modify, same]
  cases command with
  | set startedAt =>
      simp only [InstanceSystem.execute]
      split
      · rfl
      · exact modified _
  | refresh =>
      simp only [InstanceSystem.execute]
      split
      · rfl
      · split_ifs
        · exact modified _
        · rfl
  | delete => exact modified _

theorem execute_calls (command : LockCommand)
    : (system.execute locks owner command).1.calls = system.calls := by
  cases command with
  | set startedAt =>
      simp only [InstanceSystem.execute]
      split <;> rfl
  | refresh =>
      simp only [InstanceSystem.execute]
      split
      · rfl
      · split_ifs <;> rfl
  | delete => rfl

/-- Redis says yes to the `SET` of a free key only. -/
theorem execute_free {command : LockCommand} (set : command.isSet = true)
    (ok : (system.execute locks owner command).2 = true)
    : system.keys.live (.finite system.now) (locks owner).key = none := by
  cases command with
  | set startedAt =>
      simp only [InstanceSystem.execute] at ok
      split at ok
      · cases ok
      · next free => exact free
  | refresh | delete => cases set

/-- An instance that becomes an owner was given a free key. -/
theorem owner_next {event : InstanceEvent ι} (owns : Owner (system.next locks event) other)
    : Owner system other
      ∨ ∃ index, event = .execute index
        ∧ ∃ call ∈ system.calls[index]?, call.owner = other ∧ call.command.isSet = true
          ∧ system.keys.live (.finite system.now) (locks other).key = none := by
  have effect := instance_effect locks system event
  generalize system.next locks event = after at effect owns
  have running {owner : ι}
      (owns : Owner (system.modify owner fun state => { state with timer := false }) other)
      : Owner system other :=
    owner_modify (fun state => { state with timer := false }) (fun _ held => held) owns
  cases effect with
  | idle | elapsed => exact .inl owns
  | sent | refreshes => exact .inl (owner_send owns)
  | stopped => exact .inl (running owns)
  | releases => exact .inl (running (owner_send owns))
  | @executedLate _ call =>
      rcases owns with held | called
      · exact .inl (.inl (execute_held call.command other ▸ held))
      · rw [execute_calls] at called
        exact .inl (.inr called)
  | @executed index call found =>
      rcases owns with held | ⟨each, waits, own, granted⟩
      · exact .inl (.inl (execute_held call.command other ▸ held))
      · rcases List.mem_or_eq_of_mem_set waits with before | rfl
        · exact .inl (.inr ⟨each, before, own, granted⟩)
        · obtain ⟨set, ok⟩ := Bool.and_eq_true_iff.mp granted
          refine .inr ⟨index, rfl, call, found, own, set, ?_⟩
          rw [← own]
          exact execute_free set (by simpa using ok)
  | @answered _ call ok found executed =>
      rcases owns with held | ⟨each, waits, own, granted⟩
      · by_cases same : other = call.owner
        · subst same
          simp only [InstanceSystem.modify, Function.update_self] at held
          rcases answered_held held with before | ⟨set, yes⟩
          · exact .inl (.inl before)
          · refine .inl (.inr ⟨call, List.mem_of_getElem? found, rfl, ?_⟩)
            simp [LockCall.granted, set, executed, yes]
        · simp only [InstanceSystem.modify, Function.update_of_ne same] at held
          exact .inl (.inl held)
      · exact .inl (.inr ⟨each, List.mem_of_mem_eraseIdx waits, own, granted⟩)
  | @failed _ call found =>
      rcases owner_modify _ (failed_held call.command) owns with
        held | ⟨each, waits, own, granted⟩
      · exact .inl (.inl held)
      · rcases List.mem_or_eq_of_mem_set waits with before | rfl
        · exact .inl (.inr ⟨each, before, own, granted⟩)
        · simp [LockCall.granted] at granted

/-- A step keeps one owner where the owners have leases that are renewed in time. -/
theorem OneOwner.next {event : InstanceEvent ι} (one : OneOwner locks system)
    (leased : Leased locks system) (renewed : Renewed locks system event)
    : OneOwner locks (system.next locks event) := by
  -- An owner that Redis makes now has no other one beside it, since the key is free.
  have alone {owner other : ι}
      (given : ∃ index, event = .execute index
        ∧ ∃ call ∈ system.calls[index]?, call.owner = owner ∧ call.command.isSet = true
          ∧ system.keys.live (.finite system.now) (locks owner).key = none)
      (owns : Owner system other) (same : (locks owner).key = (locks other).key)
      : owner = other := by
    obtain ⟨index, rfl, call, found, rfl, set, free⟩ := given
    by_contra apart
    obtain ⟨lease, given, live⟩ :=
      renewed call found set other (Ne.symm apart) same.symm owns
    have claimed : ((locks other).key, lease) ∈ leaseClaims locks system.instances :=
      ⟨other, given, rfl⟩
    have stored := leased.backed.live_eq claimed live
    rw [← same, free] at stored
    cases stored
  intro owner other owns ownsToo same
  rcases owner_next owns with before | given
  · rcases owner_next ownsToo with beforeToo | givenToo
    · exact one owner other before beforeToo same
    · exact (alone givenToo before same.symm).symm
  · rcases owner_next ownsToo with beforeToo | givenToo
    · exact alone given beforeToo same
    · obtain ⟨index, rfl, call, found, rfl, -⟩ := given
      obtain ⟨indexToo, sameIndex, callToo, foundToo, rfl, -⟩ := givenToo
      obtain rfl := InstanceEvent.execute.inj sameIndex
      exact congrArg _ (Option.some_inj.mp (found.symm.trans foundToo))

-----------------------------------------------------------------------------------------
-- Runs
-----------------------------------------------------------------------------------------

/-- In a run of instances whose tokens differ, in which no `SET` is executed while an owner of its
key has let its lease run out or deleted it, at most one instance reports at any time that it
holds the lock of a key.
-/
theorem instanceLock_one_holder (events : List (InstanceEvent ι))
    (own : Always (InstanceSystem.next locks) (OwnToken locks) {} events)
    (renewed : Always (InstanceSystem.next locks) (Renewed locks) {} events)
    : Always (InstanceSystem.next locks)
        (fun system event => OneHolder locks (system.next locks event)) {} events := by
  have kept (system : InstanceSystem ι) (event : InstanceEvent ι)
      (inv : Leased locks system ∧ OneOwner locks system)
      (lawful : OwnToken locks system event ∧ Renewed locks system event)
      : OneHolder locks (system.next locks event)
        ∧ Leased locks (system.next locks event)
        ∧ OneOwner locks (system.next locks event) := by
    have one := inv.2.next inv.1 lawful.2
    exact ⟨one.oneHolder, inv.1.next lawful.1, one⟩
  have none : OneOwner locks {} := by
    intro owner other owns
    rcases owns with held | ⟨call, waits, _⟩
    · cases held
    · cases waits
  exact (own.and renewed).of_invariant kept ⟨.start, none⟩

/-- Two instances on one host. -/
def betInstance (second : Bool) : InstanceLock where
  token :=
    if second then "9d2b7e41c05f83a6d1e0b94c7a3f5826" else "4c1f0a9e7b3d58264e9c1d70a5b2f386"
  instanceId := if second then "host:41:1700000035000" else "host:40:1700000000000"
  pid := if second then 41 else 40

/-- An instance that refreshes its lease in time keeps a second one out until it is released. -/
theorem instanceLock_one_holder_released
    : Always (InstanceSystem.next betInstance)
        (fun system event => OneHolder betInstance (system.next betInstance event)) {}
        [.tryAcquire false "2023-11-14T22:13:20.000Z", .execute 0, .answer 0,
          .elapse 20000, .heartbeat false, .execute 0, .answer 0,
          .elapse 40000, .tryAcquire true "2023-11-14T22:14:00.000Z", .execute 0, .answer 0,
          .release false, .execute 0, .answer 0,
          .tryAcquire true "2023-11-14T22:14:00.000Z", .execute 0, .answer 0] :=
  instanceLock_one_holder _ (by decide +kernel) (by decide +kernel)

/-- Every heartbeat of an instance fails from the start on. Fifty seconds after it last heard of
Redis, with a TTL of thirty, it reports that it holds the lock beside a second instance.
-/
theorem silent_instance_stays_holder
    : let events : List (InstanceEvent Bool) :=
        [.tryAcquire false "2023-11-14T22:13:20.000Z", .execute 0, .answer 0,
          .elapse 10000, .heartbeat false, .fail 0, .elapse 20000, .heartbeat false, .fail 1,
          .elapse 30000, .heartbeat false, .fail 2,
          .tryAcquire true "2023-11-14T22:13:50.000Z", .execute 3, .answer 3,
          .elapse 40000, .heartbeat false, .fail 3, .elapse 50000, .heartbeat false, .fail 4]
      Always (InstanceSystem.next betInstance) (OwnToken betInstance) {} events
      ∧ (run (InstanceSystem.next betInstance) {} events).now = 50000
      ∧ ¬ OneHolder betInstance (run (InstanceSystem.next betInstance) {} events) := by
  decide +kernel

end CrashWave.Core
