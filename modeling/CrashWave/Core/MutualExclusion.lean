import CrashWave.Core.MutexClaims

/-! Mutual exclusion of the distributed mutex: at most one unexpired handle of a resource, as long
as its lock is not taken in two stores at once.
-/

namespace CrashWave.Core

open JavaScript Leases Persistence Runs

variable {mutexes : Nat → DistributedMutex} {system : MutexSystem}

/-- No two active handles are for one resource. -/
def Exclusive (system : MutexSystem) : Prop :=
  system.handles.Pairwise fun handle other =>
    ¬ (handle.resource = other.resource ∧ handle.Active system.now ∧ other.Active system.now)

instance : Decidable (Exclusive system) := inferInstanceAs (Decidable (List.Pairwise _ _))

-----------------------------------------------------------------------------------------
-- One holder
-----------------------------------------------------------------------------------------

variable {index : Nat} {call : AcquireCall}

/-- A handle that is given out leaves one holder exactly when no lock of its resource is held in
another store, where none is held in its own.
-/
theorem exclusive_obtain_iff {locks : Table LockStore String Number} {store : LockStore}
    {expiresAt : Number} (exclusive : Exclusive system)
    (alone : ¬ expiresAt ≤ .finite system.now →
      ∀ handle ∈ system.handles, handle.Active system.now → handle.store ≠ store)
    : Exclusive (MutexSystem.obtain { system with locks } index call store expiresAt)
      ↔ (¬ expiresAt ≤ .finite system.now → OnlyIn system call.resource store) := by
  simp only [Exclusive, MutexSystem.obtain, List.pairwise_append, List.pairwise_singleton,
    List.mem_singleton, forall_eq]
  constructor
  · intro after live handle given same active
    obtain ⟨-, -, apart⟩ := after
    exact absurd ⟨same, active, rfl, live⟩ (apart handle given)
  · intro only
    refine ⟨exclusive, trivial, fun handle given => ?_⟩
    intro both
    obtain ⟨same, active, -, live⟩ := both
    exact alone live handle given active (only live handle given same active)

/-- An active handle relies on its lease. -/
theorem LockHandle.Active.claimed {handle : LockHandle} (active : handle.Active system.now)
    (given : handle ∈ system.handles)
    : (handle.store, ⟨handle.token, handle.expiresAt⟩) ∈ system.claims mutexes := by
  refine .inr ⟨handle, given, ?_⟩
  simp [LockHandle.claim, active.1]

theorem exclusive_tryAcquireLocal_iff (tracked : Tracked mutexes system)
    (exclusive : Exclusive system)
    (allowed : (mutexes call.process).allowInMemoryFallback = true)
    : Exclusive (system.tryAcquireLocal mutexes index call) ↔ LocalOnly mutexes system call := by
  unfold MutexSystem.tryAcquireLocal LocalOnly
  extract_lets store expiresAt
  split
  · next lease live => exact iff_of_true exclusive (by simp [live])
  · next free =>
      have alone : ∀ handle ∈ system.handles,
          handle.Active system.now → handle.store ≠ store := by
        intro handle given active same
        have live := tracked.backed.live_eq (active.claimed given) active.2
        rw [same, free] at live
        cases live
      rw [exclusive_obtain_iff exclusive fun _ => alone]
      simp [allowed, free, store, expiresAt]

/-- The store of a lock that was granted to a waiting call has no other holder. -/
theorem Tracked.alone {expiresAt : Number} (tracked : Tracked mutexes system)
    (found : system.calls[index]? = some call)
    (granted : call.stage = .executed (some expiresAt))
    (live : ¬ expiresAt ≤ .finite system.now) {handle : LockHandle}
    (given : handle ∈ system.handles) (active : handle.Active system.now)
    : handle.store ≠ call.redisStore mutexes := by
  intro same
  have waits := List.mem_of_getElem? found
  have claimed : _ ∈ system.claims mutexes := AcquireCall.claimed found granted
  have held : _ ∈ system.claims mutexes := active.claimed given
  rw [same] at held
  have one := tracked.backed.unique held active.2 claimed live
  obtain ⟨_, _, apart⟩ := List.nodup_append.mp tracked.distinct
  exact apart _ (List.mem_map_of_mem waits) _ (List.mem_map_of_mem given)
    (congrArg Lease.value one).symm

/-- A handle that is released is no holder any more. -/
theorem Exclusive.release {handle : LockHandle} (exclusive : Exclusive system)
    (found : system.handles[index]? = some handle)
    : Exclusive (system.release index handle) := by
  obtain ⟨before, after, whole, replaced, -⟩ :=
    exists_around found { handle with released := true }
  have pairs := exclusive
  rw [Exclusive, whole, List.pairwise_append, List.pairwise_cons] at pairs
  obtain ⟨first, ⟨_, second⟩, across⟩ := pairs
  simp only [Exclusive, MutexSystem.release, replaced]
  refine List.pairwise_append.mpr ⟨first, List.pairwise_cons.mpr ⟨?_, second⟩, ?_⟩
  · intro other _ both
    obtain ⟨_, ⟨unreleased, _⟩, _⟩ := both
    cases unreleased
  · intro other given one inRest both
    obtain ⟨same, active, activeToo⟩ := both
    rcases List.mem_cons.mp inRest with rfl | later
    · cases activeToo.1
    · exact across other given one (List.mem_cons_of_mem _ later) ⟨same, active, activeToo⟩

/-- Time only lets locks expire. -/
theorem Exclusive.elapse (exclusive : Exclusive system) (time : ℤ)
    : Exclusive { system with now := max system.now time } := by
  refine List.Pairwise.imp ?_ exclusive
  intro handle other apart both
  obtain ⟨same, active, activeToo⟩ := both
  have passed := RedisKeys.finite_le (le_max_left system.now time)
  refine apart ⟨same, ⟨active.1, fun expired => ?_⟩, activeToo.1, fun expired => ?_⟩
  · exact active.2 (Number.le_trans expired passed)
  · exact activeToo.2 (Number.le_trans expired passed)

theorem exclusive_tryAcquire_iff (tracked : Tracked mutexes system)
    (exclusive : Exclusive system)
    : Exclusive (system.tryAcquire mutexes index call)
      ↔ ((mutexes call.process).redis = false → LocalOnly mutexes system call) := by
  unfold MutexSystem.tryAcquire
  split_ifs with redis allowed
  · exact iff_of_true exclusive (by simp [redis])
  · rw [exclusive_tryAcquireLocal_iff tracked exclusive allowed]
    simp [redis]
  · exact iff_of_true exclusive fun _ fallback => absurd fallback allowed

theorem exclusive_setFailed_iff (tracked : Tracked mutexes system)
    (exclusive : Exclusive system)
    : Exclusive (system.setFailed mutexes index call) ↔ LocalOnly mutexes system call := by
  have lost : Tracked mutexes { system with lost := system.lost ++ [call] } :=
    ⟨tracked.distinct, tracked.backed⟩
  unfold MutexSystem.setFailed
  split_ifs with allowed
  · exact exclusive_tryAcquireLocal_iff lost exclusive allowed
  · exact iff_of_true exclusive fun fallback => absurd fallback allowed

/-- A step keeps one holder exactly when it takes no lock that is held in another store. -/
theorem exclusive_next_iff {event : MutexEvent} (tracked : Tracked mutexes system)
    (exclusive : Exclusive system)
    : Exclusive (system.next mutexes event) ↔ SingleStore mutexes system event := by
  have effect := next_effect mutexes system event
  generalize system.next mutexes event = after at effect ⊢
  cases effect with
  | idle none => exact iff_of_true exclusive none
  | tried found waiting =>
      rw [exclusive_tryAcquire_iff tracked exclusive]
      simp [SingleStore, found, waiting]
  | refused found refused =>
      exact iff_of_true exclusive
        (by simp [SingleStore, found, refused, AcquireStage.granted])
  | obtained found granted =>
      rw [exclusive_obtain_iff exclusive fun live handle given active =>
        tracked.alone found granted live given active]
      simp [SingleStore, found, granted, AcquireStage.granted]
  | failed found running =>
      rw [exclusive_setFailed_iff tracked exclusive]
      simp [SingleStore, found, running]
  | released found => exact iff_of_true (exclusive.release found) trivial
  | elapsed time => exact iff_of_true (exclusive.elapse time) trivial
  | acquired | executed | executedLost | deleted => exact iff_of_true exclusive trivial

-----------------------------------------------------------------------------------------
-- Runs
-----------------------------------------------------------------------------------------

/-- Nothing is tracked before the first call. -/
theorem Tracked.start : Tracked mutexes {} := by
  refine ⟨List.nodup_nil, ?_⟩
  intro store lease relied
  rcases relied with ⟨call, waits, _⟩ | ⟨handle, given, _⟩
  · cases waits
  · cases given

/-- From the start on, under calls with tokens of their own, no resource ever has two handles that
are neither released nor expired exactly when no lock is taken while another store holds one of
its resource.
-/
theorem exclusive_iff_singleStore (events : List MutexEvent)
    (fresh : Always (MutexSystem.next mutexes) FreshToken {} events)
    : Always (MutexSystem.next mutexes)
        (fun system event => Exclusive (system.next mutexes event)) {} events
      ↔ Always (MutexSystem.next mutexes) (SingleStore mutexes) {} events := by
  have tracked : Always (MutexSystem.next mutexes)
      (fun system _ => Tracked mutexes system) {} events :=
    fresh.of_invariant (fun system event tracked fresh => ⟨tracked, tracked.next fresh⟩) .start
  exact tracked.invariant_iff (fun system event tracked exclusive =>
    exclusive_next_iff tracked exclusive) List.Pairwise.nil

-----------------------------------------------------------------------------------------
-- Redis alone
-----------------------------------------------------------------------------------------

/-- Processes that take no local locks, and lock the same keys in Redis. -/
structure RedisAlone (mutexes : Nat → DistributedMutex) (keyPrefix : String) : Prop where
  redis : ∀ process, (mutexes process).redis = true
  strict : ∀ process, (mutexes process).allowInMemoryFallback = false
  keys : ∀ process, (mutexes process).keyPrefix = keyPrefix

/-- The mutexes made in production lock the same keys in Redis and have no fallback, unless an
option or the environment says otherwise.
-/
theorem RedisAlone.of_production {env : MutexEnvironment}
    {options : Nat → DistributedMutexOptions}
    (production : env.nodeEnv = some "production")
    (required : env.allowInMemoryMutex ≠ some "true")
    (unset : ∀ process, (options process).allowInMemoryFallback = none)
    (shared : ∀ process, (options process).keyPrefix = none)
    (made : ∀ process, DistributedMutex.new env (options process) = .ok (mutexes process))
    : RedisAlone mutexes (env.redisKeyPrefix.getD "crash:") := by
  have settings (process : Nat) :
      (mutexes process).redis = true ∧ (mutexes process).allowInMemoryFallback = false
        ∧ (mutexes process).keyPrefix = env.redisKeyPrefix.getD "crash:" := by
    have mutex := made process
    unfold DistributedMutex.new at mutex
    extract_lets redis requireRedis at mutex
    have requires : requireRedis = true := by simp [requireRedis, production]
    split_ifs at mutex with missing
    rw [← Except.ok.inj mutex]
    refine ⟨?_, by simp [unset, production, required], by simp [shared]⟩
    simpa [requires, required] using missing
  exact ⟨fun process => (settings process).1, fun process => (settings process).2.1,
    fun process => (settings process).2.2⟩

/-- Every handle is one of the key of its resource. -/
def InRedis (keyPrefix : String) (system : MutexSystem) : Prop :=
  ∀ handle ∈ system.handles, handle.store = .redis (keyPrefix ++ "mutex:" ++ handle.resource)

namespace RedisAlone

variable {keyPrefix : String}

theorem redisStore_eq (alone : RedisAlone mutexes keyPrefix) (call : AcquireCall)
    : call.redisStore mutexes = .redis (keyPrefix ++ "mutex:" ++ call.resource) := by
  rw [AcquireCall.redisStore, DistributedMutex.lockKey, alone.keys]

/-- No step takes a lock that is held in another store. -/
theorem singleStore (alone : RedisAlone mutexes keyPrefix) (inRedis : InRedis keyPrefix system)
    (event : MutexEvent)
    : SingleStore mutexes system event := by
  have never (call : AcquireCall) : LocalOnly mutexes system call := by
    intro allowed
    rw [alone.strict] at allowed
    cases allowed
  cases event with
  | attempt index => exact fun call _ _ _ => never call
  | fail index => exact fun call _ _ => never call
  | answer index =>
      intro call _ expiresAt _ _ handle given same _
      rw [alone.redisStore_eq, inRedis handle given, same]
  | acquire | execute | executeLost | release | executeDelete | elapse => trivial

theorem next (alone : RedisAlone mutexes keyPrefix) (inRedis : InRedis keyPrefix system)
    (event : MutexEvent)
    : InRedis keyPrefix (system.next mutexes event) := by
  have effect := next_effect mutexes system event
  generalize system.next mutexes event = after at effect ⊢
  cases effect with
  | @obtained _ call _ found granted =>
      intro handle given
      rcases List.mem_append.mp given with earlier | new
      · exact inRedis handle earlier
      · obtain rfl := List.mem_singleton.mp new
        exact alone.redisStore_eq call
  | @released _ handle found =>
      intro other given
      rcases List.mem_or_eq_of_mem_set given with earlier | rfl
      · exact inRedis other earlier
      · exact inRedis handle (List.mem_of_getElem? found)
  | tried =>
      simp only [MutexSystem.tryAcquire, alone.redis]
      exact inRedis
  | failed =>
      simp only [MutexSystem.setFailed, alone.strict]
      exact inRedis
  | idle | acquired | executed | refused | executedLost | deleted | elapsed => exact inRedis

end RedisAlone

/-- Processes that lock the same keys in Redis and have no fallback keep every resource to one
holder.
-/
theorem exclusive_of_redisAlone {keyPrefix : String} (alone : RedisAlone mutexes keyPrefix)
    (events : List MutexEvent)
    (fresh : Always (MutexSystem.next mutexes) FreshToken {} events)
    : Always (MutexSystem.next mutexes)
        (fun system event => Exclusive (system.next mutexes event)) {} events := by
  have kept (system : MutexSystem) (event : MutexEvent)
      (inv : Tracked mutexes system ∧ Exclusive system ∧ InRedis keyPrefix system)
      (fresh : FreshToken system event)
      : Exclusive (system.next mutexes event)
        ∧ Tracked mutexes (system.next mutexes event)
        ∧ Exclusive (system.next mutexes event)
        ∧ InRedis keyPrefix (system.next mutexes event) := by
    obtain ⟨tracked, exclusive, inRedis⟩ := inv
    have next := (exclusive_next_iff tracked exclusive).mpr (alone.singleStore inRedis event)
    exact ⟨next, tracked.next fresh, next, alone.next inRedis event⟩
  have none : InRedis keyPrefix {} := by
    intro handle given
    cases given
  exact fresh.of_invariant kept ⟨.start, List.Pairwise.nil, none⟩

/-- From the start on, under calls with tokens of their own, no resource ever has two handles that
are neither released nor expired, provided that no lock is taken while another store holds one of
its resource. Processes that lock the same keys in Redis and have no fallback need no such care.
-/
theorem mutual_exclusion (events : List MutexEvent)
    (fresh : Always (MutexSystem.next mutexes) FreshToken {} events)
    : (Always (MutexSystem.next mutexes) (SingleStore mutexes) {} events →
        Always (MutexSystem.next mutexes)
          (fun system event => Exclusive (system.next mutexes event)) {} events)
      ∧ ∀ keyPrefix, RedisAlone mutexes keyPrefix →
        Always (MutexSystem.next mutexes)
          (fun system event => Exclusive (system.next mutexes event)) {} events :=
  ⟨(exclusive_iff_singleStore events fresh).mpr,
    fun _ alone => exclusive_of_redisAlone alone events fresh⟩

/-- The mutexes of processes that share one Redis, with or without the fallback. -/
def sharedRedis (allowInMemoryFallback : Bool) (_ : Nat) : DistributedMutex where
  redis := true
  lockTimeoutMs := 30000
  retryCount := 5
  keyPrefix := "crash:"
  allowInMemoryFallback

/-- A second process finds the lock taken until it is released, and so it does where its first
call fails and there is no fallback.
-/
theorem mutual_exclusion_contended
    : Always (MutexSystem.next (sharedRedis true))
        (fun system event => Exclusive (system.next (sharedRedis true) event)) {}
        [.acquire 0 "bet" "a", .attempt 0, .execute 0, .answer 0,
          .acquire 1 "bet" "b", .attempt 0, .execute 0, .answer 0,
          .release 0, .executeDelete 0, .attempt 0, .execute 0, .answer 0]
      ∧ Always (MutexSystem.next (sharedRedis false))
        (fun system event => Exclusive (system.next (sharedRedis false) event)) {}
        [.acquire 0 "bet" "a", .attempt 0, .execute 0, .answer 0,
          .acquire 1 "bet" "b", .attempt 0, .fail 0, .attempt 0, .execute 0, .answer 0] :=
  ⟨(mutual_exclusion _ (by decide +kernel)).1 (by decide +kernel),
    (mutual_exclusion _ (by decide +kernel)).2 "crash:"
      ⟨fun _ => rfl, fun _ => rfl, fun _ => rfl⟩⟩

/-- While one process holds the lock in Redis, the call of another one fails and it takes its own
local lock.
-/
theorem fallback_takes_held_lock
    : let events : List MutexEvent :=
        [.acquire 0 "bet" "a", .attempt 0, .execute 0, .answer 0,
          .acquire 1 "bet" "b", .attempt 0, .fail 0]
      Always (MutexSystem.next (sharedRedis true)) FreshToken {} events
      ∧ ¬ Exclusive (run (MutexSystem.next (sharedRedis true)) {} events) := by
  decide +kernel

end CrashWave.Core
