import CrashWave.Core.DistributedMutex
import CrashWave.Runs.Basic
import Mathlib.Data.List.Nodup

/-! What the handles and the waiting acquires of the distributed mutex rely on: leases that are
stored while they are live, each under a token of its own.
-/

namespace CrashWave.Core

open JavaScript Leases Persistence Runs

variable {mutexes : Nat → DistributedMutex} {system : MutexSystem}

/-- The handle was not released and its lock has not expired. -/
def LockHandle.Active (handle : LockHandle) (now : ℤ) : Prop :=
  handle.released = false ∧ ¬ handle.expiresAt ≤ .finite now

instance (handle : LockHandle) (now : ℤ) : Decidable (handle.Active now) :=
  inferInstanceAs (Decidable (_ ∧ _))

/-- Every active handle of the resource is one of the store. -/
def OnlyIn (system : MutexSystem) (resource : String) (store : LockStore) : Prop :=
  ∀ handle ∈ system.handles,
    handle.resource = resource → handle.Active system.now → handle.store = store

instance (resource : String) (store : LockStore) : Decidable (OnlyIn system resource store) :=
  inferInstanceAs (Decidable (∀ _ ∈ _, _))

/-- Where a process may take its local lock, which is free and does not expire at once, no lock of
the resource is held in another store.
-/
def LocalOnly (mutexes : Nat → DistributedMutex) (system : MutexSystem) (call : AcquireCall)
    : Prop :=
  let store := LockStore.localLocks call.process call.resource
  (mutexes call.process).allowInMemoryFallback = true →
    system.locks.live (.finite system.now) store = none →
      ¬ (mutexes call.process).expiry system.now ≤ .finite system.now →
        OnlyIn system call.resource store

instance (call : AcquireCall) : Decidable (LocalOnly mutexes system call) :=
  inferInstanceAs (Decidable (_ → _ → _ → _))

/-- The time until which Redis granted the lock to a call that waits. -/
def AcquireStage.granted : AcquireStage → Option Number
  | .executed expiresAt => expiresAt
  | .waiting | .sent => none

/-- A lock is taken only where no lock of the resource is held in another store: by an attempt
without Redis, by the answer of Redis, and by the fallback from a failed call.
-/
def SingleStore (mutexes : Nat → DistributedMutex) (system : MutexSystem)
    : MutexEvent → Prop
  | .attempt index =>
      ∀ call ∈ system.calls[index]?, call.stage = .waiting →
        (mutexes call.process).redis = false → LocalOnly mutexes system call
  | .answer index =>
      ∀ call ∈ system.calls[index]?, ∀ expiresAt ∈ call.stage.granted,
        ¬ expiresAt ≤ .finite system.now →
          OnlyIn system call.resource (call.redisStore mutexes)
  | .fail index =>
      ∀ call ∈ system.calls[index]?, call.stage ≠ .waiting → LocalOnly mutexes system call
  | .acquire .. | .execute _ | .executeLost _ | .release _ | .executeDelete _ | .elapse _ => True

instance : (event : MutexEvent) → Decidable (SingleStore mutexes system event)
  | .attempt _ | .fail _ => inferInstanceAs (Decidable (∀ _ ∈ _, _ → _))
  | .answer _ => inferInstanceAs (Decidable (∀ _ ∈ _, ∀ _ ∈ _, _ → _))
  | .acquire .. | .execute _ | .executeLost _ | .release _ | .executeDelete _ | .elapse _ =>
      .isTrue trivial

/-- A call starts with a token that no waiting call and no handle has. -/
def FreshToken (system : MutexSystem) : MutexEvent → Prop
  | .acquire _ _ token =>
      (∀ call ∈ system.calls, call.token ≠ token)
      ∧ ∀ handle ∈ system.handles, handle.token ≠ token
  | _ => True

instance : (event : MutexEvent) → Decidable (FreshToken system event)
  | .acquire _ _ _ => inferInstanceAs (Decidable (_ ∧ _))
  | .attempt _ | .execute _ | .answer _ | .fail _ | .executeLost _ | .release _
  | .executeDelete _ | .elapse _ => .isTrue trivial

-----------------------------------------------------------------------------------------
-- What a step does
-----------------------------------------------------------------------------------------

/-- The steps that a system can take, with what is known of the call or the handle. A step that
does nothing takes no lock.
-/
inductive MutexEffect (mutexes : Nat → DistributedMutex) (system : MutexSystem)
    : MutexEvent → MutexSystem → Prop where
  | idle {event} (none : SingleStore mutexes system event)
    : MutexEffect mutexes system event system
  | acquired (process : Nat) (resource token : String)
    : MutexEffect mutexes system (.acquire process resource token)
      { system with calls := system.calls ++ [⟨process, resource, token, 0, .waiting⟩] }
  | tried {index call} (found : system.calls[index]? = some call)
      (waiting : call.stage = .waiting)
    : MutexEffect mutexes system (.attempt index) (system.tryAcquire mutexes index call)
  | executed {index call} (found : system.calls[index]? = some call)
    : MutexEffect mutexes system (.execute index) (system.execute mutexes index call)
  | refused {index call} (found : system.calls[index]? = some call)
      (refused : call.stage = .executed none)
    : MutexEffect mutexes system (.answer index) (system.retry mutexes index call)
  | obtained {index call expiresAt} (found : system.calls[index]? = some call)
      (granted : call.stage = .executed (some expiresAt))
    : MutexEffect mutexes system (.answer index)
      (system.obtain index call (call.redisStore mutexes) expiresAt)
  | failed {index call} (found : system.calls[index]? = some call)
      (running : call.stage ≠ .waiting)
    : MutexEffect mutexes system (.fail index) (system.setFailed mutexes index call)
  | executedLost (index : Nat) (call : AcquireCall)
    : MutexEffect mutexes system (.executeLost index) (system.executeSet mutexes call)
  | released {index handle} (found : system.handles[index]? = some handle)
    : MutexEffect mutexes system (.release index) (system.release index handle)
  | deleted {index handle} (found : system.handles[index]? = some handle)
      (released : handle.released = true)
    : MutexEffect mutexes system (.executeDelete index) (system.executeDelete handle)
  | elapsed (time : ℤ)
    : MutexEffect mutexes system (.elapse time) { system with now := max system.now time }

theorem next_effect (mutexes : Nat → DistributedMutex) (system : MutexSystem)
    (event : MutexEvent)
    : MutexEffect mutexes system event (system.next mutexes event) := by
  cases event with
  | acquire process resource token =>
      simp only [MutexSystem.next]
      split_ifs
      · exact .acquired process resource token
      · exact .idle trivial
  | attempt index =>
      simp only [MutexSystem.next]
      split
      · next absent => exact .idle (by simp [SingleStore, absent])
      · next call found =>
          split
          · next waiting => exact .tried found waiting
          all_goals
            next running => exact .idle (by simp [SingleStore, found, running])
  | execute index =>
      simp only [MutexSystem.next]
      split
      · exact .idle trivial
      · next call found =>
          split
          · exact .idle trivial
          all_goals
            split_ifs
            · exact .executed found
            · exact .idle trivial
  | answer index =>
      simp only [MutexSystem.next]
      split
      · next absent => exact .idle (by simp [SingleStore, absent])
      · next call found =>
          split
          · next waiting =>
              exact .idle (by simp [SingleStore, found, waiting, AcquireStage.granted])
          · next sent => exact .idle (by simp [SingleStore, found, sent, AcquireStage.granted])
          · next refused => exact .refused found refused
          · next expiresAt granted => exact .obtained found granted
  | fail index =>
      simp only [MutexSystem.next]
      split
      · next absent => exact .idle (by simp [SingleStore, absent])
      · next call found =>
          split
          · next waiting => exact .idle (by simp [SingleStore, found, waiting])
          all_goals
            next running => exact .failed found (by simp [running])
  | executeLost index =>
      simp only [MutexSystem.next]
      split
      · exact .idle trivial
      · next call _ =>
          split_ifs
          · exact .executedLost index call
          · exact .idle trivial
  | release index =>
      simp only [MutexSystem.next]
      split
      · exact .idle trivial
      · next handle found => exact .released found
  | executeDelete index =>
      simp only [MutexSystem.next]
      split
      · exact .idle trivial
      · next handle found =>
          split_ifs with released
          · exact .deleted found released
          · exact .idle trivial
  | elapse time => exact .elapsed time

-----------------------------------------------------------------------------------------
-- What the handles and the calls rely on
-----------------------------------------------------------------------------------------

/-- The lease that an unreleased handle relies on. -/
def LockHandle.claim (handle : LockHandle) : Option (LockStore × Lease String Number) :=
  if handle.released then none
  else some (handle.store, ⟨handle.token, handle.expiresAt⟩)

/-- The lease that a call was granted whose process does not know it yet. -/
def AcquireCall.claim (mutexes : Nat → DistributedMutex) (call : AcquireCall)
    : Option (LockStore × Lease String Number) :=
  call.stage.granted.map fun expiresAt => (call.redisStore mutexes, ⟨call.token, expiresAt⟩)

def MutexSystem.claims (mutexes : Nat → DistributedMutex) (system : MutexSystem)
    : Set (LockStore × Lease String Number) :=
  { claim |
    (∃ call ∈ system.calls, call.claim mutexes = some claim)
    ∨ ∃ handle ∈ system.handles, handle.claim = some claim }

def MutexSystem.tokens (system : MutexSystem) : List String :=
  system.calls.map (·.token) ++ system.handles.map (·.token)

/-- A lock that was granted to a call is relied on until the call goes on. -/
theorem AcquireCall.claimed {index : Nat} {call : AcquireCall} {expiresAt : Number}
    (found : system.calls[index]? = some call)
    (granted : call.stage = .executed (some expiresAt))
    : (call.redisStore mutexes, ⟨call.token, expiresAt⟩) ∈ system.claims mutexes := by
  refine .inl ⟨call, List.mem_of_getElem? found, ?_⟩
  simp [AcquireCall.claim, AcquireStage.granted, granted]

/-- The tokens of the calls and handles are different, and what they rely on is stored. -/
structure Tracked (mutexes : Nat → DistributedMutex) (system : MutexSystem) : Prop where
  distinct : system.tokens.Nodup
  backed : Backed (.finite system.now) system.locks (system.claims mutexes)

namespace Tracked

/-- Calls that rely on no more, under no other tokens, rely on what is stored. -/
theorem calling {calls : List AcquireCall} (tracked : Tracked mutexes system)
    (tokens : (calls.map (·.token)).Sublist (system.calls.map (·.token)))
    (claims : ∀ call ∈ calls, call ∈ system.calls ∨ call.claim mutexes = none)
    : Tracked mutexes { system with calls } := by
  refine ⟨tracked.distinct.sublist (tokens.append_right _), tracked.backed.mono ?_⟩
  intro claim relied
  rcases relied with ⟨call, waits, claimed⟩ | handled
  · rcases claims call waits with before | none
    · exact .inl ⟨call, before, claimed⟩
    · simp [none] at claimed
  · exact .inr handled

/-- A handle that is released relies on nothing, and its token is relied on by nobody else. -/
theorem unclaimed {handle : LockHandle} (tracked : Tracked mutexes system)
    (held : handle ∈ system.handles) (released : handle.released = true)
    {place : LockStore} {lease : Lease String Number}
    (claimed : (place, lease) ∈ system.claims mutexes)
    : lease.value ≠ handle.token := by
  obtain ⟨_, handles, apart⟩ := List.nodup_append.mp tracked.distinct
  intro same
  rcases claimed with ⟨call, waits, claimed⟩ | ⟨other, given, claimed⟩
  · have token : call.token = handle.token := by
      obtain ⟨expiresAt, _, granted⟩ := Option.map_eq_some_iff.mp claimed
      cases granted
      exact same
    exact apart _ (List.mem_map_of_mem waits) _ (List.mem_map_of_mem held) token
  · unfold LockHandle.claim at claimed
    split at claimed
    · cases claimed
    · next unreleased =>
        cases claimed
        have one : other = handle := List.inj_on_of_nodup_map handles given held same
        exact unreleased (one ▸ released)

variable {index : Nat} {call : AcquireCall}

/-- A call that goes on under its token leaves the tokens as they are. -/
theorem set_tokens (found : system.calls[index]? = some call) (other : AcquireCall)
    (token : other.token = call.token)
    : (system.calls.set index other).map (·.token) = system.calls.map (·.token) := by
  obtain ⟨before, after, whole, replaced, -⟩ := exists_around found other
  rw [replaced, whole]
  simp [token]

/-- A call that waits with nothing granted relies on nothing. -/
theorem calling_set {other : AcquireCall} (tracked : Tracked mutexes system)
    (found : system.calls[index]? = some call) (token : other.token = call.token)
    (claim : other.claim mutexes = none)
    : Tracked mutexes { system with calls := system.calls.set index other } := by
  have tokens := set_tokens found other token
  refine tracked.calling (by rw [tokens]) fun each waits => ?_
  rcases List.mem_or_eq_of_mem_set waits with before | rfl
  · exact .inl before
  · exact .inr claim

theorem retry (tracked : Tracked mutexes system) (found : system.calls[index]? = some call)
    : Tracked mutexes (system.retry mutexes index call) := by
  unfold MutexSystem.retry
  split
  · exact tracked.calling_set found rfl rfl
  · refine tracked.calling ((List.eraseIdx_sublist ..).map _) fun each waits => ?_
    exact .inl (List.mem_of_mem_eraseIdx waits)

/-- A call that has its lock hands its token to the handle, which relies on what it was granted. -/
theorem obtain {locks : Table LockStore String Number} {store : LockStore} {expiresAt : Number}
    (distinct : system.tokens.Nodup) (found : system.calls[index]? = some call)
    (backed : Backed (.finite system.now) locks
      (insert (store, ⟨call.token, expiresAt⟩) (system.claims mutexes)))
    : Tracked mutexes (MutexSystem.obtain { system with locks } index call store expiresAt) := by
  obtain ⟨before, after, whole, -, erased⟩ := exists_around found call
  constructor
  · have moved :
        (MutexSystem.obtain { system with locks } index call store expiresAt).tokens.Perm
          system.tokens := by
      simp only [MutexSystem.tokens, MutexSystem.obtain, erased]
      simp only [whole, List.map_append, List.map_cons, List.map_nil, ← List.append_assoc]
      refine (List.perm_append_singleton ..).trans ?_
      simp only [List.append_assoc, List.cons_append]
      exact List.perm_middle.symm
    exact moved.nodup_iff.mpr distinct
  · refine backed.mono ?_
    intro claim relied
    rcases relied with ⟨each, waits, claimed⟩ | ⟨handle, given, claimed⟩
    · exact .inr (.inl ⟨each, List.mem_of_mem_eraseIdx waits, claimed⟩)
    · rcases List.mem_append.mp given with earlier | new
      · exact .inr (.inr ⟨handle, earlier, claimed⟩)
      · obtain rfl := List.mem_singleton.mp new
        exact .inl (Option.some_inj.mp claimed).symm

theorem tryAcquireLocal (tracked : Tracked mutexes system)
    (found : system.calls[index]? = some call)
    : Tracked mutexes (system.tryAcquireLocal mutexes index call) := by
  unfold MutexSystem.tryAcquireLocal
  extract_lets store expiresAt
  split
  · exact tracked.retry found
  · next free => exact obtain tracked.distinct found (tracked.backed.grant_insert free _)

theorem tryAcquire (tracked : Tracked mutexes system)
    (found : system.calls[index]? = some call)
    : Tracked mutexes (system.tryAcquire mutexes index call) := by
  unfold MutexSystem.tryAcquire
  split_ifs
  · exact tracked.calling_set found rfl rfl
  · exact tracked.tryAcquireLocal found
  · exact tracked.retry found

theorem setFailed (tracked : Tracked mutexes system)
    (found : system.calls[index]? = some call)
    : Tracked mutexes (system.setFailed mutexes index call) := by
  have lost : Tracked mutexes { system with lost := system.lost ++ [call] } :=
    ⟨tracked.distinct, tracked.backed⟩
  unfold MutexSystem.setFailed
  split_ifs
  · exact lost.tryAcquireLocal found
  · exact lost.retry found

/-- A lock that Redis grants to nobody who waits for it changes nothing that is relied on. -/
theorem executeSet (tracked : Tracked mutexes system) (call : AcquireCall)
    : Tracked mutexes (system.executeSet mutexes call) :=
  ⟨tracked.distinct, tracked.backed.grant _ _⟩

/-- The call whose `SET` is executed relies on the lock that it was granted. -/
theorem execute (tracked : Tracked mutexes system) (found : system.calls[index]? = some call)
    : Tracked mutexes (system.execute mutexes index call) := by
  unfold MutexSystem.execute MutexSystem.setResult
  split
  · next free =>
      have backed := tracked.backed.grant_insert free
        ⟨call.token, (mutexes call.process).expiry system.now⟩
      refine ⟨?_, backed.mono ?_⟩
      · have distinct := tracked.distinct
        rw [MutexSystem.tokens, ← set_tokens found { call with stage := .executed _ } rfl]
          at distinct
        exact distinct
      · intro claim relied
        rcases relied with ⟨each, waits, claimed⟩ | given
        · rcases List.mem_or_eq_of_mem_set waits with before | rfl
          · exact .inr (.inl ⟨each, before, claimed⟩)
          · exact .inl (Option.some_inj.mp claimed).symm
        · exact .inr (.inr given)
  · exact (tracked.executeSet call).calling_set found rfl rfl

theorem executeDelete {handle : LockHandle} (tracked : Tracked mutexes system)
    (held : handle ∈ system.handles) (released : handle.released = true)
    : Tracked mutexes (system.executeDelete handle) := by
  have backed : Backed (.finite system.now)
      (system.locks.surrender handle.store (· == handle.token)) (system.claims mutexes) :=
    tracked.backed.surrender fun lease claimed =>
      beq_eq_false_iff_ne.mpr (tracked.unclaimed held released claimed)
  exact ⟨tracked.distinct, backed⟩

theorem release {handle : LockHandle} (tracked : Tracked mutexes system)
    (found : system.handles[index]? = some handle)
    : Tracked mutexes (system.release index handle) := by
  have released :
      Tracked mutexes
        { system with handles := system.handles.set index { handle with released := true } } := by
    obtain ⟨before, after, whole, replaced, -⟩ :=
      exists_around found { handle with released := true }
    refine ⟨?_, tracked.backed.mono ?_⟩
    · have distinct := tracked.distinct
      rw [MutexSystem.tokens, whole] at distinct
      rw [MutexSystem.tokens, replaced]
      simpa using distinct
    · intro claim relied
      rcases relied with waits | ⟨other, given, claimed⟩
      · exact .inl waits
      · rcases List.mem_or_eq_of_mem_set given with earlier | rfl
        · exact .inr ⟨other, earlier, claimed⟩
        · cases claimed
  have kept : { handle with released := true }
      ∈ system.handles.set index { handle with released := true } :=
    List.mem_set (List.getElem?_eq_some_iff.mp found).1 _
  cases stored : handle.store with
  | redis key => simpa only [MutexSystem.release, stored] using released
  | localLocks process resource =>
      have deleted := released.executeDelete kept rfl
      simpa only [MutexSystem.release, MutexSystem.executeDelete, stored] using deleted

/-- A call that starts under its own token relies on nothing. -/
theorem acquire {process : Nat} {resource token : String} (tracked : Tracked mutexes system)
    (fresh : FreshToken system (.acquire process resource token))
    : Tracked mutexes
        { system with calls := system.calls ++ [⟨process, resource, token, 0, .waiting⟩] } := by
  refine ⟨?_, tracked.backed.mono ?_⟩
  · have apart : token ∉ system.tokens := by
      simpa [MutexSystem.tokens, FreshToken, not_or] using fresh
    have distinct := List.nodup_cons.mpr ⟨apart, tracked.distinct⟩
    simp only [MutexSystem.tokens, List.map_append, List.append_assoc]
    exact List.perm_middle.nodup_iff.mpr distinct
  · intro claim relied
    rcases relied with ⟨call, waits, claimed⟩ | given
    · rcases List.mem_append.mp waits with before | new
      · exact .inl ⟨call, before, claimed⟩
      · obtain rfl := List.mem_singleton.mp new
        cases claimed
    · exact .inr given

theorem next {event : MutexEvent} (tracked : Tracked mutexes system)
    (fresh : FreshToken system event)
    : Tracked mutexes (system.next mutexes event) := by
  have effect := next_effect mutexes system event
  generalize system.next mutexes event = after at effect ⊢
  cases effect with
  | idle => exact tracked
  | acquired => exact tracked.acquire fresh
  | tried found => exact tracked.tryAcquire found
  | executed found => exact tracked.execute found
  | refused found => exact tracked.retry found
  | @obtained _ call _ found granted =>
      refine obtain tracked.distinct found ?_
      rw [Set.insert_eq_of_mem (call.claimed found granted)]
      exact tracked.backed
  | failed found => exact tracked.setFailed found
  | executedLost => exact tracked.executeSet _
  | released found => exact tracked.release found
  | deleted found released =>
      exact tracked.executeDelete (List.mem_of_getElem? found) released
  | elapsed time =>
      have passed := RedisKeys.finite_le (le_max_left system.now time)
      exact ⟨tracked.distinct, tracked.backed.later passed⟩

end Tracked

end CrashWave.Core
