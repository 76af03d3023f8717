import CrashWave.Persistence.RedisKeys

/-! The distributed mutex: acquires of several processes that share one Redis, with the local
locks of each process as the fallback. Times are milliseconds of one clock.
-/

namespace CrashWave.Core

open JavaScript Leases Persistence

-----------------------------------------------------------------------------------------
-- The constructor
-----------------------------------------------------------------------------------------

/-- What the constructor reads of `process.env`. -/
structure MutexEnvironment where
  redisKeyPrefix : Option String
  allowInMemoryMutex : Option String
  requireRedis : Option String
  nodeEnv : Option String

/-- The options, of which a given client counts as present. -/
structure DistributedMutexOptions where
  redisUrl : Option String
  redisClient : Bool
  lockTimeoutMs : Option Number
  retryCount : Option Number
  keyPrefix : Option String
  allowInMemoryFallback : Option Bool

/-- The settings of a mutex, and whether it has a Redis client. -/
structure DistributedMutex where
  redis : Bool
  lockTimeoutMs : Number
  retryCount : Number
  keyPrefix : String
  allowInMemoryFallback : Bool

namespace DistributedMutex

def new (env : MutexEnvironment) (options : DistributedMutexOptions)
    : Except String DistributedMutex :=
  let redis := options.redisClient || truthy options.redisUrl
  let requireRedis := env.requireRedis = some "true" || env.nodeEnv = some "production"
  if !redis && requireRedis && env.allowInMemoryMutex ≠ some "true" then
    .error ("DistributedMutex: Redis is required in production "
      ++ "(set REDIS_URL or ALLOW_INMEMORY_MUTEX=true for single-instance only)")
  else
    .ok {
      redis
      lockTimeoutMs := options.lockTimeoutMs.getD 30000
      retryCount := options.retryCount.getD 5
      keyPrefix := (options.keyPrefix.or env.redisKeyPrefix).getD "crash:"
      allowInMemoryFallback := options.allowInMemoryFallback.getD
        (env.allowInMemoryMutex = some "true" || env.nodeEnv ≠ some "production")
    }

def lockKey (mutex : DistributedMutex) (resource : String) : String :=
  mutex.keyPrefix ++ "mutex:" ++ resource

/-- When a lock that is taken now expires. -/
def expiry (mutex : DistributedMutex) (now : ℤ) : Number :=
  RedisKeys.expiry now mutex.lockTimeoutMs

end DistributedMutex

-----------------------------------------------------------------------------------------
-- Processes that share one Redis
-----------------------------------------------------------------------------------------

/-- Where a lock is stored: under a key in Redis, or for a resource in the `localLocks` of a
process.
-/
inductive LockStore where
  | redis (key : String)
  | localLocks (process : Nat) (resource : String)
  deriving DecidableEq

/-- A handle with the store and the expiry of its lock, and whether `release` was called. -/
structure LockHandle where
  token : String
  resource : String
  store : LockStore
  expiresAt : Number
  released : Bool
  deriving DecidableEq

/-- The point that `acquire` waits at: before an attempt, or for the answer to its `SET`, which
Redis has executed or not. It granted the lock until a time or answered null.
-/
inductive AcquireStage where
  | waiting
  | sent
  | executed (expiresAt : Option Number)
  deriving DecidableEq

/-- An `acquire` that waits, with the number of its attempt. -/
structure AcquireCall where
  process : Nat
  resource : String
  token : String
  attempt : Nat
  stage : AcquireStage
  deriving DecidableEq

/-- The key in Redis of the lock that a call is for. -/
def AcquireCall.redisStore (mutexes : Nat → DistributedMutex) (call : AcquireCall)
    : LockStore :=
  .redis ((mutexes call.process).lockKey call.resource)

/-- The clock, what Redis and the processes store, the acquires that wait, those whose `SET` was
lost by its process and may still be executed, and the handles that were given out.
-/
structure MutexSystem where
  now : ℤ := 0
  locks : Table LockStore String Number := fun _ => none
  calls : List AcquireCall := []
  lost : List AcquireCall := []
  handles : List LockHandle := []

/-- A call or an attempt of a process, what becomes of the `SET` of a call that waits, or what
Redis executes of what was sent before: a lost `SET`, or the script of a handle that is released,
each any number of times.
-/
inductive MutexEvent where
  | acquire (process : Nat) (resource token : String)
  | attempt (index : Nat)
  | execute (index : Nat)
  | answer (index : Nat)
  | fail (index : Nat)
  | executeLost (index : Nat)
  | release (index : Nat)
  | executeDelete (index : Nat)
  | elapse (time : ℤ)

namespace MutexSystem

variable (mutexes : Nat → DistributedMutex)

/-- An attempt that did not get the lock: the next one, or `acquire` returns null. -/
def retry (system : MutexSystem) (index : Nat) (call : AcquireCall) : MutexSystem :=
  { system with
    calls :=
      if .finite (call.attempt + 1 : Nat) ≤ (mutexes call.process).retryCount then
        system.calls.set index { call with attempt := call.attempt + 1, stage := .waiting }
      else system.calls.eraseIdx index }

/-- `acquire` returns the handle of a lock. -/
def obtain (system : MutexSystem) (index : Nat) (call : AcquireCall) (store : LockStore)
    (expiresAt : Number)
    : MutexSystem :=
  let handle := ⟨call.token, call.resource, store, expiresAt, false⟩
  { system with
    calls := system.calls.eraseIdx index
    handles := system.handles ++ [handle] }

def tryAcquireLocal (system : MutexSystem) (index : Nat) (call : AcquireCall) : MutexSystem :=
  let store := LockStore.localLocks call.process call.resource
  let expiresAt := (mutexes call.process).expiry system.now
  match system.locks.live (.finite system.now) store with
  | some _ => system.retry mutexes index call
  | none =>
      let locks := system.locks.grant (.finite system.now) store ⟨call.token, expiresAt⟩
      { system with locks }.obtain index call store expiresAt

/-- `tryAcquire` up to its `SET`, or without Redis. -/
def tryAcquire (system : MutexSystem) (index : Nat) (call : AcquireCall) : MutexSystem :=
  if (mutexes call.process).redis then
    { system with calls := system.calls.set index { call with stage := .sent } }
  else if (mutexes call.process).allowInMemoryFallback then
    system.tryAcquireLocal mutexes index call
  else system.retry mutexes index call

/-- The fallback of `tryAcquire` after its `SET` failed. -/
def setFailed (system : MutexSystem) (index : Nat) (call : AcquireCall) : MutexSystem :=
  let system := { system with lost := system.lost ++ [call] }
  if (mutexes call.process).allowInMemoryFallback then
    system.tryAcquireLocal mutexes index call
  else system.retry mutexes index call

/-- Redis executes the `SET` of a call, whose options it accepts. -/
def executeSet (system : MutexSystem) (call : AcquireCall) : MutexSystem :=
  { system with
    locks := system.locks.grant (.finite system.now) (call.redisStore mutexes)
      ⟨call.token, (mutexes call.process).expiry system.now⟩ }

/-- What Redis answers to it: the time until which the lock is granted, or null. -/
def setResult (system : MutexSystem) (call : AcquireCall) : Option Number :=
  match system.locks.live (.finite system.now) (call.redisStore mutexes) with
  | none => some ((mutexes call.process).expiry system.now)
  | some _ => none

/-- Redis executes the `SET` of a call that waits for its answer. -/
def execute (system : MutexSystem) (index : Nat) (call : AcquireCall) : MutexSystem :=
  let answered := { call with stage := .executed (system.setResult mutexes call) }
  { system.executeSet mutexes call with calls := system.calls.set index answered }

/-- `release`, where a lock in Redis is left to the script. -/
def release (system : MutexSystem) (index : Nat) (handle : LockHandle) : MutexSystem :=
  let locks :=
    match handle.store with
    | .redis _ => system.locks
    | .localLocks _ _ => system.locks.surrender handle.store (· == handle.token)
  { system with
    locks
    handles := system.handles.set index { handle with released := true } }

/-- The script of `release`, which deletes the key if it still has the token. -/
def executeDelete (system : MutexSystem) (handle : LockHandle) : MutexSystem :=
  { system with locks := system.locks.surrender handle.store (· == handle.token) }

def next (system : MutexSystem) : MutexEvent → MutexSystem
  | .acquire process resource token =>
      if 0 ≤ (mutexes process).retryCount then
        { system with
          calls := system.calls ++ [⟨process, resource, token, 0, .waiting⟩] }
      else system
  | .attempt index =>
      match system.calls[index]? with
      | none => system
      | some call =>
          match call.stage with
          | .waiting => system.tryAcquire mutexes index call
          | .sent | .executed _ => system
  | .execute index =>
      match system.calls[index]? with
      | none => system
      | some call =>
          match call.stage with
          | .waiting => system
          | .sent | .executed _ =>
              if RedisKeys.accepts (mutexes call.process).lockTimeoutMs then
                system.execute mutexes index call
              else system
  | .answer index =>
      match system.calls[index]? with
      | none => system
      | some call =>
          match call.stage with
          | .waiting | .sent => system
          | .executed none => system.retry mutexes index call
          | .executed (some expiresAt) =>
              system.obtain index call (call.redisStore mutexes) expiresAt
  | .fail index =>
      match system.calls[index]? with
      | none => system
      | some call =>
          match call.stage with
          | .waiting => system
          | .sent | .executed _ => system.setFailed mutexes index call
  | .executeLost index =>
      match system.lost[index]? with
      | none => system
      | some call =>
          if RedisKeys.accepts (mutexes call.process).lockTimeoutMs then
            system.executeSet mutexes call
          else system
  | .release index =>
      match system.handles[index]? with
      | none => system
      | some handle => system.release index handle
  | .executeDelete index =>
      match system.handles[index]? with
      | none => system
      | some handle => if handle.released then system.executeDelete handle else system
  | .elapse time => { system with now := max system.now time }

end MutexSystem
end CrashWave.Core
