import CrashWave.Persistence.RedisKeys

/-! The lock of the active instance: instances that share one Redis, with the commands that they
wait for. Times are milliseconds of one clock.
-/

namespace CrashWave.Core

open JavaScript Leases Persistence

/-- A character within a JSON string. -/
def jsonChar (c : Char) : List Char :=
  match c with
  | '"' => ['\\', '"']
  | '\\' => ['\\', '\\']
  | '\n' => ['\\', 'n']
  | '\r' => ['\\', 'r']
  | '\t' => ['\\', 't']
  | '\x08' => ['\\', 'b']
  | '\x0c' => ['\\', 'f']
  | _ =>
      if c.toNat < 0x20 then
        ['\\', 'u', '0', '0', Nat.digitChar (c.toNat / 16), Nat.digitChar (c.toNat % 16)]
      else [c]

/-- The characters of `JSON.stringify(text)`. -/
def jsonString (text : String) : List Char := '"' :: text.toList.flatMap jsonChar ++ ['"']

/-- The settings of an instance. -/
structure InstanceLock where
  key : String := "crash:active-instance"
  ttlMs : Number := 30000
  token : String
  instanceId : String
  pid : Nat

namespace InstanceLock

/-- The characters of the value that an instance stores under its key. -/
def value (lock : InstanceLock) (startedAt : String) : List Char :=
  "\x7b\"instanceId\":".toList ++ jsonString lock.instanceId
    ++ ",\"token\":".toList ++ jsonString lock.token
    ++ ",\"startedAt\":".toList ++ jsonString startedAt
    ++ ",\"pid\":".toList ++ (toString lock.pid).toList ++ "\x7d".toList

/-- `string.find(cur, token, 1, true)` of the scripts. -/
def owns (lock : InstanceLock) (cur : List Char) : Bool :=
  cur.tails.any fun rest => lock.token.toList.isPrefixOf rest

end InstanceLock

-----------------------------------------------------------------------------------------
-- Instances that share one Redis
-----------------------------------------------------------------------------------------

/-- What an instance knows, and the lease that Redis last gave it and did not delete for it. -/
structure InstanceState where
  held : Bool := false
  timer : Bool := false
  lease : Option (Lease (List Char) Number) := none
  deriving DecidableEq

/-- The commands of `tryAcquire`, `refresh` and `release`. -/
inductive LockCommand where
  | set (startedAt : String)
  | refresh
  | delete
  deriving DecidableEq

def LockCommand.isSet : LockCommand → Bool
  | .set _ => true
  | .refresh | .delete => false

/-- A command is sent, or it was executed with a success or not, or its instance has seen it fail
while Redis may still execute it.
-/
inductive CommandStage where
  | sent
  | executed (ok : Bool)
  | abandoned
  deriving DecidableEq

variable {ι : Type*}

structure LockCall (ι : Type*) where
  owner : ι
  command : LockCommand
  stage : CommandStage
  deriving DecidableEq

/-- The clock, the keys of Redis, the instances and the commands that they have sent. -/
structure InstanceSystem (ι : Type*) where
  now : ℤ := 0
  keys : Table String (List Char) Number := fun _ => none
  instances : ι → InstanceState := fun _ => {}
  calls : List (LockCall ι) := []

/-- A call of an instance, or what becomes of a command, which Redis may execute any number of
times.
-/
inductive InstanceEvent (ι : Type*) where
  | tryAcquire (owner : ι) (startedAt : String)
  | heartbeat (owner : ι)
  | release (owner : ι)
  | execute (index : Nat)
  | answer (index : Nat)
  | fail (index : Nat)
  | elapse (time : ℤ)

namespace InstanceSystem

variable [DecidableEq ι]

def modify (system : InstanceSystem ι) (owner : ι) (change : InstanceState → InstanceState)
    : InstanceSystem ι :=
  { system with
    instances :=
      Function.update system.instances owner (change (system.instances owner)) }

def send (system : InstanceSystem ι) (owner : ι) (command : LockCommand) : InstanceSystem ι :=
  { system with calls := system.calls ++ [⟨owner, command, .sent⟩] }

/-- A timer that fires. -/
def heartbeat (system : InstanceSystem ι) (owner : ι) : InstanceSystem ι :=
  if (system.instances owner).timer && (system.instances owner).held then
    system.send owner .refresh
  else system

/-- `release` up to its script. -/
def release (system : InstanceSystem ι) (owner : ι) : InstanceSystem ι :=
  let stopped := system.modify owner fun state => { state with timer := false }
  if (system.instances owner).held then stopped.send owner .delete else stopped

/-- Redis executes a command of an instance. The answer to a delete is not read. -/
def execute (locks : ι → InstanceLock) (system : InstanceSystem ι) (owner : ι)
    : LockCommand → InstanceSystem ι × Bool
  | .set startedAt =>
      match system.keys.live (.finite system.now) (locks owner).key with
      | some _ => (system, false)
      | none =>
          let expiresAt := RedisKeys.expiry system.now (locks owner).ttlMs
          let lease := ⟨(locks owner).value startedAt, expiresAt⟩
          let keys := system.keys.grant (.finite system.now) (locks owner).key lease
          let given := system.modify owner fun state => { state with lease := some lease }
          ({ given with keys }, true)
  | .refresh =>
      match system.keys.live (.finite system.now) (locks owner).key with
      | none => (system, false)
      | some cur =>
          if (locks owner).owns cur.value then
            let expiresAt := RedisKeys.expiry system.now (locks owner).ttlMs
            let keys := system.keys.renew (.finite system.now) (locks owner).key
              (locks owner).owns expiresAt
            let given := system.modify owner fun state =>
              { state with lease := some { cur with expiresAt } }
            ({ given with keys }, true)
          else (system, false)
  | .delete =>
      let keys := system.keys.surrender (locks owner).key (locks owner).owns
      let given := system.modify owner fun state => { state with lease := none }
      ({ given with keys }, true)

/-- What an instance does with the answer to its command. -/
def answered (ok : Bool) : LockCommand → InstanceState → InstanceState
  | .set _, state => if ok then { state with held := true, timer := true } else state
  | .refresh, state => if ok then state else { state with held := false }
  | .delete, state => { state with held := false }

/-- What it does when the command fails. -/
def failed : LockCommand → InstanceState → InstanceState
  | .set _, state | .refresh, state => state
  | .delete, state => { state with held := false }

/-- A TTL that Redis does not take for `PX` never gives out the key, so that there is nothing to
refresh and to delete.
-/
def next (locks : ι → InstanceLock) (system : InstanceSystem ι)
    : InstanceEvent ι → InstanceSystem ι
  | .tryAcquire owner startedAt => system.send owner (.set startedAt)
  | .heartbeat owner => system.heartbeat owner
  | .release owner => system.release owner
  | .execute index =>
      match system.calls[index]? with
      | none => system
      | some call =>
          if RedisKeys.accepts (locks call.owner).ttlMs then
            let result := system.execute locks call.owner call.command
            match call.stage with
            | .abandoned => result.1
            | .sent | .executed _ =>
                { result.1 with
                  calls := system.calls.set index { call with stage := .executed result.2 } }
          else system
  | .answer index =>
      match system.calls[index]? with
      | none => system
      | some call =>
          match call.stage with
          | .sent | .abandoned => system
          | .executed ok =>
              let others := { system with calls := system.calls.eraseIdx index }
              others.modify call.owner (answered ok call.command)
  | .fail index =>
      match system.calls[index]? with
      | none => system
      | some call =>
          match call.stage with
          | .abandoned => system
          | .sent | .executed _ =>
              let abandoned := system.calls.set index { call with stage := .abandoned }
              { system with calls := abandoned }.modify call.owner (failed call.command)
  | .elapse time => { system with now := max system.now time }

end InstanceSystem
end CrashWave.Core
