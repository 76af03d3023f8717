import CrashWave.Betting.Idempotency
import CrashWave.Persistence.RedisKeys
import CrashWave.Runs.Basic

/-! The idempotency store on Redis. Its calls are interleaved with each other and with the expiry
of keys: an update reads the record of its key and writes it back later, and at no time compares
the bet of the record with the one that it is made for.
-/

namespace CrashWave.Betting

open JavaScript Leases Persistence Runs

/-- The settings of a store and of its client. -/
structure IdempotencyKeyStore where
  ttlMs : Number := 300000
  keyPrefix : String := "crash:"

/-- The record that the JSON text under a key stands for. -/
structure StoredRecord where
  status : IdempotencyStatus
  betId : String
  roundId : String
  sessionId : String
  createdAt : String
  result : Option BetPlacementResult := none
  deriving DecidableEq

/-- The calls of a store that write to Redis. -/
inductive IdempotencyOperation where
  | reserve (createdAt : String)
  | complete (result : BetPlacementResult)
  | fail (reason : String)
  | markUnknown (reason : String)
  | release

def IdempotencyOperation.isUpdate : IdempotencyOperation → Bool
  | .complete _ | .fail _ | .markUnknown _ => true
  | .reserve _ | .release => false

/-- A call, with the bet that it is made for. -/
structure IdempotencyRequest where
  store : IdempotencyKeyStore := {}
  sessionId : String
  roundId : String
  betId : String
  operation : IdempotencyOperation

/-- A command of Redis on one key. -/
inductive RedisCommand where
  | get
  | set (record : StoredRecord) (ttl : Number)
  | setNx (record : StoredRecord) (ttl : Number)
  | del

/-- A command that may enter a record. -/
def RedisCommand.enters : RedisCommand → Bool
  | .set _ _ | .setNx _ _ => true
  | .get | .del => false

/-- The answer of Redis to a command. -/
inductive RedisReply where
  | value (record : StoredRecord)
  | null
  | ok
  | error

namespace IdempotencyRequest

/-- `prefixKey` of the key of the session and the round. -/
def prefixed (request : IdempotencyRequest) : String :=
  request.store.keyPrefix ++ "idempotency:" ++ generateKey request.sessionId request.roundId

/-- The first command of a call. -/
def first (request : IdempotencyRequest) : RedisCommand :=
  match request.operation with
  | .reserve createdAt =>
      .setNx
        { status := .pending
          betId := request.betId
          roundId := request.roundId
          sessionId := request.sessionId
          createdAt }
        request.store.ttlMs
  | .complete _ | .fail _ | .markUnknown _ => .get
  | .release => .del

/-- What a call does with the record that it has read: it writes it back, with its outcome. -/
def rewrite (request : IdempotencyRequest) (existing : StoredRecord) : Option RedisCommand :=
  match request.operation with
  | .complete result =>
      some (.set { existing with status := .completed, result := some result } request.store.ttlMs)
  | .fail reason =>
      some
        (.set
          { existing with
            status := .failed
            result := some { success := false, error := some reason } }
          (request.store.ttlMs.min 60000))
  | .markUnknown reason =>
      some
        (.set
          { existing with
            status := .unknown
            result := some { success := false, error := some reason } }
          (request.store.ttlMs.max 1800000))
  | .reserve _ | .release => none

/-- What it does with an answer. The record that a refused reservation reads is only logged. -/
def continued (request : IdempotencyRequest) : RedisReply → Option RedisCommand
  | .value existing => request.rewrite existing
  | .null | .ok | .error => none

end IdempotencyRequest

-----------------------------------------------------------------------------------------
-- Calls that share one Redis
-----------------------------------------------------------------------------------------

/-- A command is sent, or it was executed and is answered, or its call has seen it fail while
Redis may still execute it.
-/
inductive RedisStage where
  | sent
  | executed (reply : RedisReply)
  | abandoned

/-- A call in flight, with the command that it waits for. -/
structure IdempotencyCall where
  request : IdempotencyRequest
  command : RedisCommand
  stage : RedisStage

/-- The clock, the keys of Redis, and the calls in flight. -/
structure IdempotencySystem where
  now : ℤ := 0
  keys : Table String StoredRecord Number := fun _ => none
  calls : List IdempotencyCall := []

/-- A call is made, or something becomes of a command: Redis executes it, any number of times,
its answer arrives, it fails for its call, or Redis drops it after that.
-/
inductive IdempotencyEvent where
  | call (request : IdempotencyRequest)
  | execute (index : Nat)
  | answer (index : Nat)
  | fail (index : Nat)
  | drop (index : Nat)
  | elapse (time : ℤ)

/-- Redis executes a command on a key. -/
def RedisCommand.execute (keys : Table String StoredRecord Number) (now : ℤ) (key : String)
    : RedisCommand → Table String StoredRecord Number × RedisReply
  | .get =>
      match keys.live (.finite now) key with
      | none => (keys, .null)
      | some lease => (keys, .value lease.value)
  | .set record ttl =>
      if RedisKeys.accepts ttl then
        (Function.update keys key (some ⟨record, RedisKeys.expiry now ttl⟩), .ok)
      else (keys, .error)
  | .setNx record ttl =>
      if RedisKeys.accepts ttl then
        match keys.live (.finite now) key with
        | none => (keys.grant (.finite now) key ⟨record, RedisKeys.expiry now ttl⟩, .ok)
        | some _ => (keys, .null)
      else (keys, .error)
  | .del => (Function.update keys key none, .ok)

/-- The live record of a key, if it has one, is of a bet. -/
def OwnedBy (keys : Table String StoredRecord Number) (now : ℤ) (key betId : String) : Prop :=
  ∀ lease ∈ keys.live (.finite now) key, lease.value.betId = betId

instance (keys : Table String StoredRecord Number) (now : ℤ) (key betId : String)
    : Decidable (OwnedBy keys now key betId) :=
  inferInstanceAs (Decidable (∀ lease ∈ _, _))

namespace IdempotencySystem

def next (system : IdempotencySystem) : IdempotencyEvent → IdempotencySystem
  | .call request =>
      { system with calls := system.calls ++ [⟨request, request.first, .sent⟩] }
  | .execute index =>
      match system.calls[index]? with
      | none => system
      | some call =>
          let (keys, reply) :=
            call.command.execute system.keys system.now call.request.prefixed
          match call.stage with
          | .abandoned => { system with keys }
          | .sent | .executed _ =>
              { system with
                keys
                calls := system.calls.set index { call with stage := .executed reply } }
  | .answer index =>
      match system.calls[index]? with
      | none => system
      | some call =>
          match call.stage with
          | .sent | .abandoned => system
          | .executed reply =>
              match call.request.continued reply with
              | none => { system with calls := system.calls.eraseIdx index }
              | some command =>
                  { system with
                    calls := system.calls.set index { call with command, stage := .sent } }
  | .fail index =>
      match system.calls[index]? with
      | none => system
      | some call =>
          { system with calls := system.calls.set index { call with stage := .abandoned } }
  | .drop index =>
      match system.calls[index]? with
      | none => system
      | some call =>
          match call.stage with
          | .abandoned => { system with calls := system.calls.eraseIdx index }
          | .sent | .executed _ => system
  | .elapse time => { system with now := max system.now time }

/-- The updates in flight on a key are all made for one bet. -/
def UpdatedFor (system : IdempotencySystem) (key betId : String) : Prop :=
  ∀ call ∈ system.calls,
    call.request.operation.isUpdate = true → call.request.prefixed = key
    → call.request.betId = betId

instance (system : IdempotencySystem) (key betId : String)
    : Decidable (system.UpdatedFor key betId) :=
  inferInstanceAs (Decidable (∀ call ∈ _, _))

/-- An update is made for the bet whose record is live under its key, or while there is none;
and a command that may enter a record where there is none, for a reservation or for an update
whose record has expired since it was read, is executed while no update is in flight there for
another bet.
-/
def Meets (system : IdempotencySystem) : IdempotencyEvent → Prop
  | .call request =>
      request.operation.isUpdate = true
      → OwnedBy system.keys system.now request.prefixed request.betId
  | .execute index =>
      ∀ call ∈ system.calls[index]?,
        call.command.enters = true
        → system.keys.live (.finite system.now) call.request.prefixed = none
        → system.UpdatedFor call.request.prefixed call.request.betId
  | _ => True

instance (system : IdempotencySystem) : (event : IdempotencyEvent) → Decidable (system.Meets event)
  | .call request => inferInstanceAs (Decidable (request.operation.isUpdate = true → _))
  | .execute index => inferInstanceAs (Decidable (∀ call ∈ system.calls[index]?, _))
  | .answer _ | .fail _ | .drop _ | .elapse _ => .isTrue trivial

/-- An update that Redis executes a command of leaves the live records of other bets, and nothing
but the execution of commands changes a key.
-/
def Respects (system : IdempotencySystem) (event : IdempotencyEvent) : Prop :=
  match event with
  | .execute index =>
      ∀ call ∈ system.calls[index]?, call.request.operation.isUpdate = true →
        ∀ key lease, system.keys.live (.finite system.now) key = some lease
          → lease.value.betId ≠ call.request.betId
          → (system.next event).keys key = some lease
  | .call _ | .answer _ | .fail _ | .drop _ | .elapse _ =>
      (system.next event).keys = system.keys

end IdempotencySystem

-----------------------------------------------------------------------------------------
-- Calls
-----------------------------------------------------------------------------------------

/-- What a call carries is of its bet: the record that it writes, which is a pending one or one
that an update has read, and the record that it was answered.
-/
structure IdempotencyCall.Carries (call : IdempotencyCall) : Prop where
  writes
    : ∀ record ttl, call.command = .set record ttl
      → call.request.operation.isUpdate = true ∧ record.betId = call.request.betId
  reserves
    : ∀ record ttl, call.command = .setNx record ttl → record.betId = call.request.betId
  reads
    : ∀ record, call.request.operation.isUpdate = true → call.stage = .executed (.value record)
      → record.betId = call.request.betId

/-- What a call keeps: it carries its bet, and an update is made for the bet whose record its key
has.
-/
structure Keeps (keys : Table String StoredRecord Number) (now : ℤ) (call : IdempotencyCall)
    : Prop extends call.Carries where
  owned
    : call.request.operation.isUpdate = true
      → OwnedBy keys now call.request.prefixed call.request.betId

theorem first_carries (request : IdempotencyRequest)
    : IdempotencyCall.Carries ⟨request, request.first, .sent⟩ := by
  refine ⟨?_, ?_, ?_⟩
  · intro record ttl sets
    dsimp only [IdempotencyRequest.first] at sets
    cases operation : request.operation <;> simp [operation] at sets
  · intro record ttl sets
    dsimp only [IdempotencyRequest.first] at sets
    cases operation : request.operation with
    | reserve createdAt =>
        simp only [operation, RedisCommand.setNx.injEq] at sets
        rw [← sets.1]
    | complete | fail | markUnknown | release => simp [operation] at sets
  · intro record _ executed
    cases executed

/-- A record that is written back keeps its bet. -/
theorem rewrite_betId {request : IdempotencyRequest} {existing : StoredRecord}
    {command : RedisCommand} (rewrites : request.rewrite existing = some command)
    : request.operation.isUpdate = true
      ∧ ∃ record ttl, command = .set record ttl ∧ record.betId = existing.betId := by
  unfold IdempotencyRequest.rewrite at rewrites
  cases operation : request.operation with
  | complete | fail | markUnknown =>
      rw [operation] at rewrites
      obtain rfl := Option.some.inj rewrites
      exact ⟨rfl, _, _, rfl, rfl⟩
  | reserve | release =>
      rw [operation] at rewrites
      cases rewrites

variable {system : IdempotencySystem} {call : IdempotencyCall}

theorem IdempotencyCall.Carries.continued {reply : RedisReply} {command : RedisCommand}
    (carries : call.Carries) (executed : call.stage = .executed reply)
    (continues : call.request.continued reply = some command)
    : IdempotencyCall.Carries { call with command, stage := .sent } := by
  cases reply with
  | null | ok | error => cases continues
  | value existing =>
      obtain ⟨isUpdate, record, ttl, rfl, same⟩ := rewrite_betId continues
      have own := carries.reads existing isUpdate executed
      refine ⟨?_, ?_, ?_⟩
      · intro written _ sets
        obtain ⟨rfl, -⟩ := RedisCommand.set.inj sets
        exact ⟨isUpdate, same.trans own⟩
      · intro written _ sets
        cases sets
      · intro written _ executed
        cases executed

-----------------------------------------------------------------------------------------
-- Steps
-----------------------------------------------------------------------------------------

/-- What the command of a call does to the keys: nothing, or it deletes its key, or it writes a
record of its bet there, as an update or because there is none.
-/
inductive Writes (system : IdempotencySystem) (call : IdempotencyCall)
    : Table String StoredRecord Number → Prop where
  | nothing : Writes system call system.keys
  | deleted : Writes system call (Function.update system.keys call.request.prefixed none)
  | entered {lease : Lease StoredRecord Number} (own : lease.value.betId = call.request.betId)
    (enters : call.command.enters = true)
    (allowed
      : call.request.operation.isUpdate = true
        ∨ system.keys.live (.finite system.now) call.request.prefixed = none)
    : Writes system call (Function.update system.keys call.request.prefixed (some lease))

theorem execute_writes (carries : call.Carries)
    : Writes system call
        (call.command.execute system.keys system.now call.request.prefixed).1 := by
  cases command : call.command with
  | get =>
      dsimp only [RedisCommand.execute]
      split <;> exact .nothing
  | set record ttl =>
      obtain ⟨isUpdate, own⟩ := carries.writes record ttl command
      dsimp only [RedisCommand.execute]
      split
      · exact .entered own (by rw [command]; rfl) (.inl isUpdate)
      · exact .nothing
  | setNx record ttl =>
      have own := carries.reserves record ttl command
      dsimp only [RedisCommand.execute]
      split
      · split
        · next free =>
            rw [Table.grant_of_free free]
            exact .entered own (by rw [command]; rfl) (.inr free)
        · exact .nothing
      · exact .nothing
  | del => exact .deleted

/-- A record that Redis answers is that of the key. -/
theorem execute_value {keys : Table String StoredRecord Number} {now : ℤ} {key : String}
    {command : RedisCommand} {record : StoredRecord}
    (answers : (command.execute keys now key).2 = .value record)
    : ∃ lease ∈ keys.live (.finite now) key, lease.value = record := by
  cases command with
  | get =>
      dsimp only [RedisCommand.execute] at answers
      split at answers
      · cases answers
      · next lease live => exact ⟨lease, live, RedisReply.value.inj answers⟩
  | set written ttl =>
      dsimp only [RedisCommand.execute] at answers
      split at answers <;> cases answers
  | setNx written ttl =>
      dsimp only [RedisCommand.execute] at answers
      split at answers
      · split at answers <;> cases answers
      · cases answers
  | del => cases answers

/-- After a write of a call that meets the condition, the key of every update still has no record
of another bet.
-/
theorem Writes.owned {keys : Table String StoredRecord Number}
    (writes : Writes system call keys)
    (kept : ∀ other ∈ system.calls, Keeps system.keys system.now other)
    (member : call ∈ system.calls)
    (meets : call.command.enters = true
      → system.keys.live (.finite system.now) call.request.prefixed = none
      → system.UpdatedFor call.request.prefixed call.request.betId)
    {other : IdempotencyCall} (inFlight : other ∈ system.calls)
    (isUpdate : other.request.operation.isUpdate = true)
    : OwnedBy keys system.now other.request.prefixed other.request.betId := by
  have before := (kept other inFlight).owned isUpdate
  cases writes with
  | nothing => exact before
  | deleted =>
      intro lease live
      rcases Table.live_update_cases live with ⟨-, written⟩ | ⟨-, old⟩
      · cases written
      · exact before lease old
  | @entered lease own enters allowed =>
      intro held live
      rcases Table.live_update_cases live with ⟨sameKey, written⟩ | ⟨-, old⟩
      · obtain rfl := Option.some.inj written
        rw [own]
        cases found : system.keys.live (.finite system.now) call.request.prefixed with
        | none => exact (meets enters found other inFlight isUpdate sameKey).symm
        | some old =>
            have updates : call.request.operation.isUpdate = true := by
              rcases allowed with updates | free
              · exact updates
              · rw [found] at free
                cases free
            have mine := (kept call member).owned updates old found
            rw [sameKey] at before
            exact mine.symm.trans (before old found)
      · exact before held old

/-- The records of other bets are left by a write of an update. -/
theorem Writes.respects {keys : Table String StoredRecord Number}
    (writes : Writes system call keys)
    (owned : OwnedBy system.keys system.now call.request.prefixed call.request.betId)
    {key : String} {lease : Lease StoredRecord Number}
    (live : system.keys.live (.finite system.now) key = some lease)
    (foreign : lease.value.betId ≠ call.request.betId) : keys key = some lease := by
  have elsewhere : key ≠ call.request.prefixed := by
    rintro rfl
    exact foreign (owned lease live)
  have stored := (Table.live_eq_some_iff.mp live).1
  cases writes with
  | nothing => exact stored
  | deleted => rwa [Function.update_of_ne elsewhere]
  | entered => rwa [Function.update_of_ne elsewhere]

/-- What holds of the calls in flight holds of them when one is replaced by another of which it
holds.
-/
theorem forall_mem_set {calls : List IdempotencyCall} {keeps : IdempotencyCall → Prop}
    {index : Nat} {own : IdempotencyCall} (kept : ∀ other ∈ calls, keeps other) (new : keeps own)
    : ∀ other ∈ calls.set index own, keeps other := by
  intro other member
  rcases List.mem_or_eq_of_mem_set member with old | rfl
  · exact kept other old
  · exact new

/-- What every event that meets the condition keeps. -/
def AllKeep (system : IdempotencySystem) : Prop :=
  ∀ call ∈ system.calls, Keeps system.keys system.now call

/-- The execution of a command keeps it, and leaves the records of other bets. -/
theorem execute_keeps {index : Nat} (kept : AllKeep system)
    (meets : system.Meets (.execute index))
    : system.Respects (.execute index) ∧ AllKeep (system.next (.execute index)) := by
  rw [IdempotencySystem.Respects, IdempotencySystem.next]
  cases found : system.calls[index]? with
  | none =>
      refine ⟨?_, kept⟩
      intro call member
      cases member
  | some call =>
      have member := List.mem_of_getElem? found
      have own := kept call member
      have writes : Writes system call _ := execute_writes own.toCarries
      have value := @execute_value system.keys system.now call.request.prefixed call.command
      dsimp only
      generalize call.command.execute system.keys system.now call.request.prefixed = result
        at writes value ⊢
      obtain ⟨keys, reply⟩ := result
      have owned : ∀ other ∈ system.calls, Keeps keys system.now other := by
        intro other inFlight
        refine ⟨(kept other inFlight).toCarries, ?_⟩
        exact writes.owned kept member (meets call found) inFlight
      refine ⟨?_, ?_⟩
      · intro again same isUpdate key lease live foreign
        obtain rfl : call = again := Option.some.inj same
        have stays := writes.respects (own.owned isUpdate) live foreign
        cases call.stage <;> exact stays
      · have answered : Keeps keys system.now { call with stage := .executed reply } := by
          refine ⟨⟨own.writes, own.reserves, ?_⟩, (owned call member).owned⟩
          intro record isUpdate executed
          obtain ⟨lease, live, rfl⟩ := value (RedisStage.executed.inj executed)
          exact own.owned isUpdate lease live
        cases call.stage with
        | abandoned => exact owned
        | sent | executed => exact forall_mem_set owned answered

/-- So does every other event that meets the condition. -/
theorem next_keeps {event : IdempotencyEvent} (kept : AllKeep system) (meets : system.Meets event)
    : system.Respects event ∧ AllKeep (system.next event) := by
  cases event with
  | call request =>
      refine ⟨rfl, ?_⟩
      intro call member
      rcases List.mem_append.mp member with old | new
      · exact kept call old
      · obtain rfl := List.mem_singleton.mp new
        exact ⟨first_carries request, meets⟩
  | execute index => exact execute_keeps kept meets
  | answer index =>
      rw [IdempotencySystem.Respects, IdempotencySystem.next]
      split
      · exact ⟨rfl, kept⟩
      next call found =>
        have own := kept call (List.mem_of_getElem? found)
        split
        · exact ⟨rfl, kept⟩
        · exact ⟨rfl, kept⟩
        next reply executed =>
          split
          · refine ⟨rfl, ?_⟩
            intro other member
            exact kept other (List.mem_of_mem_eraseIdx member)
          · next command continues =>
              have next : Keeps system.keys system.now { call with command, stage := .sent } :=
                ⟨own.toCarries.continued executed continues, own.owned⟩
              exact ⟨rfl, forall_mem_set kept next⟩
  | fail index =>
      rw [IdempotencySystem.Respects, IdempotencySystem.next]
      split
      · exact ⟨rfl, kept⟩
      next call found =>
        have own := kept call (List.mem_of_getElem? found)
        have failed : Keeps system.keys system.now { call with stage := .abandoned } := by
          refine ⟨⟨own.writes, own.reserves, ?_⟩, own.owned⟩
          intro record _ executed
          cases executed
        exact ⟨rfl, forall_mem_set kept failed⟩
  | drop index =>
      rw [IdempotencySystem.Respects, IdempotencySystem.next]
      split
      · exact ⟨rfl, kept⟩
      next call found =>
        split
        · refine ⟨rfl, ?_⟩
          intro other member
          exact kept other (List.mem_of_mem_eraseIdx member)
        · exact ⟨rfl, kept⟩
        · exact ⟨rfl, kept⟩
  | elapse time =>
      refine ⟨rfl, ?_⟩
      intro call member
      refine ⟨(kept call member).toCarries, ?_⟩
      intro isUpdate lease live
      obtain ⟨stored, unexpired⟩ := Table.live_eq_some_iff.mp live
      have earlier := unexpired.before (RedisKeys.finite_le (le_max_left system.now time))
      exact (kept call member).owned isUpdate lease (Table.live_eq_some_iff.mpr ⟨stored, earlier⟩)

/-- In every run, from any keys, in which an update is made for the bet whose record is live, or
while there is none, and no record is entered where there is none while an update is in flight
there for another bet, no update changes a record of another bet.
-/
theorem updates_respect_owners (now : ℤ) (keys : Table String StoredRecord Number)
    (events : List IdempotencyEvent)
    (meets : Always IdempotencySystem.next IdempotencySystem.Meets { now, keys } events)
    : Always IdempotencySystem.next IdempotencySystem.Respects { now, keys } events := by
  have initial : AllKeep { now, keys } := by
    intro call member
    cases member
  exact meets.of_invariant (fun _ _ kept meets => next_keeps kept meets) initial

/-- A call for a bet in one round. -/
def roundCall (betId : String) (operation : IdempotencyOperation) : IdempotencyEvent :=
  .call { sessionId := "s1", roundId := "r1", betId, operation }

/-- A bet is placed, and after the expiry of its record another one. -/
def placements : List IdempotencyEvent :=
  [roundCall "bet-1" (.reserve "t1"), .execute 0, .answer 0,
    roundCall "bet-1" (.complete { success := true }), .execute 0, .answer 0, .execute 0,
    .answer 0, .elapse 300000,
    roundCall "bet-2" (.reserve "t2"), .execute 0, .answer 0,
    roundCall "bet-2" (.markUnknown "timeout"), .execute 0, .answer 0, .execute 0]

theorem placements_respect_owners
    : Always IdempotencySystem.next IdempotencySystem.Respects
        { now := 0, keys := fun _ => none } placements :=
  updates_respect_owners 0 (fun _ => none) placements (by decide +kernel)

/-- A bet whose record expires while its completion is between the read and the write, and
another one that reserves the round before the write.
-/
def lateCompletion : List IdempotencyEvent :=
  [roundCall "bet-1" (.reserve "t1"), .execute 0, .answer 0,
    roundCall "bet-1" (.complete { success := true }), .execute 0, .answer 0, .elapse 300000,
    roundCall "bet-2" (.reserve "t2"), .execute 1]

/-- The write replaces the record of the other bet. -/
theorem late_completion_replaces
    : ¬ Always IdempotencySystem.next IdempotencySystem.Respects
        { now := 0, keys := fun _ => none } (lateCompletion ++ [.execute 0]) := by
  intro respects
  obtain ⟨-, last, -⟩ := always_append.mp respects
  let reached := run IdempotencySystem.next { now := 0, keys := fun _ => none } lateCompletion
  let key := "crash:idempotency:s1:r1"
  have writer : reached.calls[0]?.map
      (fun call => (call.request.operation.isUpdate, call.request.betId))
        = some (true, "bet-1") := by
    decide +kernel
  have owner : (reached.keys.live (.finite reached.now) key).map (·.value.betId)
      = some "bet-2" := by
    decide +kernel
  have after : ((reached.next (.execute 0)).keys key).map (·.value.betId) = some "bet-1" := by
    decide +kernel
  obtain ⟨call, found, called⟩ := Option.map_eq_some_iff.mp writer
  obtain ⟨isUpdate, bet⟩ := Prod.mk.inj called
  obtain ⟨lease, live, owned⟩ := Option.map_eq_some_iff.mp owner
  have foreign : lease.value.betId ≠ call.request.betId := by
    rw [owned, bet]
    decide
  have stays : (reached.next (.execute 0)).keys key = some lease :=
    last call found isUpdate key lease live foreign
  rw [stays, Option.map_some, owned] at after
  exact absurd after (by decide)

end CrashWave.Betting
