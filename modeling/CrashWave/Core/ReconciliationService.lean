import CrashWave.JavaScript.Map
import CrashWave.JavaScript.Number

/-! The reconciliation of the orders that are pending after a reconnect. While an order is
queried other code may generate further ones, and the registry then drops old entries.
-/

namespace CrashWave.Reconciliation

open JavaScript

/-- What the remote service says of an order. -/
inductive RemoteStatus where
  | accepted
  | running
  | cashedOut
  | lost
  | cancelled
  | notFound
  deriving DecidableEq

/-- The order is over, or never arrived. -/
def RemoteStatus.isFinal : RemoteStatus → Bool
  | .accepted | .running => false
  | .cashedOut | .lost | .cancelled | .notFound => true

/-- `OrderStatus`. -/
structure OrderStatus where
  clientOrderId : String
  status : RemoteStatus
  multiplier : Option Number := none
  pnl : Option Number := none
  externalBetId : Option String := none
  deriving DecidableEq

/-- `ReconciliationResolution`. -/
inductive ReconciliationResolution where
  | cashedOut
  | lost
  | unknown
  | stillActive
  | notFound
  deriving DecidableEq

/-- `ReconciliationResult`. -/
structure ReconciliationResult where
  resolution : ReconciliationResolution
  orderStatus : Option OrderStatus := none
  localPnLUpdated : Bool := false
  balanceSynced : Bool := false
  deriving DecidableEq

-----------------------------------------------------------------------------------------
-- The registry
-----------------------------------------------------------------------------------------

/-- An entry of the registry. -/
structure PendingOrder where
  createdAt : Int
  stake : Number
  target : Number

/-- `ClientOrderIdRegistry`. -/
structure ClientOrderIdRegistry where
  pending : Map String PendingOrder := ∅
  ttlMs : Int := 120000

/-- One call of `generate`, with what the clock reads in it and its random suffix. -/
structure GenerateCall where
  stake : Number
  target : Number
  namedAt : Int
  suffix : String
  createdAt : Int
  collectedAt : Int

/-- The id that a call generates. -/
def GenerateCall.id (call : GenerateCall) : String :=
  "coid_" ++ toString call.namedAt ++ "_" ++ call.suffix

namespace ClientOrderIdRegistry

def has (registry : ClientOrderIdRegistry) (id : String) : Bool := registry.pending.has id

/-- `release`. -/
def release (registry : ClientOrderIdRegistry) (id : String) : ClientOrderIdRegistry :=
  { registry with pending := registry.pending.delete id }

/-- `listPending`. -/
def listPending (registry : ClientOrderIdRegistry) : List String :=
  registry.pending.entries.map Prod.fst

/-- An entry is too old to be kept. -/
def expired (registry : ClientOrderIdRegistry) (now : Int) (order : PendingOrder) : Bool :=
  registry.ttlMs < now - order.createdAt

/-- `gc`. -/
def gc (registry : ClientOrderIdRegistry) (now : Int) : ClientOrderIdRegistry :=
  { registry with pending := registry.pending.filter fun _ order => !registry.expired now order }

/-- The entry of a call is written. -/
def write (registry : ClientOrderIdRegistry) (call : GenerateCall) : ClientOrderIdRegistry :=
  { registry with
    pending := registry.pending.set call.id
      { createdAt := call.createdAt, stake := call.stake, target := call.target } }

/-- `generate`. -/
def generate (registry : ClientOrderIdRegistry) (call : GenerateCall) : ClientOrderIdRegistry :=
  (registry.write call).gc call.collectedAt

/-- The orders that a call drops by their age. -/
def dropped (registry : ClientOrderIdRegistry) (call : GenerateCall) : List String :=
  ((registry.write call).pending.entries.filter fun entry =>
    registry.expired call.collectedAt entry.2).map Prod.fst

/-- The registry after some calls, and the orders that they dropped. -/
def generateAll (registry : ClientOrderIdRegistry)
    : List GenerateCall → ClientOrderIdRegistry × List String
  | [] => (registry, [])
  | call :: rest =>
      let (after, more) := (registry.generate call).generateAll rest
      (after, registry.dropped call ++ more)

end ClientOrderIdRegistry

-----------------------------------------------------------------------------------------
-- The service
-----------------------------------------------------------------------------------------

/-- A query of the order reader: what other code generates while it runs, and its answer, which
is missing if it fails.
-/
structure Query where
  meanwhile : List GenerateCall := []
  answer : Option OrderStatus

/-- The answer is there and final. -/
def answersFinally : Option OrderStatus → Bool
  | some status => status.status.isFinal
  | none => false

/-- What a reconciliation did: the registry it leaves, the orders that it queried, those that
left the registry, and its result.
-/
structure Reconciled where
  registry : ClientOrderIdRegistry
  queried : List String := []
  departed : List String := []
  result : ReconciliationResult

/-- The answer of an order ends the reconciliation, and the order is released. -/
def releaseWith (registry : ClientOrderIdRegistry) (coid : String) (dropped : List String)
    (result : ReconciliationResult) : Reconciled where
  registry := registry.release coid
  queried := [coid]
  departed := if registry.has coid then dropped ++ [coid] else dropped
  result

/-- The answer of an order ends the reconciliation, and the order stays. -/
def leaveWith (registry : ClientOrderIdRegistry) (coid : String) (dropped : List String)
    (result : ReconciliationResult) : Reconciled where
  registry
  queried := [coid]
  departed := dropped
  result

/-- The answer of an order, which ends the reconciliation in every case. -/
def answered (registry : ClientOrderIdRegistry) (coid : String) (dropped : List String)
    : Option OrderStatus → Reconciled
  | none => leaveWith registry coid dropped { resolution := .unknown }
  | some status =>
      match status.status with
      | .cashedOut =>
          releaseWith registry coid dropped
            { resolution := .cashedOut, orderStatus := some status
              localPnLUpdated := true, balanceSynced := true }
      | .lost | .cancelled =>
          releaseWith registry coid dropped
            { resolution := .lost, orderStatus := some status
              localPnLUpdated := true, balanceSynced := true }
      | .running | .accepted =>
          leaveWith registry coid dropped
            { resolution := .stillActive, orderStatus := some status }
      | .notFound =>
          releaseWith registry coid dropped
            { resolution := .notFound, orderStatus := some status }

/-- The loop of `reconcile`. -/
def reconcileEach (registry : ClientOrderIdRegistry) (queries : String → Query)
    : List String → Reconciled
  | [] => { registry, result := { resolution := .unknown } }
  | coid :: _ =>
      let (registry, dropped) := registry.generateAll (queries coid).meanwhile
      -- the first order ends the loop, whatever is answered
      answered registry coid dropped (queries coid).answer

/-- `reconcile`; an empty id counts as none. -/
def reconcile (registry : ClientOrderIdRegistry) (queries : String → Query)
    (activeClientOrderId : Option String) : Reconciled :=
  let ids :=
    match activeClientOrderId with
    | some id => if id = "" then registry.listPending else [id]
    | none => registry.listPending
  if ids.isEmpty then { registry, result := { resolution := .notFound } }
  else reconcileEach registry queries ids

-----------------------------------------------------------------------------------------
-- What it covers
-----------------------------------------------------------------------------------------

/-- Everything that was pending is queried, what is finally answered is not pending any more, and
nothing else left the registry.
-/
structure CoversPending (registry : ClientOrderIdRegistry) (queries : String → Query)
    (reconciled : Reconciled) : Prop where
  queried : ∀ id ∈ registry.listPending, id ∈ reconciled.queried
  resolved : ∀ id ∈ reconciled.queried, answersFinally (queries id).answer = true →
    reconciled.registry.has id = false
  departed : ∀ id ∈ reconciled.departed,
    id ∈ reconciled.queried ∧ answersFinally (queries id).answer = true

/-- A released order is not pending. -/
theorem has_release (registry : ClientOrderIdRegistry) (id : String)
    : (registry.release id).has id = false := by
  simp [ClientOrderIdRegistry.has, ClientOrderIdRegistry.release, Map.has]

/-- An order is dropped by a call that comes more than the time to live after its entry. -/
theorem mem_dropped_iff {registry : ClientOrderIdRegistry} {call : GenerateCall} {id : String}
    : id ∈ registry.dropped call
      ↔ ∃ order, (registry.write call).pending.get id = some order
          ∧ registry.ttlMs < call.collectedAt - order.createdAt := by
  simp only [ClientOrderIdRegistry.dropped, List.mem_map, List.mem_filter, Prod.exists,
    exists_and_right, exists_eq_right, Map.mem_entries_iff, ClientOrderIdRegistry.expired,
    decide_eq_true_eq]

/-- A final answer releases its order, and any other one leaves it. -/
theorem answered_eq (registry : ClientOrderIdRegistry) (coid : String) (dropped : List String)
    (answer : Option OrderStatus)
    : ∃ result, answered registry coid dropped answer
        = if answersFinally answer then releaseWith registry coid dropped result
          else leaveWith registry coid dropped result := by
  cases answer with
  | none => exact ⟨_, rfl⟩
  | some status =>
      cases told : status.status <;>
        simp only [answered, answersFinally, told, RemoteStatus.isFinal, if_true,
          Bool.false_eq_true, if_false, exists_apply_eq_apply']

/-- What an answered order covers: all that was pending if it was the only one, and what left
the registry if nothing else did.
-/
theorem answered_covers_iff {registry after : ClientOrderIdRegistry}
    {queries : String → Query} {coid : String} {rest dropped : List String}
    (pending : registry.listPending = coid :: rest)
    : CoversPending registry queries (answered after coid dropped (queries coid).answer)
      ↔ rest = [] ∧ ∀ id ∈ dropped, id = coid ∧ answersFinally (queries coid).answer = true := by
  have unique : (coid :: rest).Nodup := pending ▸ registry.pending.unique
  obtain ⟨result, ended⟩ := answered_eq after coid dropped (queries coid).answer
  rw [ended]
  constructor
  · intro covers
    have only : ∀ id ∈ coid :: rest, id = coid := by
      intro id member
      have asked := covers.queried id (pending ▸ member)
      split at asked <;> exact List.mem_singleton.mp asked
    refine ⟨?_, ?_⟩
    · refine List.eq_nil_iff_forall_not_mem.mpr fun other later => ?_
      have same := only other (List.mem_cons_of_mem coid later)
      exact (List.nodup_cons.mp unique).1 (same ▸ later)
    · intro id gone
      have left : id ∈ (if answersFinally (queries coid).answer = true then
          releaseWith after coid dropped result
          else leaveWith after coid dropped result).departed := by
        split
        · simp only [releaseWith]
          split
          · exact List.mem_append_left _ gone
          · exact gone
        · exact gone
      obtain ⟨asked, final⟩ := covers.departed id left
      have same : id = coid := by split at asked <;> exact List.mem_singleton.mp asked
      exact ⟨same, same ▸ final⟩
  · rintro ⟨rfl, departs⟩
    cases final : answersFinally (queries coid).answer with
    | false =>
        refine ⟨?_, ?_, ?_⟩
        · rw [pending]
          exact fun id member => member
        · intro id asked answers
          obtain rfl : id = coid := List.mem_singleton.mp asked
          rw [final] at answers
          cases answers
        · intro id gone
          obtain ⟨rfl, answers⟩ := departs id gone
          exact ⟨List.mem_singleton_self _, answers⟩
    | true =>
        refine ⟨?_, ?_, ?_⟩
        · rw [pending]
          exact fun id member => member
        · intro id asked _
          obtain rfl : id = coid := List.mem_singleton.mp asked
          exact has_release after id
        · intro id gone
          have same : id = coid := by
            simp only [if_true, releaseWith] at gone
            split at gone
            · rcases List.mem_append.mp gone with earlier | last
              · exact (departs id earlier).1
              · exact List.mem_singleton.mp last
            · exact (departs id gone).1
          exact ⟨List.mem_singleton.mpr same, same ▸ final⟩

/-- Everything pending is covered exactly if at most one order is pending and none is dropped by
its age while that one is queried, other than that one with a final answer.
-/
theorem reconcile_covers_iff (registry : ClientOrderIdRegistry) (queries : String → Query)
    : CoversPending registry queries (reconcile registry queries none)
      ↔ registry.listPending.length ≤ 1
        ∧ ∀ coid ∈ registry.listPending,
            ∀ id ∈ (registry.generateAll (queries coid).meanwhile).2,
              id = coid ∧ answersFinally (queries coid).answer = true := by
  unfold reconcile
  dsimp only
  cases pending : registry.listPending with
  | nil =>
      refine iff_of_true ⟨?_, ?_, ?_⟩ ⟨Nat.zero_le 1, fun _ => nofun⟩
      · rw [pending]
        exact fun _ => nofun
      · exact fun _ => nofun
      · exact fun _ => nofun
  | cons coid rest =>
      rw [List.isEmpty_cons, if_neg Bool.false_ne_true, reconcileEach]
      refine (answered_covers_iff pending).trans ?_
      constructor
      · rintro ⟨rfl, departs⟩
        refine ⟨le_rfl, fun id member => ?_⟩
        obtain rfl : id = coid := List.mem_singleton.mp member
        exact departs
      · rintro ⟨single, departs⟩
        refine ⟨List.length_eq_zero_iff.mp ?_, departs coid List.mem_cons_self⟩
        rw [List.length_cons] at single
        omega

/-- A registry after two generated orders. -/
def twoPending : ClientOrderIdRegistry :=
  (({} : ClientOrderIdRegistry).generateAll
    [{ stake := 700, target := 2, namedAt := 1, suffix := "a", createdAt := 1, collectedAt := 1 },
     { stake := 700, target := 2, namedAt := 2, suffix := "b", createdAt := 2,
       collectedAt := 2 }]).1

/-- Every query answers that the order is cashed out. -/
def cashedOutQueries (id : String) : Query where
  answer := some { clientOrderId := id, status := .cashedOut }

/-- Of two pending orders the second is not queried. -/
theorem second_order_not_queried
    : ¬ CoversPending twoPending cashedOutQueries
      (reconcile twoPending cashedOutQueries none) := by
  intro covers
  have second : "coid_2_b" ∈ twoPending.listPending := by decide +kernel
  have asked := covers.queried "coid_2_b" second
  have only : (reconcile twoPending cashedOutQueries none).queried = ["coid_1_a"] := by
    decide +kernel
  rw [only] at asked
  exact absurd asked (by decide)

end CrashWave.Reconciliation
