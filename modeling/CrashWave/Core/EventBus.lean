import Mathlib.Data.List.GetD
import Mathlib.Data.List.Nodup
import CrashWave.Runs.Basic

/-! The event bus: an event goes to the log first, and to the listeners of its type when that write
ends. How long a write takes, and whether it fails, is not the bus's to say.
-/

namespace CrashWave.Core

open Runs

structure BaseEvent where
  id : String
  type : String
  timestamp : String
  correlationId : String
  source : String
  deriving DecidableEq

/-- A handler that is wrapped for the emitter; `subscription` counts the calls of `on` and `once`.
-/
structure Listener where
  subscription : Nat
  eventType : String
  once : Bool
  deriving DecidableEq

/-- A call of `emit` that waits for the log; `call` counts the calls. -/
structure Emission where
  call : Nat
  event : BaseEvent
  deriving DecidableEq

structure EventBus where
  listeners : List Listener := []
  writing : List Emission := []

/-- What happens at the bus. -/
inductive BusInput where
  | on (eventType : String)
  | once (eventType : String)
  | off (subscription : Nat)
  | removeAllListeners (eventType : Option String)
  | emit (event : BaseEvent)
  /-- The write at this place among those that wait ends, well or not. -/
  | written (index : Nat)

namespace EventBus

def subscribe (bus : EventBus) (listener : Listener) : EventBus :=
  { bus with listeners := bus.listeners ++ [listener] }

/-- What the call that `on` returns does. -/
def off (bus : EventBus) (subscription : Nat) : EventBus :=
  { bus with listeners := bus.listeners.filter (·.subscription ≠ subscription) }

def removeAllListeners (bus : EventBus) (eventType : Option String) : EventBus :=
  match eventType with
  | some type => { bus with listeners := bus.listeners.filter (·.eventType ≠ type) }
  | none => { bus with listeners := [] }

/-- `emit` up to its write. -/
def emit (bus : EventBus) (emission : Emission) : EventBus :=
  { bus with writing := bus.writing ++ [emission] }

def listenersOf (bus : EventBus) (type : String) : List Listener :=
  bus.listeners.filter (·.eventType = type)

/-- `emitter.emit`: every listener of the type is called, and those for one event are taken off. -/
def dispatch (bus : EventBus) (event : BaseEvent) : EventBus × List Listener :=
  ({ bus with
      listeners := bus.listeners.filter fun listener =>
        ¬ (listener.eventType = event.type ∧ listener.once) },
    bus.listenersOf event.type)

end EventBus

/-- The bus with what has happened at it: how many events had been dispatched at each subscription,
the calls of `emit`, those whose write has ended, in that order, and which listener got which.
-/
structure BusHistory where
  bus : EventBus := {}
  since : List Nat := []
  calls : Nat := 0
  ended : List Emission := []
  invocations : List (Nat × Emission) := []

namespace BusHistory

def subscribe (history : BusHistory) (eventType : String) (once : Bool) : BusHistory :=
  { history with
    bus := history.bus.subscribe { subscription := history.since.length, eventType, once }
    since := history.since ++ [history.ended.length] }

/-- The rest of `emit` after its write. -/
def written (history : BusHistory) (index : Nat) : BusHistory :=
  match history.bus.writing[index]? with
  | none => history
  | some emission =>
      let (bus, called) := history.bus.dispatch emission.event
      { history with
        bus := { bus with writing := bus.writing.eraseIdx index }
        ended := history.ended ++ [emission]
        invocations := history.invocations
          ++ called.map fun listener => (listener.subscription, emission) }

def next (history : BusHistory) : BusInput → BusHistory
  | .on eventType => history.subscribe eventType false
  | .once eventType => history.subscribe eventType true
  | .off subscription => { history with bus := history.bus.off subscription }
  | .removeAllListeners eventType =>
      { history with bus := history.bus.removeAllListeners eventType }
  | .emit event =>
      { history with
        bus := history.bus.emit { call := history.calls, event }
        calls := history.calls + 1 }
  | .written index => history.written index

/-- The events that a listener was invoked with, in this order. -/
def received (history : BusHistory) (subscription : Nat) : List Emission :=
  (history.invocations.filter (·.1 = subscription)).map (·.2)

/-- The events of a type whose writes have ended since a subscription, in this order. -/
def endedSince (history : BusHistory) (subscription : Nat) (type : String) : List Emission :=
  (history.ended.drop (history.since.getD subscription 0)).filter (·.event.type = type)

/-- The writes end in the order in which they began. -/
def WrittenInOrder (_ : BusHistory) : BusInput → Prop
  | .written index => index = 0
  | _ => True

-----------------------------------------------------------------------------------------
-- What the listeners get
-----------------------------------------------------------------------------------------

variable {history : BusHistory}

/-- What a listener that is still on has got. -/
def Listens (history : BusHistory) (listener : Listener) : Prop :=
  history.received listener.subscription
    = if listener.once then [] else history.endedSince listener.subscription listener.eventType

/-- What every step keeps: the listeners are those of different subscriptions, each has got what
it should, and everything is received in the order in which the writes ended.
-/
structure Delivers (history : BusHistory) : Prop where
  distinct : (history.bus.listeners.map (·.subscription)).Nodup
  subscribed : ∀ listener ∈ history.bus.listeners, listener.subscription < history.since.length
  since : ∀ count ∈ history.since, count ≤ history.ended.length
  unknown : ∀ subscription, history.since.length ≤ subscription →
    history.received subscription = []
  listens : ∀ listener ∈ history.bus.listeners, history.Listens listener
  ordered : ∀ subscription, (history.received subscription).Sublist history.ended

/-- Listeners of different subscriptions get an event once each, by induction on them. -/
theorem filter_invoked {called : List Listener} (emission : Emission)
    (distinct : (called.map (·.subscription)).Nodup) (subscription : Nat)
    : (((called.map fun listener => (listener.subscription, emission)).filter
          (·.1 = subscription)).map (·.2))
      = if subscription ∈ called.map (·.subscription) then [emission] else [] := by
  induction called with
  | nil => rfl
  | cons listener rest ih =>
      rw [List.map_cons] at distinct
      obtain ⟨new, distinct⟩ := List.nodup_cons.mp distinct
      rw [List.map_cons, List.map_cons]
      by_cases own : listener.subscription = subscription
      · subst own
        rw [List.filter_cons_of_pos (by simp), List.map_cons, ih distinct, if_neg new,
          if_pos List.mem_cons_self]
      · have others : subscription ∈ listener.subscription :: rest.map (·.subscription)
            ↔ subscription ∈ rest.map (·.subscription) := by
          rw [List.mem_cons]
          exact or_iff_right fun same => own same.symm
        rw [List.filter_cons_of_neg (by simpa using own), ih distinct]
        simp only [others]

/-- The subscriptions that get an event of a type. -/
theorem mem_called_iff {type : String} {subscription : Nat}
    : subscription ∈ (history.bus.listenersOf type).map (·.subscription)
      ↔ ∃ listener ∈ history.bus.listeners,
          listener.eventType = type ∧ listener.subscription = subscription := by
  simp [EventBus.listenersOf, and_assoc]

/-- What has been received after a write. -/
theorem received_written (distinct : (history.bus.listeners.map (·.subscription)).Nodup)
    {index : Nat} {emission : Emission} (waits : history.bus.writing[index]? = some emission)
    (subscription : Nat)
    : (history.written index).received subscription
      = history.received subscription
        ++ if subscription ∈ (history.bus.listenersOf emission.event.type).map (·.subscription)
          then [emission] else [] := by
  have among : ((history.bus.listenersOf emission.event.type).map (·.subscription)).Nodup :=
    distinct.sublist (List.filter_sublist.map _)
  rw [← filter_invoked emission among subscription]
  simp only [received, written, waits, EventBus.dispatch, List.filter_append, List.map_append]

/-- A listener is called exactly for the events of its type. -/
theorem called_iff (distinct : (history.bus.listeners.map (·.subscription)).Nodup)
    {listener : Listener} (listens : listener ∈ history.bus.listeners) {type : String}
    : listener.subscription ∈ (history.bus.listenersOf type).map (·.subscription)
      ↔ listener.eventType = type := by
  rw [mem_called_iff]
  constructor
  · rintro ⟨other, also, typed, same⟩
    rwa [← List.inj_on_of_nodup_map distinct also listens same]
  · exact fun typed => ⟨listener, listens, typed, rfl⟩

theorem delivers_initial : Delivers {} where
  distinct := List.nodup_nil
  subscribed _ listens := by cases listens
  since _ counted := by cases counted
  unknown _ _ := rfl
  listens _ listens := by cases listens
  ordered _ := List.nil_sublist _

theorem Delivers.subscribe (delivers : Delivers history) (eventType : String) (once : Bool)
    : Delivers (history.subscribe eventType once) where
  distinct := by
    simp only [BusHistory.subscribe, EventBus.subscribe, List.map_append]
    refine List.Nodup.append delivers.distinct (List.nodup_singleton _) ?_
    intro subscription old new
    obtain ⟨listener, listens, rfl⟩ := List.mem_map.mp old
    have below := delivers.subscribed listener listens
    have same : listener.subscription = history.since.length := by simpa using new
    omega
  subscribed := by
    intro listener listens
    simp only [BusHistory.subscribe, EventBus.subscribe, List.length_append,
      List.length_singleton, List.mem_append, List.mem_singleton] at listens ⊢
    rcases listens with old | rfl
    · exact Nat.lt_succ_of_lt (delivers.subscribed listener old)
    · exact Nat.lt_succ_self _
  since := by
    intro count counted
    rcases List.mem_append.mp counted with old | new
    · exact delivers.since count old
    · exact Nat.le_of_eq (List.mem_singleton.mp new)
  unknown := by
    intro subscription unknown
    refine delivers.unknown subscription ?_
    simp only [BusHistory.subscribe, List.length_append, List.length_singleton] at unknown
    omega
  listens := by
    intro listener listens
    rcases List.mem_append.mp listens with old | new
    · have kept : (history.since ++ [history.ended.length]).getD listener.subscription 0
          = history.since.getD listener.subscription 0 :=
        List.getD_append _ _ _ _ (delivers.subscribed listener old)
      have before := delivers.listens listener old
      simp only [Listens, endedSince, BusHistory.subscribe] at before ⊢
      rw [kept]
      exact before
    · obtain rfl := List.mem_singleton.mp new
      have nothing := delivers.unknown history.since.length (Nat.le_refl _)
      simp only [Listens, endedSince, BusHistory.subscribe]
      change history.received history.since.length = _
      rw [nothing]
      simp
  ordered := delivers.ordered

/-- Listeners that go leave the others. -/
theorem Delivers.unsubscribe (delivers : Delivers history) {bus : EventBus}
    (fewer : bus.listeners.Sublist history.bus.listeners)
    : Delivers { history with bus } where
  distinct := delivers.distinct.sublist (fewer.map _)
  subscribed listener listens := delivers.subscribed listener (fewer.subset listens)
  since := delivers.since
  unknown := delivers.unknown
  listens listener listens := delivers.listens listener (fewer.subset listens)
  ordered := delivers.ordered

/-- The events that have ended since a subscription, after one more has. -/
theorem endedSince_written {index : Nat} {emission : Emission}
    (waits : history.bus.writing[index]? = some emission) {subscription : Nat}
    (within : history.since.getD subscription 0 ≤ history.ended.length) (type : String)
    : (history.written index).endedSince subscription type
      = history.endedSince subscription type
        ++ if emission.event.type = type then [emission] else [] := by
  simp only [endedSince, written, waits]
  rw [List.drop_append_of_le_length within, List.filter_append]
  split
  · next typed => rw [List.filter_cons_of_pos (by simpa using typed), List.filter_nil]
  · next typed => rw [List.filter_cons_of_neg (by simpa using typed), List.filter_nil]

/-- A write takes off the listeners for one event that it has called. -/
theorem listeners_written {index : Nat} {emission : Emission}
    (waits : history.bus.writing[index]? = some emission)
    : (history.written index).bus.listeners
      = history.bus.listeners.filter fun listener =>
          ¬ (listener.eventType = emission.event.type ∧ listener.once) := by
  simp [written, waits, EventBus.dispatch]

/-- A listener that stays on gets the event of a write exactly if it is of its type. -/
theorem Delivers.listens_written (delivers : Delivers history) {index : Nat} {emission : Emission}
    (waits : history.bus.writing[index]? = some emission) {listener : Listener}
    (stays : listener ∈ (history.written index).bus.listeners)
    : (history.written index).Listens listener := by
  rw [listeners_written waits] at stays
  obtain ⟨listens, kept⟩ := List.mem_filter.mp stays
  have before := delivers.listens listener listens
  have within : history.since.getD listener.subscription 0 ≤ history.ended.length := by
    have known := delivers.subscribed listener listens
    rw [List.getD_eq_getElem _ _ known]
    exact delivers.since _ (List.getElem_mem known)
  rw [Listens, received_written delivers.distinct waits, endedSince_written waits within, before]
  simp only [called_iff delivers.distinct listens]
  by_cases typed : listener.eventType = emission.event.type
  · have always : listener.once = false := by simpa [typed] using kept
    rw [always, if_pos typed, if_pos typed.symm]
    rfl
  · rw [if_neg typed, if_neg (Ne.symm typed), List.append_nil, List.append_nil]

theorem Delivers.written (delivers : Delivers history) (index : Nat)
    : Delivers (history.written index) := by
  cases waits : history.bus.writing[index]? with
  | none =>
      have same : history.written index = history := by simp [BusHistory.written, waits]
      exact same.symm ▸ delivers
  | some emission =>
      have after : (history.written index).ended = history.ended ++ [emission] := by
        simp [BusHistory.written, waits]
      have since : (history.written index).since = history.since := by
        simp [BusHistory.written, waits]
      have fewer : (history.written index).bus.listeners.Sublist history.bus.listeners := by
        rw [listeners_written waits]
        exact List.filter_sublist
      have received := received_written delivers.distinct waits
      constructor
      · exact delivers.distinct.sublist (fewer.map _)
      · intro listener listens
        rw [since]
        exact delivers.subscribed listener (fewer.subset listens)
      · intro count counted
        rw [since] at counted
        rw [after, List.length_append]
        exact Nat.le_add_right_of_le (delivers.since count counted)
      · intro subscription unknown
        rw [since] at unknown
        rw [received, delivers.unknown subscription unknown, if_neg]
        · rfl
        · rw [mem_called_iff]
          rintro ⟨listener, listens, -, rfl⟩
          exact absurd (delivers.subscribed listener listens) (Nat.not_lt.mpr unknown)
      · exact fun listener stays => delivers.listens_written waits stays
      · intro subscription
        rw [received, after]
        refine (delivers.ordered subscription).append ?_
        split
        · exact List.Sublist.refl _
        · exact List.nil_sublist _

/-- Every step keeps what the listeners should have got. -/
theorem Delivers.next (delivers : Delivers history) (input : BusInput)
    : Delivers (history.next input) := by
  cases input with
  | on eventType => exact delivers.subscribe eventType false
  | once eventType => exact delivers.subscribe eventType true
  | off subscription => exact delivers.unsubscribe List.filter_sublist
  | removeAllListeners eventType =>
      cases eventType with
      | some type => exact delivers.unsubscribe List.filter_sublist
      | none => exact delivers.unsubscribe (List.nil_sublist _)
  | emit event =>
      exact ⟨delivers.distinct, delivers.subscribed, delivers.since, delivers.unknown,
        delivers.listens, delivers.ordered⟩
  | written index => exact delivers.written index

-----------------------------------------------------------------------------------------
-- Writes that end in the order in which they began
-----------------------------------------------------------------------------------------

/-- The writes that have ended were those that began first. -/
structure Queued (history : BusHistory) : Prop where
  sorted : ((history.ended ++ history.bus.writing).map (·.call)).Pairwise (· < ·)
  numbered : ∀ emission ∈ history.ended ++ history.bus.writing, emission.call < history.calls

theorem queued_initial : Queued {} where
  sorted := .nil
  numbered _ emitted := by cases emitted

/-- A call of `emit` gets the next number. -/
theorem Queued.emit (queued : Queued history) (event : BaseEvent)
    : Queued (history.next (.emit event)) := by
  let emission : Emission := { call := history.calls, event }
  have whole : history.ended ++ (history.bus.writing ++ [emission])
      = (history.ended ++ history.bus.writing) ++ [emission] :=
    (List.append_assoc _ _ _).symm
  constructor
  · simp only [BusHistory.next, EventBus.emit]
    rw [whole, List.map_append, List.pairwise_append]
    refine ⟨queued.sorted, List.pairwise_singleton _ _, ?_⟩
    intro earlier among last own
    obtain ⟨other, emitted, rfl⟩ := List.mem_map.mp among
    rw [List.mem_singleton.mp own]
    exact queued.numbered other emitted
  · intro other emitted
    simp only [BusHistory.next, EventBus.emit] at emitted ⊢
    rw [whole] at emitted
    rcases List.mem_append.mp emitted with earlier | own
    · exact Nat.lt_succ_of_lt (queued.numbered other earlier)
    · rw [List.mem_singleton.mp own]
      exact Nat.lt_succ_self _

/-- The first write that ends is the last of those that have. -/
theorem Queued.written (queued : Queued history) : Queued (history.written 0) := by
  cases waiting : history.bus.writing with
  | nil =>
      have same : history.written 0 = history := by simp [BusHistory.written, waiting]
      exact same.symm ▸ queued
  | cons emission rest =>
      have whole : (history.written 0).ended ++ (history.written 0).bus.writing
          = history.ended ++ history.bus.writing := by
        simp [BusHistory.written, waiting, EventBus.dispatch]
      have calls : (history.written 0).calls = history.calls := by
        simp [BusHistory.written, waiting]
      constructor
      · rw [whole]
        exact queued.sorted
      · rw [whole, calls]
        exact queued.numbered

/-- Such writes keep so, where they end in this order. -/
theorem Queued.next (queued : Queued history) {input : BusInput}
    (ordered : history.WrittenInOrder input)
    : Queued (history.next input) := by
  cases input with
  | on eventType | once eventType | off subscription =>
      exact ⟨queued.sorted, queued.numbered⟩
  | removeAllListeners eventType =>
      cases eventType <;> exact ⟨queued.sorted, queued.numbered⟩
  | emit event => exact queued.emit event
  | written index =>
      obtain rfl : index = 0 := ordered
      exact queued.written

/-- For every sequence of subscriptions and of calls of `emit`, and every latency of the writes,
each subscribed handler is invoked in the order in which the writes ended, a listener that is
still on with exactly the events of its type since its subscription; where the writes end in the
order in which they began, this is the order of the calls.
-/
theorem handlers_invoked_in_write_order (inputs : List BusInput)
    : let history := run next {} inputs
      (∀ subscription, (history.received subscription).Sublist history.ended)
      ∧ (∀ listener ∈ history.bus.listeners, history.Listens listener)
      ∧ (Always next WrittenInOrder {} inputs →
          ∀ subscription, (history.received subscription).Pairwise (·.call < ·.call)) := by
  intro history
  have delivers : Delivers history := run_invariant (fun _ input => (·.next input)) inputs
    delivers_initial
  refine ⟨delivers.ordered, delivers.listens, fun inOrder subscription => ?_⟩
  have queued : Queued history :=
    inOrder.invariant (fun _ _ queued ordered => queued.next ordered) queued_initial
  have ended : history.ended.Pairwise (·.call < ·.call) := by
    have whole := queued.sorted
    rw [List.map_append, List.pairwise_append] at whole
    exact List.pairwise_map.mp whole.1
  exact ended.sublist (delivers.ordered subscription)

/-- A round starts, by the emitter of its event. -/
def roundStarted (id : String) : BaseEvent where
  id
  type := "RoundStarted"
  timestamp := "1970-01-01T00:00:00.000Z"
  correlationId := id
  source := "orchestrator"

/-- The write of the first of two events ends last, and the handler gets the second one first. -/
theorem slow_write_overtaken
    : ¬ ((run next {} [.on "RoundStarted", .emit (roundStarted "first"),
            .emit (roundStarted "second"), .written 1, .written 0]).received 0).Pairwise
          (·.call < ·.call) := by
  decide

end BusHistory

end CrashWave.Core
