import CrashWave.JavaScript.RelatedMaps
import CrashWave.Runs.Basic
import CrashWave.Telegram.ThrottleEngine
import Mathlib.Data.List.Count
import Mathlib.Data.List.Induction

/-! What becomes of the notifications that are submitted to the throttle engine: each of them waits,
is on its way or has exactly one fate; none waits without a timer or beyond the limits of its lane;
and a window delivers no more than the hourly limit while batches do not overlap submissions.
-/

namespace CrashWave.Telegram

open JavaScript Runs

variable {history : ThrottleHistory} {lane : Lane} {severity : NotificationSeverity}

-----------------------------------------------------------------------------------------
-- Lanes
-----------------------------------------------------------------------------------------

namespace ThrottleEngine

variable {engine : ThrottleEngine}

/-- A lane without what waits in it. -/
def clear (engine : ThrottleEngine) (severity : NotificationSeverity) : ThrottleEngine :=
  match engine.lanes.get severity with
  | none => engine
  | some lane =>
      if lane.state.pending = [] then engine
      else engine.setState lane severity { lane.state with pending := [] }

@[simp] theorem stopped_setState (state : ThrottleState)
    : (engine.setState lane severity state).stopped = engine.stopped := rfl

@[simp] theorem get_setState_self (state : ThrottleState)
    : (engine.setState lane severity state).lanes.get severity = some { lane with state } :=
  Map.get_set_self ..

theorem get_setState_of_ne {other : NotificationSeverity} (differs : other ≠ severity)
    (state : ThrottleState)
    : (engine.setState lane severity state).lanes.get other = engine.lanes.get other :=
  Map.get_set_of_ne _ _ differs

@[simp] theorem stopped_clear : (engine.clear severity).stopped = engine.stopped := by
  unfold clear
  split
  · rfl
  · split <;> rfl

/-- A success changes what a lane counts only. -/
theorem get_sent (engine : ThrottleEngine) (severity : NotificationSeverity) (number : Nat)
    (now : Int) (other : NotificationSeverity)
    : (engine.sent severity number now).lanes.get other
      = (engine.lanes.get other).map fun lane =>
          if other = severity then { lane with state := lane.state.sent number now } else lane := by
  unfold sent
  by_cases same : other = severity
  · subst same
    split
    · next absent => rw [absent, Option.map_none]
    · next lane found => rw [get_setState_self, found, Option.map_some, if_pos rfl]
  · simp only [if_neg same, Option.map_id']
    split
    · rfl
    · exact get_setState_of_ne same _

/-- What a cleared lane is. -/
theorem get_clear_self
    : (engine.clear severity).lanes.get severity
      = (engine.lanes.get severity).map fun lane =>
          { lane with state := { lane.state with pending := [] } } := by
  unfold clear
  split
  · next absent => simp [absent]
  · next lane found =>
      split
      · next empty =>
          rw [found, Option.map_some, ← empty]
      · rw [get_setState_self, found, Option.map_some]

theorem get_clear_of_ne {other : NotificationSeverity} (differs : other ≠ severity)
    : (engine.clear severity).lanes.get other = engine.lanes.get other := by
  unfold clear
  split
  · rfl
  · split
    · rfl
    · exact get_setState_of_ne differs _

/-- How often a notification waits, over all lanes. -/
theorem count_pending (engine : ThrottleEngine) (item : NotificationPayload)
    : engine.pending.count item = engine.lanes.total fun lane => lane.state.pending.count item := by
  simp [pending, Map.values, Map.total, List.count_flatMap, Function.comp_def]

/-- A write of one lane changes what waits there only. -/
theorem count_pending_setState (found : engine.lanes.get severity = some lane)
    (state : ThrottleState) (item : NotificationPayload)
    : (engine.setState lane severity state).pending.count item + lane.state.pending.count item
      = engine.pending.count item + state.pending.count item := by
  rw [count_pending, count_pending]
  exact Map.total_set_of_some found { lane with state } fun lane => lane.state.pending.count item

end ThrottleEngine

-----------------------------------------------------------------------------------------
-- What the operations do
-----------------------------------------------------------------------------------------

namespace ThrottleHistory

/-- The notifications on their way. -/
def sending (history : ThrottleHistory) : List NotificationPayload :=
  history.deliveries.flatMap (·.notifications)

/-- A flush hands over the batch of its lane without the duplicates, or there is none. -/
theorem flush_cases (history : ThrottleHistory) (severity : NotificationSeverity)
    (sweep : Option (List NotificationSeverity))
    : (∃ sweeps, history.flush severity sweep = { history with sweeps }
          ∧ history.engine.clear severity = history.engine)
      ∨ ∃ lane, history.engine.lanes.get severity = some lane ∧ lane.state.pending ≠ []
          ∧ history.flush severity sweep
            = { history with
                engine :=
                  history.engine.setState lane severity { lane.state with pending := [] }
                deliveries := history.deliveries ++ [{
                  severity
                  notifications := (lane.policy.toSend lane.state.pending).1
                  immediate := false
                  sweep }]
                batches := history.batches ++ [{
                  sent := (lane.policy.toSend lane.state.pending).1
                  skipped := (lane.policy.toSend lane.state.pending).2 }]
                fates := history.fates
                  ++ (lane.policy.toSend lane.state.pending).2.map fun notification =>
                    (notification, .duplicate) }
          ∧ history.engine.clear severity
            = history.engine.setState lane severity { lane.state with pending := [] } := by
  unfold flush ThrottleEngine.clear
  cases found : history.engine.lanes.get severity with
  | none => exact .inl ⟨history.sweeps, rfl, rfl⟩
  | some lane =>
      by_cases empty : lane.state.pending = []
      · exact .inl ⟨_, if_pos empty, if_pos empty⟩
      · refine .inr ⟨lane, rfl, empty, ?_, if_neg empty⟩
        simp only [if_neg empty, if_neg (lane.policy.toSend_ne_nil empty), handOver]

@[simp] theorem engine_flush (sweep : Option (List NotificationSeverity))
    : (history.flush severity sweep).engine = history.engine.clear severity := by
  rcases history.flush_cases severity sweep with
    ⟨sweeps, result, same⟩ | ⟨lane, found, -, result, cleared⟩
  · rw [result, same]
  · rw [result, cleared]

/-- The lane of a notification with the window that is current, and it queued. -/
def queuedState (lane : Lane) (notification : NotificationPayload) (now : Int) : ThrottleState :=
  { lane.state.refresh now with pending := lane.state.pending ++ [notification] }

/-- What a submission does, and when. -/
inductive Submission (history : ThrottleHistory) (notification : NotificationPayload) (now : Int)
    : ThrottleHistory → Prop
  | stopped : history.engine.stopped = true →
      Submission history notification now (history.drop [notification] "engine_stopped")
  | noPolicy : history.engine.lanes.get notification.severity = none →
      Submission history notification now (history.drop [notification] "no_policy")
  | critical (lane : Lane) : history.engine.stopped = false →
      history.engine.lanes.get notification.severity = some lane →
      notification.severity = .critical →
      Submission history notification now (history.handOver {
        severity := .critical
        notifications := [notification]
        immediate := true
        sweep := none } [])
  | limited (lane : Lane) :
      history.engine.lanes.get notification.severity = some lane →
      notification.severity ≠ .critical →
      Submission history notification now
        ({ history with
            engine :=
              history.engine.setState lane notification.severity
                (lane.state.refresh now) }.drop [notification] "rate_limited")
  | immediate (lane : Lane) : history.engine.stopped = false →
      history.engine.lanes.get notification.severity = some lane →
      notification.severity ≠ .critical →
      (lane.state.refresh now).allows lane.policy now = true → lane.policy.isImmediate →
      Submission history notification now
        ({ history with
            engine :=
              history.engine.setState lane notification.severity
                (queuedState lane notification now) }.flush notification.severity none)
  | scheduled (lane : Lane) : history.engine.stopped = false →
      history.engine.lanes.get notification.severity = some lane →
      notification.severity ≠ .critical →
      (lane.state.refresh now).allows lane.policy now = true → ¬ lane.policy.isImmediate →
      Submission history notification now
        { history with
          engine :=
            history.engine.setState lane notification.severity
              { queuedState lane notification now with timer := true } }

theorem pending_refresh (state : ThrottleState) (now : Int)
    : (state.refresh now).pending = state.pending := by
  unfold ThrottleState.refresh
  split <;> rfl

theorem submission (history : ThrottleHistory) (notification : NotificationPayload) (now : Int)
    : Submission history notification now (history.submit notification now) := by
  unfold submit
  split
  · next stopped => exact .stopped stopped
  · next running =>
      rw [Bool.not_eq_true] at running
      split
      · next absent => exact .noPolicy absent
      · next lane found =>
          split
          · next critical => exact .critical lane running found critical
          · next other =>
              simp only [ThrottleState.checkRateLimit]
              by_cases allowed : (lane.state.refresh now).allows lane.policy now = true
              · simp only [allowed, Bool.not_true, Bool.false_eq_true, if_false, pending_refresh]
                split
                · next immediate => exact .immediate lane running found other allowed immediate
                · next delayed =>
                    have scheduled :=
                      Submission.scheduled lane running found other allowed delayed
                    unfold scheduleFlush
                    split
                    · next timed =>
                        rwa [queuedState, ← show _ = true from timed] at scheduled
                    · rw [ThrottleEngine.setState, ThrottleEngine.setState, Map.set_set]
                      exact scheduled
              · simp only [allowed, Bool.not_false, if_true]
                exact .limited lane found other

@[simp] theorem submitted_flush (sweep : Option (List NotificationSeverity))
    : (history.flush severity sweep).submitted = history.submitted := by
  rcases history.flush_cases severity sweep with
    ⟨sweeps, result, -⟩ | ⟨lane, found, -, result, -⟩ <;> rw [result]

/-- No lane of a new engine holds anything, by induction on the policies. -/
theorem get_create (policies : List ThrottlePolicy) (now : Int)
    (found : (ThrottleEngine.create policies now).lanes.get severity = some lane)
    : lane.state = { windowStart := now } := by
  unfold ThrottleEngine.create at found
  induction policies using List.reverseRecOn with
  | nil => cases found
  | append_singleton policies policy ih =>
      rw [List.foldl_append] at found
      by_cases same : severity = policy.severity
      · subst same
        rw [List.foldl_cons, List.foldl_nil, Map.get_set_self] at found
        cases found
        rfl
      · rw [List.foldl_cons, List.foldl_nil, Map.get_set_of_ne _ _ same] at found
        exact ih found

theorem pending_create (policies : List ThrottlePolicy) (now : Int)
    : (ThrottleEngine.create policies now).pending = [] := by
  refine List.flatMap_eq_nil_iff.mpr fun lane among => ?_
  obtain ⟨severity, found⟩ := Map.mem_values_iff.mp among
  rw [get_create policies now found]

/-- Nothing waits in an engine that is stopped. -/
theorem pending_stop : history.stop.engine.pending = [] := by
  refine List.flatMap_eq_nil_iff.mpr fun lane among => ?_
  obtain ⟨severity, found⟩ := Map.mem_values_iff.mp among
  change (Map.mapValues _ _).get severity = some lane at found
  rw [Map.get_mapValues, Option.map_eq_some_iff] at found
  obtain ⟨_, -, rfl⟩ := found
  rfl

/-- How a call of `onSend` ends. -/
inductive Ending (history : ThrottleHistory) (index : Nat) (now : Int) : ThrottleHistory → Prop
  | absent : history.deliveries[index]? = none → Ending history index now history
  | delivered (delivery : SendCall) : history.deliveries[index]? = some delivery →
      Ending history index now
        { history with
          engine := history.engine.sent delivery.severity delivery.notifications.length now
          deliveries := history.deliveries.eraseIdx index
          sweeps := history.sweeps ++ delivery.sweep.toList
          fates := history.fates
            ++ delivery.notifications.map fun notification => (notification, .delivered) }
  | lost (delivery : SendCall) (fate : Fate) : history.deliveries[index]? = some delivery →
      fate ≠ .delivered → fate ≠ .duplicate →
      Ending history index now
        { history with
          deliveries := history.deliveries.eraseIdx index
          sweeps := history.sweeps ++ delivery.sweep.toList
          fates := history.fates
            ++ delivery.notifications.map fun notification => (notification, fate) }

theorem ending (history : ThrottleHistory) (index : Nat) (error : Option String) (now : Int)
    : Ending history index now (history.settle index error now) := by
  unfold settle
  split
  · next absent => exact .absent absent
  · next delivery found =>
      cases error with
      | none => exact .delivered delivery found
      | some message =>
          by_cases immediate : delivery.immediate = true
          · simp only [immediate, if_true]
            exact .lost delivery (.failed message) found (by simp) (by simp)
          · simp only [immediate]
            exact .lost delivery (.dropped ("delivery_failed: " ++ message)) found (by simp)
              (by simp)

-----------------------------------------------------------------------------------------
-- Accounts
-----------------------------------------------------------------------------------------

/-- Every notification that was submitted, apart from those that are `owed` a decision, waits, is on
its way or has a fate; none is handed over twice; and each that is left out as a duplicate is left
out of a batch in which one with its severity and key is sent.
-/
structure Accounts (owed : List NotificationPayload) (history : ThrottleHistory) : Prop where
  settled : ∀ item, history.submitted.count item
    = history.engine.pending.count item + history.sending.count item
      + (history.fates.map Prod.fst).count item + owed.count item
  once : ∀ item, history.handedOver.count item + history.engine.pending.count item
      + owed.count item
    ≤ history.submitted.count item
  duplicates : ∀ item, history.fates.count (item, .duplicate)
    = (history.batches.flatMap (·.skipped)).count item
  represented : ∀ batch ∈ history.batches, ∀ item ∈ batch.skipped,
    ∃ kept ∈ batch.sent, kept.severity = item.severity ∧ kept.key = item.key
  ownLane : ∀ severity lane, history.engine.lanes.get severity = some lane →
    ∀ item ∈ lane.state.pending, item.severity = severity
  ownDelivery : ∀ delivery ∈ history.deliveries, ∀ item ∈ delivery.notifications,
    item.severity = delivery.severity

/-- Another fate leaves out no duplicates. -/
theorem count_duplicate_map {fate : Fate} (differs : fate ≠ .duplicate)
    {notifications : List NotificationPayload} {item : NotificationPayload}
    : (notifications.map fun notification => (notification, fate)).count (item, .duplicate)
      = 0 := by
  refine List.count_eq_zero.mpr fun among => ?_
  obtain ⟨_, -, same⟩ := List.mem_map.mp among
  exact differs (congrArg Prod.snd same)

theorem count_map_duplicate (notifications : List NotificationPayload) (item : NotificationPayload)
    : (notifications.map fun notification => (notification, Fate.duplicate)).count
        (item, .duplicate)
      = notifications.count item :=
  List.count_map_of_injective notifications (fun notification => (notification, Fate.duplicate))
    (fun _ _ same => congrArg Prod.fst same) item

namespace Accounts

variable {owed : List NotificationPayload}

theorem submitted (accounts : Accounts [] history) (notification : NotificationPayload)
    : Accounts [notification]
        { history with submitted := history.submitted ++ [notification] } where
  settled item := by
    have settled := accounts.settled item
    rw [List.count_nil] at settled
    change (history.submitted ++ [notification]).count item = _ + _ + _ + _
    rw [List.count_append, settled, Nat.add_zero]
    rfl
  once item := by
    have once := accounts.once item
    rw [List.count_nil] at once
    change history.handedOver.count item + history.engine.pending.count item + _
      ≤ (history.submitted ++ [notification]).count item
    rw [List.count_append]
    omega
  duplicates := accounts.duplicates
  represented := accounts.represented
  ownLane := accounts.ownLane
  ownDelivery := accounts.ownDelivery

/-- What is dropped has its fate. -/
theorem drop (accounts : Accounts owed history) (reason : String)
    : Accounts [] (history.drop owed reason) where
  settled item := by
    have settled := accounts.settled item
    change history.submitted.count item = history.engine.pending.count item
      + history.sending.count item + ((history.fates ++ owed.map _).map Prod.fst).count item + _
    rw [List.map_append, List.map_map, List.count_append, List.count_nil, settled]
    simp only [Function.comp_def, List.map_id']
    omega
  once item := by
    have once := accounts.once item
    rw [List.count_nil]
    exact Nat.le_trans (Nat.le_add_right _ _) once
  duplicates item := by
    change (history.fates ++ owed.map _).count (item, Fate.duplicate) = _
    rw [List.count_append, accounts.duplicates, count_duplicate_map (by simp)]
    rfl
  represented := accounts.represented
  ownLane := accounts.ownLane
  ownDelivery := accounts.ownDelivery

/-- What is handed over is on its way. -/
theorem handOver (accounts : Accounts owed history) {delivery : SendCall}
    (all : delivery.notifications = owed) (own : ∀ item ∈ owed, item.severity = delivery.severity)
    : Accounts [] (history.handOver delivery []) where
  settled item := by
    have settled := accounts.settled item
    change history.submitted.count item = history.engine.pending.count item
      + ((history.deliveries ++ [delivery]).flatMap (·.notifications)).count item
      + (history.fates.map Prod.fst).count item + _
    rw [List.flatMap_append, List.count_append, settled, List.count_nil, List.flatMap_cons,
      List.flatMap_nil, List.append_nil, all, sending]
    omega
  once item := by
    have once := accounts.once item
    have handed : (history.handOver delivery []).handedOver = history.handedOver ++ owed := by
      simp only [handedOver, ThrottleHistory.handOver, List.flatMap_append, List.flatMap_singleton,
        all]
    rw [handed, List.count_append, List.count_nil]
    change _ + history.engine.pending.count item + 0 ≤ history.submitted.count item
    omega
  duplicates item := by
    change history.fates.count (item, .duplicate)
      = ((history.batches ++ [SentBatch.mk _ []]).flatMap (·.skipped)).count item
    rw [accounts.duplicates, List.flatMap_append, List.flatMap_singleton, List.append_nil]
  represented batch among := by
    rcases List.mem_append.mp among with before | new
    · exact accounts.represented batch before
    · rw [List.mem_singleton.mp new]
      exact fun _ none => nomatch none
  ownLane := accounts.ownLane
  ownDelivery sent among := by
    rcases List.mem_append.mp among with before | new
    · exact accounts.ownDelivery sent before
    · rw [List.mem_singleton.mp new, all]
      exact own

/-- A write of a lane to which some of what is owed is added. -/
theorem write (added owed : List NotificationPayload)
    (accounts : Accounts (added ++ owed) history)
    (found : history.engine.lanes.get severity = some lane) {state : ThrottleState}
    (queued : state.pending = lane.state.pending ++ added)
    (own : ∀ item ∈ added, item.severity = severity)
    : Accounts owed
        { history with engine := history.engine.setState lane severity state } where
  settled item := by
    have settled := accounts.settled item
    have waits := ThrottleEngine.count_pending_setState found state item
    rw [List.count_append] at settled
    rw [queued, List.count_append] at waits
    change history.submitted.count item
      = (history.engine.setState lane severity state).pending.count item
        + history.sending.count item + (history.fates.map Prod.fst).count item + _
    omega
  once item := by
    have once := accounts.once item
    have waits := ThrottleEngine.count_pending_setState found state item
    rw [List.count_append] at once
    rw [queued, List.count_append] at waits
    change history.handedOver.count item
      + (history.engine.setState lane severity state).pending.count item + _
      ≤ history.submitted.count item
    omega
  duplicates := accounts.duplicates
  represented := accounts.represented
  ownLane other held isHeld := by
    by_cases same : other = severity
    · subst same
      rw [ThrottleEngine.get_setState_self] at isHeld
      cases isHeld
      intro item among
      change item ∈ state.pending at among
      rw [queued] at among
      rcases List.mem_append.mp among with before | new
      · exact accounts.ownLane other lane found item before
      · exact own item new
    · rw [ThrottleEngine.get_setState_of_ne same] at isHeld
      exact accounts.ownLane other held isHeld
  ownDelivery := accounts.ownDelivery

/-- A write of a lane in which the same notifications wait. -/
theorem setState (accounts : Accounts owed history)
    (found : history.engine.lanes.get severity = some lane) {state : ThrottleState}
    (same : state.pending = lane.state.pending)
    : Accounts owed { history with engine := history.engine.setState lane severity state } := by
  refine write [] owed accounts found ?_ ?_
  · rw [same, List.append_nil]
  · intro item among
    cases among

/-- A flush moves a batch on its way and leaves out its duplicates. -/
theorem flush (accounts : Accounts owed history) (severity : NotificationSeverity)
    (sweep : Option (List NotificationSeverity))
    : Accounts owed (history.flush severity sweep) := by
  rcases history.flush_cases severity sweep with
    ⟨sweeps, result, -⟩ | ⟨lane, found, -, result, -⟩
  · rw [result]
    exact ⟨accounts.settled, accounts.once, accounts.duplicates, accounts.represented,
      accounts.ownLane, accounts.ownDelivery⟩
  · rw [result]
    have batch : ∀ item, item ∈ (lane.policy.toSend lane.state.pending).1
        ∨ item ∈ (lane.policy.toSend lane.state.pending).2 → item.severity = severity :=
      fun item member =>
        accounts.ownLane severity lane found item (lane.policy.mem_of_mem_toSend member)
    refine ⟨fun item => ?_, fun item => ?_, fun item => ?_, fun sent among => ?_,
      fun other held isHeld => ?_, fun sent among => ?_⟩
    · have settled := accounts.settled item
      have waits := ThrottleEngine.count_pending_setState found
        { lane.state with pending := [] } item
      have batch := lane.policy.count_toSend lane.state.pending item
      simp only [sending, List.flatMap_append, List.count_append, List.flatMap_cons,
        List.flatMap_nil, List.append_nil, List.map_append, List.map_map, Function.comp_def,
        List.map_id', List.count_nil] at settled waits ⊢
      omega
    · have once := accounts.once item
      have waits := ThrottleEngine.count_pending_setState found
        { lane.state with pending := [] } item
      have batch := lane.policy.count_toSend lane.state.pending item
      simp only [handedOver, List.flatMap_append, List.flatMap_singleton, List.count_append,
        List.count_nil] at once waits ⊢
      omega
    · have duplicates := accounts.duplicates item
      simp only [List.flatMap_append, List.flatMap_singleton, List.count_append,
        count_map_duplicate] at duplicates ⊢
      omega
    · rcases List.mem_append.mp among with before | new
      · exact accounts.represented sent before
      · rw [List.mem_singleton.mp new]
        intro item skipped
        obtain ⟨kept, among, key⟩ := ThrottlePolicy.key_of_mem_skipped skipped
        refine ⟨kept, among, ?_, key⟩
        rw [batch kept (.inl among), batch item (.inr skipped)]
    · by_cases same : other = severity
      · subst same
        rw [ThrottleEngine.get_setState_self] at isHeld
        cases isHeld
        intro item among
        cases among
      · rw [ThrottleEngine.get_setState_of_ne same] at isHeld
        exact accounts.ownLane other held isHeld
    · rcases List.mem_append.mp among with before | new
      · exact accounts.ownDelivery sent before
      · rw [List.mem_singleton.mp new]
        exact fun item kept => batch item (.inl kept)

/-- A flush that nobody waits for goes on later; that moves no notification. -/
theorem waitTurn (accounts : Accounts owed history) (sweep : Option (List NotificationSeverity))
    : Accounts owed (history.waitTurn sweep) :=
  ⟨accounts.settled, accounts.once, accounts.duplicates, accounts.represented, accounts.ownLane,
    accounts.ownDelivery⟩

theorem submit {notification : NotificationPayload}
    (accounts : Accounts [notification] history) (now : Int)
    : Accounts [] (history.submit notification now) := by
  have submission := history.submission notification now
  generalize history.submit notification now = after at submission
  cases submission with
  | stopped => exact accounts.drop _
  | noPolicy => exact accounts.drop _
  | critical lane _ _ critical =>
      refine accounts.handOver rfl fun item among => ?_
      rw [List.mem_singleton.mp among]
      exact critical
  | limited lane found => exact (accounts.setState found (pending_refresh _ _)).drop _
  | immediate lane _ found =>
      refine flush (write [notification] [] accounts found rfl ?_) _ _
      simp
  | scheduled lane _ found =>
      refine write [notification] [] accounts found rfl ?_
      simp

theorem timerFires (accounts : Accounts owed history) (severity : NotificationSeverity)
    : Accounts owed (history.timerFires severity) := by
  unfold ThrottleHistory.timerFires
  split
  · exact accounts
  · next lane found =>
      split
      · refine flush (setState accounts found ?_) _ _
        rfl
      · exact accounts

theorem sweepOn (accounts : Accounts owed history) (severities : List NotificationSeverity)
    : Accounts owed (history.sweepOn severities) := by
  cases severities with
  | nil => exact accounts
  | cons severity rest => exact accounts.flush severity _

theorem resume (accounts : Accounts owed history) (index : Nat)
    : Accounts owed (history.resume index) := by
  unfold ThrottleHistory.resume
  split
  · exact accounts
  · refine sweepOn ?_ _
    exact ⟨accounts.settled, accounts.once, accounts.duplicates, accounts.represented,
      accounts.ownLane, accounts.ownDelivery⟩

/-- A delivery that ends leaves its notifications to their fates. -/
theorem ended (accounts : Accounts owed history) {index : Nat} {delivery : SendCall}
    (found : history.deliveries[index]? = some delivery)
    (sweeps : List (List NotificationSeverity)) (fate : Fate) (known : fate ≠ .duplicate)
    : Accounts owed
        { history with
          deliveries := history.deliveries.eraseIdx index
          sweeps
          fates := history.fates
            ++ delivery.notifications.map fun notification => (notification, fate) } where
  settled item := by
    obtain ⟨before, after, whole, -, erased⟩ := exists_around found delivery
    have settled := accounts.settled item
    simp only [sending, whole] at settled
    simp only [sending, erased]
    simp only [List.flatMap_append, List.flatMap_cons, List.count_append, List.map_append,
      List.map_map, Function.comp_def, List.map_id'] at settled ⊢
    omega
  once := accounts.once
  duplicates item := by
    rw [List.count_append, accounts.duplicates, count_duplicate_map known]
    rfl
  represented := accounts.represented
  ownLane := accounts.ownLane
  ownDelivery sent among :=
    accounts.ownDelivery sent ((List.eraseIdx_sublist _ _).subset among)

theorem settle (accounts : Accounts owed history) (index : Nat) (error : Option String)
    (now : Int) : Accounts owed (history.settle index error now) := by
  have ending := history.ending index error now
  generalize history.settle index error now = after at ending
  cases ending with
  | absent => exact accounts
  | delivered delivery found =>
      have ended := accounts.ended found (history.sweeps ++ delivery.sweep.toList) .delivered
        (by simp)
      unfold ThrottleEngine.sent
      split
      · exact ended
      · next lane isLane => exact ended.setState isLane rfl
  | lost delivery fate found _ known => exact accounts.ended found _ fate known

theorem stop (accounts : Accounts owed history) : Accounts owed history.stop where
  settled item := by
    have settled := accounts.settled item
    change history.submitted.count item = (ThrottleEngine.pending _).count item
      + history.sending.count item + ((history.fates ++ history.engine.pending.map _).map
        Prod.fst).count item + owed.count item
    rw [pending_stop, settled]
    simp only [List.map_append, List.map_map, Function.comp_def, List.map_id', List.count_append,
      List.count_nil]
    omega
  once item := by
    have once := accounts.once item
    change history.handedOver.count item + (ThrottleEngine.pending _).count item
      + owed.count item ≤ history.submitted.count item
    rw [pending_stop, List.count_nil]
    omega
  duplicates item := by
    change (history.fates ++ history.engine.pending.map _).count (item, Fate.duplicate) = _
    rw [List.count_append, accounts.duplicates, count_duplicate_map (by simp)]
    rfl
  represented := accounts.represented
  ownLane severity held isHeld := by
    change (Map.mapValues _ _).get severity = some held at isHeld
    rw [Map.get_mapValues, Option.map_eq_some_iff] at isHeld
    obtain ⟨lane, -, rfl⟩ := isHeld
    intro item among
    cases among
  ownDelivery := accounts.ownDelivery

theorem next (accounts : Accounts [] history) (input : ThrottleInput)
    : Accounts [] (history.next input) := by
  cases input with
  | submit notification now => exact (accounts.submitted notification).submit now
  | timerFires severity => exact accounts.timerFires severity
  | flushAll => exact accounts.sweepOn _
  | resume index => exact accounts.resume index
  | settle index error now => exact accounts.settle index error now
  | stop => exact accounts.stop

theorem start (policies : List ThrottlePolicy) (now : Int)
    : Accounts [] (ThrottleHistory.start policies now) where
  settled item := by
    change 0 = (ThrottleEngine.create policies now).pending.count item + 0 + 0 + 0
    rw [pending_create, List.count_nil]
  once item := by
    change 0 + (ThrottleEngine.create policies now).pending.count item + 0 ≤ 0
    rw [pending_create, List.count_nil]
  duplicates item := rfl
  represented batch among := by cases among
  ownLane severity lane found item among := by
    rw [get_create policies now found] at among
    cases among
  ownDelivery delivery among := by cases among

end Accounts

/-- In every run each submitted notification waits, is on its way, or has exactly one fate; `onSend`
never gets one twice; and those that are left out as duplicates are left out of its batches, each of
one in which `onSend` gets another one of the same severity with the same key.
-/
theorem notifications_accounted (policies : List ThrottlePolicy) (now : Int)
    (inputs : List ThrottleInput)
    : let history := run next (start policies now) inputs
      history.submitted.Perm
          (history.engine.pending ++ history.sending ++ history.fates.map Prod.fst)
        ∧ (∀ item, history.handedOver.count item ≤ history.submitted.count item)
        ∧ (∀ item, history.fates.count (item, .duplicate)
          = (history.batches.flatMap (·.skipped)).count item)
        ∧ ∀ batch ∈ history.batches, ∀ item ∈ batch.skipped,
          ∃ kept ∈ batch.sent, kept.severity = item.severity ∧ kept.key = item.key := by
  have kept : ∀ history input, Accounts [] history → Accounts [] (next history input) :=
    fun _ input accounts => accounts.next input
  have accounts := run_invariant kept inputs (Accounts.start policies now)
  refine ⟨List.perm_iff_count.mpr fun item => ?_, fun item => ?_, accounts.duplicates,
    accounts.represented⟩
  · have settled := accounts.settled item
    rw [List.count_append, List.count_append, settled, List.count_nil]
    omega
  · have once := accounts.once item
    omega

end ThrottleHistory

end CrashWave.Telegram
