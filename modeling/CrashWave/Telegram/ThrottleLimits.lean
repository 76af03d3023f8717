import CrashWave.Telegram.NotificationFates

/-! What a lane of the throttle engine holds and sends: nothing waits without a timer or beyond the
limits of its policy, nothing is sent once the engine is stopped, and a window delivers no more than
the hourly limit while no batch is on its way when a notification of its severity is submitted.
-/

namespace CrashWave.Telegram

open JavaScript Runs

namespace ThrottleHistory

variable {history : ThrottleHistory} {lane : Lane} {severity : NotificationSeverity}

-----------------------------------------------------------------------------------------
-- What waits
-----------------------------------------------------------------------------------------

/-- What waits in a lane does so with a timer, and within the limits; a lane whose notifications are
handed over at once, and one of an engine that is stopped, is empty.
-/
structure Orderly (stopped : Bool) (severity : NotificationSeverity) (lane : Lane) : Prop where
  timed : lane.state.pending ≠ [] → lane.state.timer = true
  delayed : lane.state.pending ≠ [] → severity ≠ .critical ∧ ¬ lane.policy.isImmediate
  bounded : ∀ limit : Nat,
    lane.policy.maxPerMinute ≤ .finite limit ∨ lane.policy.maxPerHour ≤ .finite limit →
    lane.state.pending.length ≤ limit
  silent : stopped = true → lane.state.pending = [] ∧ lane.state.timer = false

/-- All lanes are. -/
def AllOrderly (engine : ThrottleEngine) : Prop :=
  ∀ severity lane, engine.lanes.get severity = some lane → Orderly engine.stopped severity lane

/-- A lane in which nothing waits is orderly, unless a timer is left after a stop. -/
theorem Orderly.of_empty {stopped : Bool} (empty : lane.state.pending = [])
    (silent : stopped = true → lane.state.timer = false) : Orderly stopped severity lane where
  timed filled := absurd empty filled
  delayed filled := absurd empty filled
  bounded limit _ := by
    rw [empty]
    exact Nat.zero_le _
  silent isStopped := ⟨empty, silent isStopped⟩

/-- What a lane counts does not matter for that. -/
theorem Orderly.recount {stopped : Bool} (orderly : Orderly stopped severity lane)
    {state : ThrottleState} (pending : state.pending = lane.state.pending)
    (timer : state.timer = lane.state.timer) : Orderly stopped severity { lane with state } := by
  obtain ⟨timed, delayed, bounded, silent⟩ := orderly
  rw [← pending] at timed delayed bounded silent
  rw [← timer] at timed silent
  exact ⟨timed, delayed, bounded, silent⟩

/-- All lanes stay orderly when an orderly one is written. -/
theorem AllOrderly.setState {engine : ThrottleEngine} (orderly : AllOrderly engine)
    {state : ThrottleState} (new : Orderly engine.stopped severity { lane with state })
    : AllOrderly (engine.setState lane severity state) := by
  intro other held isHeld
  by_cases same : other = severity
  · subst same
    rw [ThrottleEngine.get_setState_self] at isHeld
    cases isHeld
    exact new
  · rw [ThrottleEngine.get_setState_of_ne same] at isHeld
    exact orderly other held isHeld

/-- All lanes are orderly once one is cleared, if the other ones are. -/
theorem AllOrderly.clear {engine : ThrottleEngine}
    (others : ∀ other ≠ severity, ∀ lane, engine.lanes.get other = some lane →
      Orderly engine.stopped other lane)
    (silent : ∀ lane, engine.lanes.get severity = some lane → engine.stopped = true →
      lane.state.timer = false)
    : AllOrderly (engine.clear severity) := by
  intro other held isHeld
  rw [ThrottleEngine.stopped_clear]
  by_cases same : other = severity
  · subst same
    rw [ThrottleEngine.get_clear_self, Option.map_eq_some_iff] at isHeld
    obtain ⟨lane, found, rfl⟩ := isHeld
    exact .of_empty rfl (silent lane found)
  · rw [ThrottleEngine.get_clear_of_ne same] at isHeld
    exact others other same held isHeld

theorem AllOrderly.flush (orderly : AllOrderly history.engine) (severity : NotificationSeverity)
    (sweep : Option (List NotificationSeverity))
    : AllOrderly (history.flush severity sweep).engine := by
  rw [engine_flush]
  refine .clear (fun other _ => orderly other) fun lane found stopped => ?_
  exact ((orderly severity lane found).silent stopped).2

/-- A limit that a number has not reached is above it. -/
theorem lt_of_not_reached {bound : Number} (number : Int) {limit : Nat}
    (open' : ¬ bound ≤ .finite number) (reached : bound ≤ .finite limit) : number < limit := by
  by_contra above
  have ordered : (limit : ℚ) ≤ number := by exact_mod_cast not_lt.mp above
  exact open' (Number.le_trans reached (decide_eq_true ordered))

theorem approximateMinuteCount_nonneg (state : ThrottleState) (now : Int)
    : 0 ≤ state.approximateMinuteCount now := by
  unfold ThrottleState.approximateMinuteCount
  split
  · refine le_min (Int.natCast_nonneg _) (Int.ceil_nonneg ?_)
    have window : (0 : Int) ≤ max (now - state.windowStart) 60000 :=
      le_max_of_le_right (by decide)
    exact div_nonneg (by positivity) (by exact_mod_cast window)
  · exact le_refl 0

/-- A limit that is not reached is above what it limits. -/
theorem lt_of_allows {state : ThrottleState} {policy : ThrottlePolicy} {now : Int}
    (allowed : state.allows policy now = true) (limit : Nat)
    : (policy.maxPerMinute ≤ .finite limit → state.pending.length < limit)
      ∧ (policy.maxPerHour ≤ .finite limit → state.count + state.pending.length < limit) := by
  unfold ThrottleState.allows at allowed
  dsimp only at allowed
  split at allowed
  · cases allowed
  · next minute =>
      split at allowed
      · cases allowed
      · next hour =>
          constructor
          · intro reached
            have below := lt_of_not_reached _ minute reached
            have count := approximateMinuteCount_nonneg state now
            omega
          · intro reached
            have below := lt_of_not_reached (state.count + state.pending.length : Nat)
              (by exact_mod_cast hour) reached
            exact_mod_cast below

/-- A queued notification fits in the lane. -/
theorem Orderly.queued {stopped : Bool} {notification : NotificationPayload} {now : Int}
    (running : stopped = false) (other : severity ≠ .critical)
    (allowed : (lane.state.refresh now).allows lane.policy now = true)
    (delayed : ¬ lane.policy.isImmediate)
    : Orderly stopped severity
        { lane with state := { queuedState lane notification now with timer := true } } where
  timed _ := rfl
  delayed _ := ⟨other, delayed⟩
  bounded limit reached := by
    change (lane.state.pending ++ [notification]).length ≤ limit
    rw [List.length_append, List.length_singleton, ← pending_refresh lane.state now]
    obtain ⟨minute, hour⟩ := lt_of_allows allowed limit
    rcases reached with reached | reached
    · exact minute reached
    · have below := hour reached
      omega
  silent isStopped := by
    rw [running] at isStopped
    cases isStopped

theorem AllOrderly.submit (orderly : AllOrderly history.engine)
    (notification : NotificationPayload) (now : Int)
    : AllOrderly (history.submit notification now).engine := by
  have submission := history.submission notification now
  generalize history.submit notification now = after at submission
  cases submission with
  | stopped => exact orderly
  | noPolicy => exact orderly
  | critical => exact orderly
  | limited lane found other =>
      refine orderly.setState ((orderly _ lane found).recount (pending_refresh _ _) ?_)
      unfold ThrottleState.refresh
      split <;> rfl
  | immediate lane running found other allowed immediate =>
      rw [engine_flush]
      refine .clear (fun severity differs held isHeld => ?_) fun _ _ stopped => ?_
      · rw [ThrottleEngine.get_setState_of_ne differs] at isHeld
        exact orderly severity held isHeld
      · rw [ThrottleEngine.stopped_setState, running] at stopped
        cases stopped
  | scheduled lane running found other allowed delayed =>
      exact orderly.setState (.queued running other allowed delayed)

theorem AllOrderly.timerFires (orderly : AllOrderly history.engine)
    (severity : NotificationSeverity) : AllOrderly (history.timerFires severity).engine := by
  unfold ThrottleHistory.timerFires
  split
  · exact orderly
  · next lane found =>
      split
      · rw [engine_flush]
        refine .clear (fun other differs held isHeld => ?_) fun held isHeld _ => ?_
        · rw [ThrottleEngine.get_setState_of_ne differs] at isHeld
          exact orderly other held isHeld
        · rw [ThrottleEngine.get_setState_self] at isHeld
          cases isHeld
          rfl
      · exact orderly

theorem AllOrderly.sweepOn (orderly : AllOrderly history.engine)
    (severities : List NotificationSeverity)
    : AllOrderly (history.sweepOn severities).engine := by
  cases severities with
  | nil => exact orderly
  | cons severity rest => exact orderly.flush severity _

theorem AllOrderly.sent {engine : ThrottleEngine} (orderly : AllOrderly engine)
    (severity : NotificationSeverity) (number : Nat) (now : Int)
    : AllOrderly (engine.sent severity number now) := by
  unfold ThrottleEngine.sent
  split
  · exact orderly
  · next lane found => exact orderly.setState ((orderly severity lane found).recount rfl rfl)

theorem AllOrderly.next (orderly : AllOrderly history.engine) (input : ThrottleInput)
    : AllOrderly (history.next input).engine := by
  cases input with
  | submit notification now =>
      have submitted :
          AllOrderly { history with submitted := history.submitted ++ [notification] }.engine :=
        orderly
      exact submitted.submit notification now
  | timerFires severity => exact orderly.timerFires severity
  | flushAll => exact orderly.sweepOn _
  | resume index =>
      change AllOrderly (history.resume index).engine
      unfold resume
      split
      · exact orderly
      · have taken : AllOrderly { history with sweeps := history.sweeps.eraseIdx index }.engine :=
          orderly
        exact taken.sweepOn _
  | settle index error now =>
      change AllOrderly (history.settle index error now).engine
      have ending := history.ending index error now
      generalize history.settle index error now = after at ending
      cases ending with
      | absent => exact orderly
      | delivered delivery => exact orderly.sent _ _ _
      | lost => exact orderly
  | stop =>
      intro severity held isHeld
      change (Map.mapValues _ _).get severity = some held at isHeld
      rw [Map.get_mapValues, Option.map_eq_some_iff] at isHeld
      obtain ⟨lane, -, rfl⟩ := isHeld
      exact .of_empty rfl fun _ => rfl

theorem allOrderly_start (policies : List ThrottlePolicy) (now : Int)
    : AllOrderly (start policies now).engine := by
  intro severity lane found
  refine .of_empty ?_ fun _ => ?_ <;> rw [get_create policies now found]

/-- `onSend` is not called, and the engine stays stopped. -/
def Silent (history later : ThrottleHistory) : Prop :=
  later.batches = history.batches ∧ later.engine.stopped = true

theorem Silent.flush (orderly : AllOrderly history.engine)
    (stopped : history.engine.stopped = true) (severity : NotificationSeverity)
    (sweep : Option (List NotificationSeverity))
    : Silent history (history.flush severity sweep) := by
  refine ⟨?_, by rw [engine_flush, ThrottleEngine.stopped_clear, stopped]⟩
  rcases history.flush_cases severity sweep with
    ⟨sweeps, result, -⟩ | ⟨lane, found, filled, -, -⟩
  · rw [result]
  · exact absurd ((orderly severity lane found).silent stopped).1 filled

theorem Silent.sweepOn (orderly : AllOrderly history.engine)
    (stopped : history.engine.stopped = true) (severities : List NotificationSeverity)
    : Silent history (history.sweepOn severities) := by
  cases severities with
  | nil => exact ⟨rfl, stopped⟩
  | cons severity rest => exact .flush orderly stopped severity _

/-- An engine that is stopped calls `onSend` no more. -/
theorem Silent.next (orderly : AllOrderly history.engine)
    (stopped : history.engine.stopped = true) (input : ThrottleInput)
    : Silent history (history.next input) := by
  cases input with
  | submit notification now =>
      change Silent history (ThrottleHistory.submit _ _ _)
      rw [ThrottleHistory.submit, if_pos stopped]
      exact ⟨rfl, stopped⟩
  | timerFires severity =>
      change Silent history (history.timerFires severity)
      unfold timerFires
      split
      · exact ⟨rfl, stopped⟩
      · next lane found =>
          rw [((orderly severity lane found).silent stopped).2]
          exact ⟨rfl, stopped⟩
  | flushAll => exact .sweepOn orderly stopped _
  | resume index =>
      change Silent history (history.resume index)
      unfold resume
      split
      · exact ⟨rfl, stopped⟩
      · have taken : AllOrderly { history with sweeps := history.sweeps.eraseIdx index }.engine :=
          orderly
        exact Silent.sweepOn taken stopped _
  | settle index error now =>
      change Silent history (history.settle index error now)
      have ending := history.ending index error now
      generalize history.settle index error now = after at ending
      cases ending with
      | absent => exact ⟨rfl, stopped⟩
      | delivered delivery =>
          refine ⟨rfl, ?_⟩
          change (history.engine.sent _ _ _).stopped = true
          unfold ThrottleEngine.sent
          split <;> exact stopped
      | lost => exact ⟨rfl, stopped⟩
  | stop => exact ⟨rfl, rfl⟩

/-- In every run, what waits in a lane does so with a timer and within the limits of its policy;
and once the engine is stopped nothing waits, and `onSend` is called no more however the run goes
on.
-/
theorem waiting_bounded (policies : List ThrottlePolicy) (now : Int) (inputs : List ThrottleInput)
    : let history := run next (start policies now) inputs
      AllOrderly history.engine
        ∧ (history.engine.stopped = true → ∀ later,
          (run next history later).batches = history.batches
            ∧ (run next history later).engine.pending = []) := by
  have kept : ∀ history input, AllOrderly history.engine → AllOrderly (next history input).engine :=
    fun _ input orderly => orderly.next input
  have orderly := run_invariant kept inputs (allOrderly_start policies now)
  refine ⟨orderly, fun stopped later => ?_⟩
  generalize run next (start policies now) inputs = history at orderly stopped
  have silent : ∀ state input, AllOrderly state.engine ∧ Silent history state →
      AllOrderly (next state input).engine ∧ Silent history (next state input) := by
    intro state input before
    obtain ⟨orderly, same, stopped⟩ := before
    have last := Silent.next orderly stopped input
    exact ⟨orderly.next input, last.1.trans same, last.2⟩
  have after := run_invariant silent later ⟨orderly, rfl, stopped⟩
  obtain ⟨orderly, same, stopped⟩ := after
  refine ⟨same, List.flatMap_eq_nil_iff.mpr fun lane among => ?_⟩
  obtain ⟨severity, found⟩ := Map.mem_values_iff.mp among
  exact ((orderly severity lane found).silent stopped).1

-----------------------------------------------------------------------------------------
-- What a window delivers
-----------------------------------------------------------------------------------------

/-- How many notifications of a severity were delivered so far. -/
def delivered (history : ThrottleHistory) (severity : NotificationSeverity) : Nat :=
  history.fates.countP fun entry => entry.1.severity = severity ∧ entry.2 = .delivered

/-- A lane stays in its window and counts what is delivered, or its window is a later one. -/
structure Passage (severity : NotificationSeverity) (history later : ThrottleHistory) : Prop where
  lane : ∀ lane, history.engine.lanes.get severity = some lane →
    ∃ lane', later.engine.lanes.get severity = some lane'
      ∧ lane'.policy = lane.policy ∧ lane.state.windowStart ≤ lane'.state.windowStart
      ∧ (lane.state.windowStart = lane'.state.windowStart →
        lane'.state.count + history.delivered severity
          = lane.state.count + later.delivered severity)

theorem Passage.trans {first second third : ThrottleHistory}
    (before : Passage severity first second) (after : Passage severity second third)
    : Passage severity first third where
  lane lane found := by
    obtain ⟨middle, isMiddle, policy, earlier, counts⟩ := before.lane lane found
    obtain ⟨last, isLast, policy', earlier', counts'⟩ := after.lane middle isMiddle
    refine ⟨last, isLast, policy'.trans policy, earlier.trans earlier', fun same => ?_⟩
    have first := counts (by omega)
    have second := counts' (by omega)
    omega

/-- Where nothing is delivered, and the lane keeps its window and its count. -/
theorem Passage.of_same {later : ThrottleHistory}
    (delivers : later.delivered severity = history.delivered severity)
    (lanes : ∀ lane, history.engine.lanes.get severity = some lane →
      ∃ state, later.engine.lanes.get severity = some { lane with state }
        ∧ state.windowStart = lane.state.windowStart ∧ state.count = lane.state.count)
    : Passage severity history later where
  lane lane found := by
    obtain ⟨state, isLane, window, count⟩ := lanes lane found
    exact ⟨_, isLane, rfl, window.ge, fun _ => by rw [count, delivers]⟩

theorem Passage.refl : Passage severity history history :=
  .of_same rfl fun lane found => ⟨lane.state, found, rfl, rfl⟩

/-- A fate other than a delivery delivers nothing. -/
theorem delivered_append {fates : List (NotificationPayload × Fate)}
    {notifications : List NotificationPayload} {fate : Fate} (other : fate ≠ .delivered)
    : (fates ++ notifications.map fun notification => (notification, fate)).countP
        (fun entry => entry.1.severity = severity ∧ entry.2 = .delivered)
      = fates.countP fun entry => entry.1.severity = severity ∧ entry.2 = .delivered := by
  rw [List.countP_append, Nat.add_eq_left, List.countP_eq_zero]
  intro entry among
  obtain ⟨notification, -, rfl⟩ := List.mem_map.mp among
  simp [other]

/-- A delivery counts for the severity of its notifications. -/
theorem delivered_append_delivered (severity : NotificationSeverity)
    (fates : List (NotificationPayload × Fate)) {notifications : List NotificationPayload}
    {own : NotificationSeverity}
    (all : ∀ notification ∈ notifications, notification.severity = own)
    : (fates ++ notifications.map fun notification => (notification, Fate.delivered)).countP
        (fun entry => entry.1.severity = severity ∧ entry.2 = .delivered)
      = (fates.countP fun entry => entry.1.severity = severity ∧ entry.2 = .delivered)
        + if severity = own then notifications.length else 0 := by
  rw [List.countP_append, List.countP_map, Nat.add_left_cancel_iff]
  split
  · next same =>
      refine List.countP_eq_length.mpr fun notification among => ?_
      simp [all notification among, same]
  · next differs =>
      refine List.countP_eq_zero.mpr fun notification among => ?_
      simp [all notification among, Ne.symm differs]

theorem Passage.flush (target : NotificationSeverity) (sweep : Option (List NotificationSeverity))
    : Passage severity history (history.flush target sweep) := by
  refine .of_same ?_ fun lane found => ?_
  · rcases history.flush_cases target sweep with
      ⟨sweeps, result, -⟩ | ⟨lane, found, -, result, -⟩
    · rw [result]
      rfl
    · rw [result]
      exact delivered_append (by simp)
  · rw [engine_flush]
    by_cases same : severity = target
    · subst same
      rw [ThrottleEngine.get_clear_self, found]
      exact ⟨_, rfl, rfl, rfl⟩
    · rw [ThrottleEngine.get_clear_of_ne same, found]
      exact ⟨_, rfl, rfl, rfl⟩

/-- A write of a lane that keeps its count or starts a later window. -/
theorem Passage.setState {target : NotificationSeverity}
    (found : history.engine.lanes.get target = some lane) {state : ThrottleState}
    (later : lane.state.windowStart < state.windowStart
      ∨ state.windowStart = lane.state.windowStart ∧ state.count = lane.state.count)
    : Passage severity history
        { history with engine := history.engine.setState lane target state } where
  lane held isHeld := by
    by_cases same : severity = target
    · subst same
      obtain rfl : lane = held := Option.some.inj (found.symm.trans isHeld)
      refine ⟨_, ThrottleEngine.get_setState_self _, rfl, ?_⟩
      change lane.state.windowStart ≤ state.windowStart
        ∧ (lane.state.windowStart = state.windowStart →
          state.count + history.delivered severity
            = lane.state.count + history.delivered severity)
      omega
    · refine ⟨held, ?_, rfl, le_refl _, fun _ => rfl⟩
      exact (ThrottleEngine.get_setState_of_ne same _).trans isHeld

/-- The window of a submission is the same one or starts later. -/
theorem windowStart_refresh (state : ThrottleState) (now : Int)
    : state.windowStart < (state.refresh now).windowStart
      ∨ (state.refresh now).windowStart = state.windowStart
        ∧ (state.refresh now).count = state.count := by
  unfold ThrottleState.refresh
  split
  · next expired =>
      refine .inl ?_
      change state.windowStart < now
      unfold ThrottleState.hourWindow at expired
      omega
  · exact .inr ⟨rfl, rfl⟩

theorem Passage.submit (notification : NotificationPayload) (now : Int)
    : Passage severity history (history.submit notification now) := by
  have submission := history.submission notification now
  generalize history.submit notification now = after at submission
  cases submission with
  | stopped => exact .of_same (delivered_append (by simp)) fun lane found => ⟨_, found, rfl, rfl⟩
  | noPolicy => exact .of_same (delivered_append (by simp)) fun lane found => ⟨_, found, rfl, rfl⟩
  | critical => exact .of_same rfl fun lane found => ⟨_, found, rfl, rfl⟩
  | limited lane found =>
      refine (Passage.setState found (windowStart_refresh _ now)).trans ?_
      exact .of_same (delivered_append (by simp)) fun lane found => ⟨_, found, rfl, rfl⟩
  | immediate lane _ found =>
      refine Passage.trans (.setState found ?_) (.flush _ _)
      exact windowStart_refresh lane.state now
  | scheduled lane _ found => exact .setState found (windowStart_refresh _ now)

theorem Passage.timerFires (target : NotificationSeverity)
    : Passage severity history (history.timerFires target) := by
  unfold ThrottleHistory.timerFires
  split
  · exact .refl
  · next lane found =>
      split
      · refine Passage.trans (.setState found ?_) (.flush _ _)
        exact .inr ⟨rfl, rfl⟩
      · exact .refl

theorem Passage.sweepOn (severities : List NotificationSeverity)
    : Passage severity history (history.sweepOn severities) := by
  cases severities with
  | nil => exact .refl
  | cons target rest => exact .flush target _

/-- A call of `onSend` that succeeds is counted in its lane. -/
theorem Passage.settle (accounts : Accounts [] history) (index : Nat) (error : Option String)
    (now : Int) : Passage severity history (history.settle index error now) := by
  have ending := history.ending index error now
  generalize history.settle index error now = after at ending
  cases ending with
  | absent => exact .refl
  | delivered delivery found =>
      have own := accounts.ownDelivery delivery (List.mem_of_getElem? found)
      have counted := delivered_append_delivered severity history.fates own
      refine ⟨fun lane isLane => ?_⟩
      have sent := history.engine.get_sent delivery.severity delivery.notifications.length now
        severity
      rw [isLane, Option.map_some] at sent
      refine ⟨_, sent, ?_⟩
      rw [ThrottleHistory.delivered, ThrottleHistory.delivered, counted]
      by_cases same : severity = delivery.severity
      · rw [if_pos same, if_pos same]
        refine ⟨rfl, le_refl _, fun _ => ?_⟩
        change lane.state.count + delivery.notifications.length + _ = _
        omega
      · rw [if_neg same, if_neg same]
        exact ⟨rfl, le_refl _, fun _ => rfl⟩
  | lost delivery fate found other =>
      exact .of_same (delivered_append other) fun lane found => ⟨_, found, rfl, rfl⟩

theorem Passage.next (accounts : Accounts [] history) (input : ThrottleInput)
    : Passage severity history (history.next input) := by
  cases input with
  | submit notification now =>
      have submitted : Passage severity history
          { history with submitted := history.submitted ++ [notification] } :=
        .of_same rfl fun lane found => ⟨_, found, rfl, rfl⟩
      exact submitted.trans (.submit notification now)
  | timerFires target => exact .timerFires target
  | flushAll => exact .sweepOn _
  | resume index =>
      change Passage severity history (history.resume index)
      unfold resume
      split
      · exact .refl
      · have taken : Passage severity history
            { history with sweeps := history.sweeps.eraseIdx index } :=
          .of_same rfl fun lane found => ⟨_, found, rfl, rfl⟩
        exact taken.trans (.sweepOn _)
  | settle index error now => exact .settle accounts index error now
  | stop =>
      refine .of_same (delivered_append (by simp)) fun lane found => ?_
      change ∃ state, (Map.mapValues _ _).get severity = some { lane with state } ∧ _
      rw [Map.get_mapValues, found]
      exact ⟨_, rfl, rfl, rfl⟩

/-- How many notifications of a severity are on their way. -/
def onTheWay (deliveries : List SendCall) (severity : NotificationSeverity) : Nat :=
  (deliveries.map fun delivery =>
    if delivery.severity = severity then delivery.notifications.length else 0).sum

/-- A lane stays within its hourly limit, what waits and what is on its way included. -/
def Within (severity : NotificationSeverity) (engine : ThrottleEngine)
    (deliveries : List SendCall) : Prop :=
  ∀ lane, engine.lanes.get severity = some lane →
    ∀ limit : Nat, lane.policy.maxPerHour ≤ .finite limit →
      lane.state.count + lane.state.pending.length + onTheWay deliveries severity ≤ limit

/-- No batch of the severity is on its way when a notification of it is submitted. -/
def Serial (severity : NotificationSeverity) (history : ThrottleHistory) : ThrottleInput → Prop
  | .submit notification _ => notification.severity = severity →
      ∀ delivery ∈ history.deliveries, delivery.severity ≠ severity
  | _ => True

instance (severity : NotificationSeverity) (history : ThrottleHistory) (input : ThrottleInput)
    : Decidable (Serial severity history input) :=
  match input with
  | .submit notification _ => inferInstanceAs (Decidable (notification.severity = severity →
      ∀ delivery ∈ history.deliveries, delivery.severity ≠ severity))
  | .timerFires _ | .flushAll | .resume _ | .settle _ _ _ | .stop => .isTrue trivial

variable {engine : ThrottleEngine} {deliveries : List SendCall}

/-- A write of a lane that leaves room. -/
theorem Within.setState (within : Within severity engine deliveries)
    {target : NotificationSeverity} {state : ThrottleState}
    (room : severity = target → ∀ limit : Nat, lane.policy.maxPerHour ≤ .finite limit →
      state.count + state.pending.length + onTheWay deliveries severity ≤ limit)
    : Within severity (engine.setState lane target state) deliveries := by
  intro held isHeld
  by_cases same : severity = target
  · subst same
    rw [ThrottleEngine.get_setState_self] at isHeld
    cases isHeld
    exact room rfl
  · rw [ThrottleEngine.get_setState_of_ne same] at isHeld
    exact within held isHeld

theorem onTheWay_concat (delivery : SendCall)
    : onTheWay (deliveries ++ [delivery]) severity
      = onTheWay deliveries severity
        + if delivery.severity = severity then delivery.notifications.length else 0 := by
  simp [onTheWay]

/-- What is sent of a batch is no longer than it. -/
theorem length_toSend_le (policy : ThrottlePolicy) (batch : List NotificationPayload)
    : (policy.toSend batch).1.length ≤ batch.length := by
  have parts : ((policy.toSend batch).1 ++ (policy.toSend batch).2).Perm batch := by
    refine List.perm_iff_count.mpr fun item => ?_
    rw [List.count_append, policy.count_toSend]
  rw [← parts.length_eq, List.length_append]
  exact Nat.le_add_right _ _

/-- A flush moves what waits on its way. -/
theorem Within.flush (within : Within severity history.engine history.deliveries)
    (target : NotificationSeverity) (sweep : Option (List NotificationSeverity))
    : Within severity (history.flush target sweep).engine
        (history.flush target sweep).deliveries := by
  rcases history.flush_cases target sweep with
    ⟨sweeps, result, -⟩ | ⟨lane, found, -, result, -⟩
  · rw [result]
    exact within
  · rw [result]
    have shorter := length_toSend_le lane.policy lane.state.pending
    intro held isHeld limit reached
    rw [onTheWay_concat]
    by_cases same : severity = target
    · subst same
      rw [ThrottleEngine.get_setState_self] at isHeld
      cases isHeld
      have before := within lane found limit reached
      rw [if_pos rfl]
      change lane.state.count + 0 + (onTheWay history.deliveries severity
        + (lane.policy.toSend lane.state.pending).1.length) ≤ limit
      omega
    · rw [ThrottleEngine.get_setState_of_ne same] at isHeld
      rw [if_neg (Ne.symm same)]
      exact within held isHeld limit reached

/-- Nothing of a severity is on its way where no delivery has it. -/
theorem onTheWay_eq_zero (none : ∀ delivery ∈ deliveries, delivery.severity ≠ severity)
    : onTheWay deliveries severity = 0 := by
  refine List.sum_eq_zero fun number among => ?_
  obtain ⟨delivery, isDelivery, rfl⟩ := List.mem_map.mp among
  exact if_neg (none delivery isDelivery)

theorem count_refresh_le (state : ThrottleState) (now : Int)
    : (state.refresh now).count ≤ state.count := by
  unfold ThrottleState.refresh
  split
  · exact Nat.zero_le _
  · exact le_refl _

/-- A submission that is let in finds room, if nothing of its severity is on its way. -/
theorem Within.submit (within : Within severity history.engine history.deliveries)
    (other : severity ≠ .critical) {notification : NotificationPayload} {now : Int}
    (serial : notification.severity = severity →
      ∀ delivery ∈ history.deliveries, delivery.severity ≠ severity)
    : Within severity (history.submit notification now).engine
        (history.submit notification now).deliveries := by
  have queued : ∀ {lane : Lane} {state : ThrottleState},
      (lane.state.refresh now).allows lane.policy now = true →
      state.count = (lane.state.refresh now).count →
      state.pending = lane.state.pending ++ [notification] →
      Within severity (history.engine.setState lane notification.severity state)
        history.deliveries := by
    intro lane state allowed count pending
    refine within.setState fun same limit reached => ?_
    have below := (lt_of_allows allowed limit).2 reached
    rw [pending_refresh] at below
    rw [onTheWay_eq_zero (serial same.symm), count, pending, List.length_append,
      List.length_singleton]
    omega
  have submission := history.submission notification now
  generalize history.submit notification now = after at submission
  cases submission with
  | stopped => exact within
  | noPolicy => exact within
  | critical =>
      intro held isHeld limit reached
      change _ + onTheWay (history.deliveries ++ [_]) severity ≤ limit
      rw [onTheWay_concat, if_neg (Ne.symm other)]
      exact within held isHeld limit reached
  | limited lane found =>
      refine within.setState fun same limit reached => ?_
      have before := within lane (same ▸ found) limit reached
      have fewer := count_refresh_le lane.state now
      rw [pending_refresh]
      omega
  | immediate lane _ found _ allowed =>
      refine Within.flush ?_ _ _
      exact queued allowed rfl rfl
  | scheduled lane _ found _ allowed => exact queued allowed rfl rfl

/-- What has ended is not on its way. -/
theorem onTheWay_eraseIdx (severity : NotificationSeverity) {index : Nat} {delivery : SendCall}
    (found : deliveries[index]? = some delivery)
    : onTheWay (deliveries.eraseIdx index) severity
        + (if delivery.severity = severity then delivery.notifications.length else 0)
      = onTheWay deliveries severity := by
  obtain ⟨before, after, whole, -, erased⟩ := exists_around found delivery
  rw [erased, whole]
  simp only [onTheWay, List.map_append, List.map_cons, List.sum_append, List.sum_cons]
  omega

theorem Within.settle (within : Within severity history.engine history.deliveries) (index : Nat)
    (error : Option String) (now : Int)
    : Within severity (history.settle index error now).engine
        (history.settle index error now).deliveries := by
  have ending := history.ending index error now
  generalize history.settle index error now = after at ending
  cases ending with
  | absent => exact within
  | delivered delivery found =>
      intro held isHeld limit reached
      have ended := onTheWay_eraseIdx severity found
      rw [ThrottleEngine.get_sent, Option.map_eq_some_iff] at isHeld
      obtain ⟨lane, isLane, rfl⟩ := isHeld
      by_cases same : severity = delivery.severity
      · rw [if_pos same] at reached ⊢
        rw [if_pos same.symm] at ended
        have before := within lane isLane limit reached
        change lane.state.count + delivery.notifications.length + lane.state.pending.length
          + onTheWay (history.deliveries.eraseIdx index) severity ≤ limit
        omega
      · rw [if_neg same] at reached ⊢
        rw [if_neg (Ne.symm same)] at ended
        have before := within lane isLane limit reached
        change _ + onTheWay (history.deliveries.eraseIdx index) severity ≤ limit
        omega
  | lost delivery fate found =>
      intro held isHeld limit reached
      have ended := onTheWay_eraseIdx severity found
      have before := within held isHeld limit reached
      change _ + onTheWay (history.deliveries.eraseIdx index) severity ≤ limit
      omega

/-- A run in which the notifications of a severity do not overlap its batches keeps its lane within
the limit.
-/
theorem Within.next (within : Within severity history.engine history.deliveries)
    (other : severity ≠ .critical) (input : ThrottleInput) (serial : Serial severity history input)
    : Within severity (history.next input).engine (history.next input).deliveries := by
  cases input with
  | submit notification now =>
      have submitted : Within severity
          { history with submitted := history.submitted ++ [notification] }.engine
          { history with submitted := history.submitted ++ [notification] }.deliveries :=
        within
      exact submitted.submit other serial
  | timerFires target =>
      change Within severity (history.timerFires target).engine
        (history.timerFires target).deliveries
      unfold timerFires
      split
      · exact within
      · next lane found =>
          split
          · refine Within.flush ?_ _ _
            exact within.setState fun same => within lane (same ▸ found)
          · exact within
  | flushAll => exact sweepOn within _
  | resume index =>
      change Within severity (history.resume index).engine (history.resume index).deliveries
      unfold resume
      split
      · exact within
      · have taken : Within severity
            { history with sweeps := history.sweeps.eraseIdx index }.engine
            { history with sweeps := history.sweeps.eraseIdx index }.deliveries :=
          within
        exact sweepOn taken _
  | settle index error now => exact within.settle index error now
  | stop =>
      intro held isHeld limit reached
      change (Map.mapValues _ _).get severity = some held at isHeld
      rw [Map.get_mapValues, Option.map_eq_some_iff] at isHeld
      obtain ⟨lane, isLane, rfl⟩ := isHeld
      have before := within lane isLane limit reached
      change lane.state.count + 0 + onTheWay history.deliveries severity ≤ limit
      omega
where
  sweepOn {history : ThrottleHistory}
      (within : Within severity history.engine history.deliveries)
      (severities : List NotificationSeverity)
      : Within severity (history.sweepOn severities).engine
          (history.sweepOn severities).deliveries := by
    cases severities with
    | nil => exact within
    | cons target rest => exact within.flush target _

/-- What holds along a run in which batches do not overlap submissions: from a moment of it on, a
lane stays in its window and counts what is delivered, or its window is a later one.
-/
structure Metered (severity : NotificationSeverity) (moment later : ThrottleHistory) : Prop where
  accounts : Accounts [] later
  within : Within severity later.engine later.deliveries
  passage : Passage severity moment later

theorem Metered.next {moment : ThrottleHistory} (metered : Metered severity moment history)
    (other : severity ≠ .critical) (input : ThrottleInput) (serial : Serial severity history input)
    : Metered severity moment (history.next input) where
  accounts := metered.accounts.next input
  within := metered.within.next other input serial
  passage := metered.passage.trans (.next metered.accounts input)

theorem Metered.of_run {moment : ThrottleHistory} (metered : Metered severity moment history)
    (other : severity ≠ .critical) {inputs : List ThrottleInput}
    (serial : Always ThrottleHistory.next (Serial severity) history inputs)
    : Metered severity moment (run ThrottleHistory.next history inputs) := by
  have kept : ∀ state input, Metered severity moment state → Serial severity state input →
      Metered severity moment (ThrottleHistory.next state input) :=
    fun _ input metered serial => metered.next other input serial
  exact serial.invariant kept metered

/-- Of the notifications of a severity other than the critical one, no more are delivered between
two moments of one window than the hourly limit allows, if none of them is submitted while a batch
is on its way.
-/
theorem window_delivers_within_limit (policies : List ThrottlePolicy) (now : Int)
    {severity : NotificationSeverity} (other : severity ≠ .critical)
    {before after : List ThrottleInput}
    (serial : Always next (Serial severity) (start policies now) (before ++ after))
    {lane lane' : Lane}
    (found : (run next (start policies now) before).engine.lanes.get severity = some lane)
    (found' : (run next (start policies now) (before ++ after)).engine.lanes.get severity
      = some lane')
    (same : lane.state.windowStart = lane'.state.windowStart) {limit : Nat}
    (reached : lane.policy.maxPerHour ≤ .finite limit)
    : (run next (start policies now) (before ++ after)).delivered severity
      ≤ (run next (start policies now) before).delivered severity + limit := by
  obtain ⟨serialBefore, serialAfter⟩ := always_append.mp serial
  have initial : Metered severity (start policies now) (start policies now) := by
    refine ⟨.start policies now, fun lane isLane limit _ => ?_, .refl⟩
    rw [get_create policies now isLane]
    exact Nat.zero_le _
  have moment := initial.of_run other serialBefore
  have later := (Metered.mk moment.accounts moment.within .refl).of_run other serialAfter
  rw [run, List.foldl_append] at found' ⊢
  obtain ⟨held, isHeld, policy, -, counts⟩ := later.passage.lane lane found
  obtain rfl : held = lane' := Option.some.inj (isHeld.symm.trans found')
  rw [← policy] at reached
  have most := later.within held isHeld limit reached
  have counted := counts same
  change (run next (run next _ before) after).delivered severity
    ≤ (run next _ before).delivered severity + limit
  omega

/-- Five informational notifications and a sixth one that is dropped, of one window. -/
def infoBurst : List ThrottleInput :=
  (List.range 6).map fun number =>
    .submit
      {
        id := number.repr
        severity := .info
        category := .system
        title := number.repr
        message := ""
        timestamp := ""
      }
      1000

theorem window_delivers_info_burst
    : (run next (start defaultThrottlePolicies 0)
        ([] ++ (infoBurst ++ [.timerFires .info, .settle 0 none 31000]))).delivered .info
      ≤ (run next (start defaultThrottlePolicies 0) []).delivered .info + 100 :=
  window_delivers_within_limit defaultThrottlePolicies 0 (by decide) (by decide +kernel)
    (Option.some_get (by decide +kernel)).symm (Option.some_get (by decide +kernel)).symm
    (by decide +kernel) (by decide +kernel)

end ThrottleHistory

end CrashWave.Telegram
