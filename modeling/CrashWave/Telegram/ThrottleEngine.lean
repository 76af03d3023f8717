import CrashWave.JavaScript.Map
import CrashWave.JavaScript.Number

/-! The throttle engine of the notifications: what is submitted waits in the lane of its severity
until a timer or a flush hands the lane over to `onSend`. How long that takes and how it ends is
not the engine's to say, and calls of the engine may come in between.
-/

namespace CrashWave.Telegram

open JavaScript

inductive NotificationSeverity where
  | critical
  | warning
  | info
  | debug
  deriving DecidableEq

inductive NotificationCategory where
  | win
  | loss
  | error
  | health
  | milestone
  | system
  | config
  deriving DecidableEq

/-- The category as it is written into a key. -/
def NotificationCategory.text : NotificationCategory → String
  | .win => "win"
  | .loss => "loss"
  | .error => "error"
  | .health => "health"
  | .milestone => "milestone"
  | .system => "system"
  | .config => "config"

structure NotificationPayload where
  id : String
  severity : NotificationSeverity
  category : NotificationCategory
  title : String
  message : String
  timestamp : String
  deriving DecidableEq

structure ThrottlePolicy where
  severity : NotificationSeverity
  maxPerMinute : Number
  maxPerHour : Number
  debounceMs : Number
  batchWindowMs : Number
  dropDuplicates : Bool

/-- `timer` says whether one is scheduled. -/
structure ThrottleState where
  count : Nat := 0
  windowStart : Int
  lastSent : Int := 0
  pending : List NotificationPayload := []
  timer : Bool := false

/-- A policy with the state that belongs to it: the source keeps them in two maps, which have the
same keys.
-/
structure Lane where
  policy : ThrottlePolicy
  state : ThrottleState

def defaultThrottlePolicies : List ThrottlePolicy :=
  [
    {
      severity := .critical
      maxPerMinute := 60
      maxPerHour := 1000
      debounceMs := 0
      batchWindowMs := 0
      dropDuplicates := false
    },
    {
      severity := .warning
      maxPerMinute := 10
      maxPerHour := 200
      debounceMs := 5000
      batchWindowMs := 15000
      dropDuplicates := true
    },
    {
      severity := .info
      maxPerMinute := 5
      maxPerHour := 100
      debounceMs := 10000
      batchWindowMs := 30000
      dropDuplicates := true
    },
    {
      severity := .debug
      maxPerMinute := 0
      maxPerHour := 0
      debounceMs := 30000
      batchWindowMs := 60000
      dropDuplicates := true
    }
  ]

-----------------------------------------------------------------------------------------
-- One lane
-----------------------------------------------------------------------------------------

/-- The key under which notifications count as the same. -/
def NotificationPayload.key (notification : NotificationPayload) : String :=
  notification.category.text ++ ":" ++ notification.title ++ ":" ++ notification.message

/-- The first notification of every key that is not in `seen`, and the ones that are left out. -/
def deduplicateFrom (seen : List String)
    : List NotificationPayload → List NotificationPayload × List NotificationPayload
  | [] => ([], [])
  | notification :: rest =>
      if notification.key ∈ seen then
        let (result, skipped) := deduplicateFrom seen rest
        (result, notification :: skipped)
      else
        let (result, skipped) := deduplicateFrom (notification.key :: seen) rest
        (notification :: result, skipped)

def deduplicate (notifications : List NotificationPayload)
    : List NotificationPayload × List NotificationPayload :=
  deduplicateFrom [] notifications

/-- Every notification is kept or left out, by induction on them. -/
theorem count_deduplicateFrom (seen : List String) (notifications : List NotificationPayload)
    (item : NotificationPayload)
    : (deduplicateFrom seen notifications).1.count item
        + (deduplicateFrom seen notifications).2.count item
      = notifications.count item := by
  induction notifications generalizing seen with
  | nil => rfl
  | cons notification rest ih =>
      rw [deduplicateFrom]
      split
      · have rest' := ih seen
        simp only [List.count_cons]
        omega
      · have rest' := ih (notification.key :: seen)
        simp only [List.count_cons]
        omega

/-- One that is left out has a key that is seen or kept, by induction on them. -/
theorem key_of_mem_skipped {seen : List String} {notifications : List NotificationPayload}
    {item : NotificationPayload} (skipped : item ∈ (deduplicateFrom seen notifications).2)
    : item.key ∈ seen
      ∨ ∃ kept ∈ (deduplicateFrom seen notifications).1, kept.key = item.key := by
  induction notifications generalizing seen with
  | nil => cases skipped
  | cons notification rest ih =>
      rw [deduplicateFrom] at skipped ⊢
      split at skipped
      · next old =>
          rw [if_pos old]
          rcases List.mem_cons.mp skipped with rfl | later
          · exact .inl old
          · exact ih later
      · next new =>
          rw [if_neg new]
          rcases ih skipped with known | ⟨kept, among, same⟩
          · rcases List.mem_cons.mp known with same | before
            · exact .inr ⟨notification, List.mem_cons_self, same.symm⟩
            · exact .inl before
          · exact .inr ⟨kept, List.mem_cons_of_mem _ among, same⟩

namespace ThrottleState

def approximateMinuteCount (state : ThrottleState) (now : Int) : Int :=
  if now - 60000 < state.lastSent then
    min state.count ⌈(state.count * 60000 : ℚ) / (max (now - state.windowStart) 60000 : Int)⌉
  else 0

def hourWindow : Int := 3600000

/-- The window is started again where it has expired. -/
def refresh (state : ThrottleState) (now : Int) : ThrottleState :=
  if hourWindow < now - state.windowStart then { state with count := 0, windowStart := now }
  else state

/-- What is decided once the window is the current one. -/
def allows (state : ThrottleState) (policy : ThrottlePolicy) (now : Int) : Bool :=
  let minuteCount := state.approximateMinuteCount now + state.pending.length
  let totalInFlight := state.count + state.pending.length
  if policy.maxPerMinute ≤ .finite minuteCount then false
  else if policy.maxPerHour ≤ .finite totalInFlight then false
  else true

def checkRateLimit (state : ThrottleState) (policy : ThrottlePolicy) (now : Int)
    : ThrottleState × Bool :=
  let current := state.refresh now
  (current, current.allows policy now)

def sent (state : ThrottleState) (number : Nat) (now : Int) : ThrottleState :=
  { state with count := state.count + number, lastSent := now }

end ThrottleState

/-- What is sent of a batch, and what is left out. -/
def ThrottlePolicy.toSend (policy : ThrottlePolicy) (batch : List NotificationPayload)
    : List NotificationPayload × List NotificationPayload :=
  if policy.dropDuplicates then deduplicate batch else (batch, [])

/-- Nothing of a batch is lost. -/
theorem ThrottlePolicy.count_toSend (policy : ThrottlePolicy) (batch : List NotificationPayload)
    (item : NotificationPayload)
    : (policy.toSend batch).1.count item + (policy.toSend batch).2.count item
      = batch.count item := by
  unfold ThrottlePolicy.toSend
  split
  · exact count_deduplicateFrom [] batch item
  · rfl

/-- For one that is left out another one with its key is sent. -/
theorem ThrottlePolicy.key_of_mem_skipped {policy : ThrottlePolicy}
    {batch : List NotificationPayload} {item : NotificationPayload}
    (skipped : item ∈ (policy.toSend batch).2)
    : ∃ kept ∈ (policy.toSend batch).1, kept.key = item.key := by
  unfold ThrottlePolicy.toSend at skipped ⊢
  split at skipped
  · next drops =>
      rw [if_pos drops]
      exact (Telegram.key_of_mem_skipped skipped).resolve_left List.not_mem_nil
  · cases skipped

/-- Nothing is added to a batch. -/
theorem ThrottlePolicy.mem_of_mem_toSend (policy : ThrottlePolicy)
    {batch : List NotificationPayload} {item : NotificationPayload}
    (member : item ∈ (policy.toSend batch).1 ∨ item ∈ (policy.toSend batch).2)
    : item ∈ batch := by
  rw [← List.count_pos_iff, ← policy.count_toSend]
  rcases member with kept | skipped
  · exact Nat.add_pos_left (List.count_pos_iff.mpr kept) _
  · exact Nat.add_pos_right _ (List.count_pos_iff.mpr skipped)

/-- Something of a batch is sent. -/
theorem ThrottlePolicy.toSend_ne_nil (policy : ThrottlePolicy)
    {batch : List NotificationPayload} (filled : batch ≠ [])
    : (policy.toSend batch).1 ≠ [] := by
  intro none
  obtain ⟨first, among⟩ := List.exists_mem_of_ne_nil batch filled
  have counted := policy.count_toSend batch first
  rw [none, List.count_nil, Nat.zero_add] at counted
  have present : 0 < (policy.toSend batch).2.count first := by
    rw [counted]
    exact List.count_pos_iff.mpr among
  obtain ⟨kept, sent, -⟩ := ThrottlePolicy.key_of_mem_skipped (List.count_pos_iff.mp present)
  rw [none] at sent
  cases sent

/-- Whether a submitted notification is handed over without a timer. -/
def ThrottlePolicy.isImmediate (policy : ThrottlePolicy) : Prop :=
  policy.debounceMs = 0 ∧ policy.batchWindowMs = 0

instance (policy : ThrottlePolicy) : Decidable policy.isImmediate :=
  inferInstanceAs (Decidable (_ ∧ _))

-----------------------------------------------------------------------------------------
-- The engine
-----------------------------------------------------------------------------------------

structure ThrottleEngine where
  lanes : Map NotificationSeverity Lane
  stopped : Bool := false

/-- A call of `onSend` that has not ended. -/
structure SendCall where
  severity : NotificationSeverity
  notifications : List NotificationPayload
  /-- Whether the call is the one of `deliverImmediate`. -/
  immediate : Bool
  /-- The severities that a `flushAll` flushes once the call has ended, if one waits for it. -/
  sweep : Option (List NotificationSeverity)

/-- What `onSend` was called with, and what was left out of the same batch as duplicates. -/
structure SentBatch where
  sent : List NotificationPayload
  skipped : List NotificationPayload

/-- What becomes of a notification: `onDrop` gets the reason, and the caller of `submit` the error;
nobody hears of one that is left out as a duplicate.
-/
inductive Fate where
  | delivered
  | dropped (reason : String)
  | duplicate
  | failed (error : String)
  deriving DecidableEq

/-- The engine with its calls of `onSend`, the calls of `flushAll` that are between two severities,
what was submitted so far, the batches of all calls of `onSend`, and what has become of it all.
-/
structure ThrottleHistory where
  engine : ThrottleEngine
  deliveries : List SendCall := []
  sweeps : List (List NotificationSeverity) := []
  submitted : List NotificationPayload := []
  batches : List SentBatch := []
  fates : List (NotificationPayload × Fate) := []

/-- What happens to the engine. `onSend` calls end at any later time, with nothing or an error, in
any order.
-/
inductive ThrottleInput where
  | submit (notification : NotificationPayload) (now : Int)
  | timerFires (severity : NotificationSeverity)
  | flushAll
  | resume (index : Nat)
  | settle (index : Nat) (error : Option String) (now : Int)
  | stop

namespace ThrottleEngine

/-- `new ThrottleEngine({ policies })`. -/
def create (policies : List ThrottlePolicy) (now : Int) : ThrottleEngine where
  lanes := policies.foldl
    (fun lanes policy => lanes.set policy.severity { policy, state := { windowStart := now } }) ∅

/-- A write of one lane's state. -/
def setState (engine : ThrottleEngine) (lane : Lane) (severity : NotificationSeverity)
    (state : ThrottleState) : ThrottleEngine :=
  { engine with lanes := engine.lanes.set severity { lane with state } }

/-- What a call of `onSend` for a lane leaves when it succeeds. -/
def sent (engine : ThrottleEngine) (severity : NotificationSeverity) (number : Nat) (now : Int)
    : ThrottleEngine :=
  match engine.lanes.get severity with
  | none => engine
  | some lane => engine.setState lane severity (lane.state.sent number now)

/-- Everything that waits, lane by lane. -/
def pending (engine : ThrottleEngine) : List NotificationPayload :=
  engine.lanes.values.flatMap fun lane => lane.state.pending

def getPendingCounts (engine : ThrottleEngine) : List (NotificationSeverity × Nat) :=
  engine.lanes.entries.map fun entry => (entry.1, entry.2.state.pending.length)

end ThrottleEngine

namespace ThrottleHistory

def start (policies : List ThrottlePolicy) (now : Int) : ThrottleHistory where
  engine := .create policies now

/-- `onDrop`. -/
def drop (history : ThrottleHistory) (notifications : List NotificationPayload)
    (reason : String) : ThrottleHistory :=
  { history with
    fates := history.fates
      ++ notifications.map fun notification => (notification, .dropped reason) }

/-- `onSend` is called, for a batch of which these notifications were left out. -/
def handOver (history : ThrottleHistory) (delivery : SendCall)
    (skipped : List NotificationPayload) : ThrottleHistory :=
  { history with
    deliveries := history.deliveries ++ [delivery]
    batches := history.batches ++ [{ sent := delivery.notifications, skipped }] }

/-- What was handed over to `onSend`. -/
def handedOver (history : ThrottleHistory) : List NotificationPayload :=
  history.batches.flatMap (·.sent)

/-- A `flushAll` that does not wait for `onSend` goes on at a later time. -/
def waitTurn (history : ThrottleHistory) (sweep : Option (List NotificationSeverity))
    : ThrottleHistory :=
  { history with sweeps := history.sweeps ++ sweep.toList }

/-- `flush` up to its call of `onSend`. -/
def flush (history : ThrottleHistory) (severity : NotificationSeverity)
    (sweep : Option (List NotificationSeverity)) : ThrottleHistory :=
  match history.engine.lanes.get severity with
  | none => history
  | some lane =>
      if lane.state.pending = [] then history.waitTurn sweep
      else
        let (toSend, skipped) := lane.policy.toSend lane.state.pending
        let emptied : ThrottleHistory :=
          { history with
            engine := history.engine.setState lane severity { lane.state with pending := [] }
            fates := history.fates ++ skipped.map fun notification => (notification, .duplicate) }
        if toSend = [] then emptied.waitTurn sweep
        else
          emptied.handOver { severity, notifications := toSend, immediate := false, sweep } skipped

/-- `scheduleFlush`: a timer that is scheduled already stays. -/
def scheduleFlush (history : ThrottleHistory) (lane : Lane) (severity : NotificationSeverity)
    : ThrottleHistory :=
  if lane.state.timer then history
  else
    { history with
      engine := history.engine.setState lane severity { lane.state with timer := true } }

/-- `submit` up to its call of `onSend`. -/
def submit (history : ThrottleHistory) (notification : NotificationPayload) (now : Int)
    : ThrottleHistory :=
  if history.engine.stopped then history.drop [notification] "engine_stopped"
  else
    match history.engine.lanes.get notification.severity with
    | none => history.drop [notification] "no_policy"
    | some lane =>
        if notification.severity = .critical then
          history.handOver
            {
              severity := .critical
              notifications := [notification]
              immediate := true
              sweep := none
            }
            []
        else
          let (state, allowed) := lane.state.checkRateLimit lane.policy now
          if !allowed then
            { history with engine := history.engine.setState lane notification.severity state }.drop
              [notification] "rate_limited"
          else
            let queued := { state with pending := state.pending ++ [notification] }
            let waiting :=
              { history with engine := history.engine.setState lane notification.severity queued }
            if lane.policy.isImmediate then waiting.flush notification.severity none
            else waiting.scheduleFlush { lane with state := queued } notification.severity

/-- The callback of a timer that is scheduled. -/
def timerFires (history : ThrottleHistory) (severity : NotificationSeverity)
    : ThrottleHistory :=
  match history.engine.lanes.get severity with
  | none => history
  | some lane =>
      if lane.state.timer then
        { history with
          engine := history.engine.setState lane severity { lane.state with timer := false } }.flush
            severity none
      else history

/-- `flushAll` from one severity to the next. -/
def sweepOn (history : ThrottleHistory) : List NotificationSeverity → ThrottleHistory
  | [] => history
  | severity :: rest => history.flush severity (some rest)

def flushAll (history : ThrottleHistory) : ThrottleHistory :=
  history.sweepOn (history.engine.lanes.entries.map Prod.fst)

/-- A `flushAll` between two severities goes on. -/
def resume (history : ThrottleHistory) (index : Nat) : ThrottleHistory :=
  match history.sweeps[index]? with
  | none => history
  | some rest => { history with sweeps := history.sweeps.eraseIdx index }.sweepOn rest

/-- What `flush` and `deliverImmediate` do when their call of `onSend` has ended. -/
def settle (history : ThrottleHistory) (index : Nat) (error : Option String) (now : Int)
    : ThrottleHistory :=
  match history.deliveries[index]? with
  | none => history
  | some delivery =>
      let ended :=
        { history with deliveries := history.deliveries.eraseIdx index }.waitTurn delivery.sweep
      match error with
      | none =>
          { ended with
            engine := history.engine.sent delivery.severity delivery.notifications.length now
            fates := history.fates
              ++ delivery.notifications.map fun notification => (notification, .delivered) }
      | some message =>
          if delivery.immediate then
            { ended with
              fates := history.fates
                ++ delivery.notifications.map fun notification => (notification, .failed message) }
          else ended.drop delivery.notifications ("delivery_failed: " ++ message)

def stop (history : ThrottleHistory) : ThrottleHistory :=
  { history with
    engine :=
      {
        lanes := history.engine.lanes.mapValues fun lane =>
          { lane with state := { lane.state with pending := [], timer := false } }
        stopped := true
      } }.drop history.engine.pending "engine_stopped"

def next (history : ThrottleHistory) : ThrottleInput → ThrottleHistory
  | .submit notification now =>
      { history with submitted := history.submitted ++ [notification] }.submit notification now
  | .timerFires severity => history.timerFires severity
  | .flushAll => history.flushAll
  | .resume index => history.resume index
  | .settle index error now => history.settle index error now
  | .stop => history.stop

end ThrottleHistory

end CrashWave.Telegram
