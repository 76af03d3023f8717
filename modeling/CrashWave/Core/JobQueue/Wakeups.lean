import CrashWave.JavaScript.Number
import CrashWave.Runs.Basic
import Mathlib.Data.List.Perm.Basic
import Mathlib.Data.Rat.Floor
import Mathlib.Logic.Function.Basic

/-! The priority queue of a worker process, with retries and backoff, and when a queued job can
count on being started. All retries share one timer, which is neither moved when an earlier job
comes nor armed again for those that wait longer. Times are milliseconds and are computed exactly.
The loop of `pump` does not wait, so no event finds it at work and the flag `pumping` is left out.
-/

namespace CrashWave.JobQueue

open JavaScript

inductive QueuePriority where
  | critical
  | high
  | normal
  | low
  | background
  deriving DecidableEq

/-- `PRIORITY_ORDER`. -/
def priorityOrder : List QueuePriority :=
  [.critical, .high, .normal, .low, .background]

structure QueueJob (τ : Type*) where
  id : String
  priority : QueuePriority
  payload : τ
  createdAt : ℚ
  attempts : Nat
  maxAttempts : Number
  availableAt : ℚ
  deriving DecidableEq

structure QueueOptions where
  maxDepth : Option Number := none
  concurrency : Option Number := none
  retryBaseMs : Option ℚ := none

/-- The queue. `retryTimer` is the time at which the armed timer fires. The jobs whose handler or
whose `onDeadLetter` is awaited are kept beside it, with the last time that was read.
-/
structure PriorityJobQueue (τ : Type*) where
  buckets : QueuePriority → List (QueueJob τ)
  maxDepth : Number
  concurrency : Number
  retryBaseMs : ℚ
  active : Int
  handler : Bool
  retryTimer : Option ℚ
  running : List (QueueJob τ)
  deadLettering : List (QueueJob τ)
  clock : ℚ

/-- What happens to the queue. The id that `enqueue` makes up is given to it. -/
inductive QueueEvent (τ : Type*) where
  | onProcess
  | enqueue (payload : τ) (priority : QueuePriority) (id : Option String)
      (maxAttempts : Option Number) (made : String)
  | succeed (index : Nat)
  | fail (index : Nat)
  | deadLettered (index : Nat)
  | retryTimer

/-- `setTimeout` cuts fractions off and takes 1 for a delay that is not between 1 and the
greatest 32-bit integer.
-/
def setTimeoutDelay (delay : ℚ) : ℚ :=
  if 1 ≤ delay ∧ delay ≤ 2147483647 then ⌊delay⌋ else 1

variable {τ : Type*}

/-- Takes the first job of a bucket that is available. -/
def takeAvailable (now : ℚ) (jobs : List (QueueJob τ))
    : Option (QueueJob τ × List (QueueJob τ)) :=
  match jobs.findIdx? (fun job => job.availableAt ≤ now) with
  | none => none
  | some index => jobs[index]?.map fun job => (job, jobs.eraseIdx index)

namespace PriorityJobQueue

/-- The constructor. -/
def new (options : QueueOptions) : PriorityJobQueue τ where
  buckets _ := []
  maxDepth := options.maxDepth.getD 10000
  concurrency := Number.max 1 (options.concurrency.getD 1)
  retryBaseMs := options.retryBaseMs.getD 100
  active := 0
  handler := false
  retryTimer := none
  running := []
  deadLettering := []
  clock := 0

def depth (queue : PriorityJobQueue τ) : Nat :=
  priorityOrder.foldl (fun depth priority => depth + (queue.buckets priority).length) 0

def push (queue : PriorityJobQueue τ) (job : QueueJob τ) : PriorityJobQueue τ :=
  { queue with
    buckets := Function.update queue.buckets job.priority
      (queue.buckets job.priority ++ [job]) }

/-- `dequeue` over the buckets of the given priorities. -/
def dequeueFrom (queue : PriorityJobQueue τ) (now : ℚ)
    : List QueuePriority → Option (QueueJob τ × PriorityJobQueue τ)
  | [] => none
  | priority :: rest =>
      match takeAvailable now (queue.buckets priority) with
      | some (job, others) =>
          some (job, { queue with buckets := Function.update queue.buckets priority others })
      | none => queue.dequeueFrom now rest

def dequeue (queue : PriorityJobQueue τ) (now : ℚ)
    : Option (QueueJob τ × PriorityJobQueue τ) :=
  queue.dequeueFrom now priorityOrder

/-- `run` up to the call of the handler. -/
def start (queue : PriorityJobQueue τ) (job : QueueJob τ) : PriorityJobQueue τ :=
  { queue with
    active := queue.active + 1
    running := queue.running ++ [{ job with attempts := job.attempts + 1 }] }

/-- The loop of `pump`, which takes a job each time. -/
def pumpLoop (now : ℚ) : Nat → PriorityJobQueue τ → PriorityJobQueue τ
  | 0, queue => queue
  | jobs + 1, queue =>
      if .finite queue.active < queue.concurrency then
        match queue.dequeue now with
        | none => queue
        | some (job, rest) => pumpLoop now jobs (rest.start job)
      else queue

def pump (queue : PriorityJobQueue τ) (now : ℚ) : PriorityJobQueue τ :=
  if queue.handler then pumpLoop now queue.depth queue else queue

/-- One timer serves all retries: none is armed while another one is. -/
def scheduleRetryPump (queue : PriorityJobQueue τ) (now availableAt : ℚ)
    : PriorityJobQueue τ :=
  let delay := max 0 (availableAt - now)
  match queue.retryTimer with
  | some _ => queue
  | none => { queue with retryTimer := some (now + setTimeoutDelay delay) }

def onProcess (queue : PriorityJobQueue τ) (now : ℚ) : PriorityJobQueue τ :=
  { queue with handler := true }.pump now

def enqueue (queue : PriorityJobQueue τ) (now : ℚ) (payload : τ) (priority : QueuePriority)
    (id : Option String) (maxAttempts : Option Number) (made : String)
    : Except String (String × PriorityJobQueue τ) :=
  if queue.maxDepth ≤ .finite queue.depth then .error "queue_depth_limit_exceeded"
  else
    let id := id.getD made
    let job :=
      { id
        priority
        payload
        createdAt := now
        attempts := 0
        maxAttempts := maxAttempts.getD 3
        availableAt := now }
    .ok (id, (queue.push job).pump now)

/-- The end of `run`. -/
def finish (queue : PriorityJobQueue τ) (now : ℚ) : PriorityJobQueue τ :=
  { queue with active := queue.active - 1 }.pump now

/-- A job as it waits for its next attempt. -/
def backedOff (queue : PriorityJobQueue τ) (now : ℚ) (job : QueueJob τ) : QueueJob τ :=
  { job with availableAt := now + queue.retryBaseMs * 2 ^ (job.attempts - 1) }

/-- `run` from the rejection of the handler on: the job is queued again while it has attempts
left, else `onDeadLetter` is awaited.
-/
def fail (queue : PriorityJobQueue τ) (now : ℚ) (job : QueueJob τ) : PriorityJobQueue τ :=
  if .finite job.attempts < job.maxAttempts then
    let retried := queue.backedOff now job
    ((queue.push retried).scheduleRetryPump now retried.availableAt).finish now
  else { queue with deadLettering := queue.deadLettering ++ [job] }

/-- What an event does at the time that it reads. A timer that is not armed does not fire. -/
def handle (queue : PriorityJobQueue τ) (now : ℚ) : QueueEvent τ → PriorityJobQueue τ
  | .onProcess => queue.onProcess now
  | .enqueue payload priority id maxAttempts made =>
      match queue.enqueue now payload priority id maxAttempts made with
      | .error _ => queue
      | .ok (_, after) => after
  | .succeed index =>
      match queue.running[index]? with
      | none => queue
      | some _ => { queue with running := queue.running.eraseIdx index }.finish now
  | .fail index =>
      match queue.running[index]? with
      | none => queue
      | some job => { queue with running := queue.running.eraseIdx index }.fail now job
  | .deadLettered index =>
      match queue.deadLettering[index]? with
      | none => queue
      | some _ =>
          { queue with deadLettering := queue.deadLettering.eraseIdx index }.finish now
  | .retryTimer =>
      match queue.retryTimer with
      | none => queue
      | some _ => { queue with retryTimer := none }.pump now

/-- An event with the time at which it happens. -/
def next (queue : PriorityJobQueue τ) (input : ℚ × QueueEvent τ) : PriorityJobQueue τ :=
  { queue.handle input.1 input.2 with clock := input.1 }

end PriorityJobQueue

end CrashWave.JobQueue

-----------------------------------------------------------------------------------------
-- Wakeups
-----------------------------------------------------------------------------------------

namespace CrashWave.JobQueue

open JavaScript

variable {τ : Type*} {queue after : PriorityJobQueue τ} {now : ℚ}

-----------------------------------------------------------------------------------------
-- What the pump does
-----------------------------------------------------------------------------------------

/-- All queued jobs. -/
def PriorityJobQueue.queued (queue : PriorityJobQueue τ) : List (QueueJob τ) :=
  priorityOrder.flatMap queue.buckets

/-- `depth` counts the queued jobs. -/
theorem depth_eq_length (queue : PriorityJobQueue τ) : queue.depth = queue.queued.length := by
  simp [PriorityJobQueue.depth, PriorityJobQueue.queued, priorityOrder, add_assoc]

theorem mem_queued {job : QueueJob τ}
    : job ∈ queue.queued ↔ ∃ priority, job ∈ queue.buckets priority := by
  constructor
  · intro member
    obtain ⟨priority, _, bucket⟩ := List.mem_flatMap.mp member
    exact ⟨priority, bucket⟩
  · rintro ⟨priority, bucket⟩
    exact List.mem_flatMap.mpr ⟨priority, by cases priority <;> simp [priorityOrder], bucket⟩

theorem mem_queued_push {job pushed : QueueJob τ}
    : job ∈ (queue.push pushed).queued ↔ job ∈ queue.queued ∨ job = pushed := by
  simp only [mem_queued, PriorityJobQueue.push]
  constructor
  · rintro ⟨priority, bucket⟩
    by_cases same : priority = pushed.priority
    · subst same
      rw [Function.update_self] at bucket
      rcases List.mem_append.mp bucket with before | last
      · exact .inl ⟨_, before⟩
      · exact .inr (List.mem_singleton.mp last)
    · rw [Function.update_of_ne same] at bucket
      exact .inl ⟨priority, bucket⟩
  · rintro (⟨priority, bucket⟩ | rfl)
    · refine ⟨priority, ?_⟩
      by_cases same : priority = pushed.priority
      · subst same
        rw [Function.update_self]
        exact List.mem_append_left _ bucket
      · rwa [Function.update_of_ne same]
    · refine ⟨job.priority, ?_⟩
      rw [Function.update_self]
      exact List.mem_append_right _ (List.mem_singleton_self job)

/-- A bucket without an available job has none to take. -/
theorem takeAvailable_none {jobs : List (QueueJob τ)} (nothing : takeAvailable now jobs = none)
    : ∀ job ∈ jobs, now < job.availableAt := by
  intro job member
  unfold takeAvailable at nothing
  split at nothing
  · rename_i absent
    have unavailable := List.findIdx?_eq_none_iff.mp absent job member
    simpa using unavailable
  · rename_i index found
    obtain ⟨bound, _⟩ := List.findIdx?_eq_some_iff_getElem.mp found
    simp [bound] at nothing

/-- The job that is taken was available, and the other ones stay. -/
theorem takeAvailable_some {jobs rest : List (QueueJob τ)} {taken : QueueJob τ}
    (found : takeAvailable now jobs = some (taken, rest))
    : taken.availableAt ≤ now ∧ (taken :: rest).Perm jobs := by
  unfold takeAvailable at found
  split at found
  · cases found
  · rename_i index position
    obtain ⟨bound, available, _⟩ := List.findIdx?_eq_some_iff_getElem.mp position
    simp only [List.getElem?_eq_getElem bound, Option.map_some, Option.some_inj,
      Prod.mk.injEq] at found
    obtain ⟨rfl, rfl⟩ := found
    exact ⟨by simpa using available, List.getElem_cons_eraseIdx_perm bound⟩

/-- What is added to one bucket is added to all of them, by induction on the priorities. -/
theorem flatMap_update_perm {α β : Type*} [DecidableEq α] {buckets : α → List β} {place : α}
    {jobs added removed : List β} {places : List α} (distinct : places.Nodup)
    (member : place ∈ places) (same : (removed ++ jobs).Perm (added ++ buckets place))
    : (removed ++ places.flatMap (Function.update buckets place jobs)).Perm
        (added ++ places.flatMap buckets) := by
  induction places with
  | nil => cases member
  | cons first rest ih =>
      obtain ⟨absent, distinct⟩ := List.nodup_cons.mp distinct
      rw [List.flatMap_cons, List.flatMap_cons]
      by_cases here : place = first
      · subst here
        have others : rest.flatMap (Function.update buckets place jobs) = rest.flatMap buckets := by
          refine List.flatMap_congr fun other elsewhere => Function.update_of_ne ?_ _ _
          rintro rfl
          exact absent elsewhere
        rw [Function.update_self, others, ← List.append_assoc, ← List.append_assoc]
        exact same.append_right _
      · have later := ih distinct ((List.mem_cons.mp member).resolve_left here)
        rw [Function.update_of_ne (Ne.symm here)]
        have kept := later.append_left (buckets first)
        exact (List.perm_append_comm_assoc _ _ _).trans
          (kept.trans (List.perm_append_comm_assoc _ _ _))

theorem priorityOrder_nodup : priorityOrder.Nodup := by
  decide

theorem mem_priorityOrder (priority : QueuePriority) : priority ∈ priorityOrder := by
  cases priority <;> decide

/-- What `dequeue` takes from the queue. -/
structure Dequeued (queue : PriorityJobQueue τ) (now : ℚ) (job : QueueJob τ)
    (rest : PriorityJobQueue τ) : Prop where
  available : job.availableAt ≤ now
  frame : rest = { queue with buckets := rest.buckets }
  others : (job :: rest.queued).Perm queue.queued

/-- The queued jobs are the one that is taken and those that stay. -/
theorem Dequeued.mem_iff {job other : QueueJob τ} {rest : PriorityJobQueue τ}
    (dequeued : Dequeued queue now job rest)
    : other ∈ queue.queued ↔ other = job ∨ other ∈ rest.queued :=
  dequeued.others.mem_iff.symm.trans List.mem_cons

theorem dequeueFrom_none {priorities : List QueuePriority}
    (nothing : queue.dequeueFrom now priorities = none)
    : ∀ priority ∈ priorities, ∀ job ∈ queue.buckets priority, now < job.availableAt := by
  induction priorities with
  | nil => simp
  | cons priority rest ih =>
      rw [PriorityJobQueue.dequeueFrom] at nothing
      split at nothing
      · cases nothing
      · rename_i empty
        exact List.forall_mem_cons.mpr ⟨takeAvailable_none empty, ih nothing⟩

theorem dequeueFrom_some {priorities : List QueuePriority} {job : QueueJob τ}
    (found : queue.dequeueFrom now priorities = some (job, after))
    : Dequeued queue now job after := by
  induction priorities with
  | nil => cases found
  | cons priority rest ih =>
      rw [PriorityJobQueue.dequeueFrom] at found
      split at found
      · rename_i taken others bucket
        obtain ⟨rfl, rfl⟩ := Prod.mk.inj (Option.some_inj.mp found)
        obtain ⟨available, taking⟩ := takeAvailable_some bucket
        have removed : ([taken] ++ others).Perm ([] ++ queue.buckets priority) := taking
        exact ⟨available, rfl,
          flatMap_update_perm priorityOrder_nodup (mem_priorityOrder priority) removed⟩
      · exact ih found

/-- What the pump leaves: it starts available jobs only, and none is left when a slot is free. -/
structure Pumped (queue : PriorityJobQueue τ) (now : ℚ) (after : PriorityJobQueue τ)
    : Prop where
  handler : after.handler = queue.handler
  timer : after.retryTimer = queue.retryTimer
  concurrency : after.concurrency = queue.concurrency
  queued : after.queued ⊆ queue.queued
  waiting : ∀ job ∈ queue.queued, now < job.availableAt → job ∈ after.queued
  started : queue.handler → .finite after.active < after.concurrency →
    ∀ job ∈ after.queued, now < job.availableAt

/-- A queue that is left as it is has no job to start. -/
theorem Pumped.of_same
    (started : queue.handler → .finite queue.active < queue.concurrency →
      ∀ job ∈ queue.queued, now < job.availableAt)
    : Pumped queue now queue :=
  ⟨rfl, rfl, rfl, List.Subset.refl _, fun _ member _ => member, started⟩

/-- A dequeued job is started before what the pump leaves of the others. -/
theorem Dequeued.pumped {job : QueueJob τ} {rest : PriorityJobQueue τ}
    (dequeued : Dequeued queue now job rest) (pumped : Pumped (rest.start job) now after)
    : Pumped queue now after := by
  have framed := dequeued.frame
  refine ⟨?_, ?_, ?_, ?_, ?_, ?_⟩
  · rw [pumped.handler, framed]
    rfl
  · rw [pumped.timer, framed]
    rfl
  · rw [pumped.concurrency, framed]
    rfl
  · intro other member
    exact dequeued.mem_iff.mpr (.inr (pumped.queued member))
  · intro other member late
    refine pumped.waiting other ?_ late
    refine (dequeued.mem_iff.mp member).resolve_left ?_
    rintro rfl
    exact absurd dequeued.available (not_le.mpr late)
  · intro handler
    refine pumped.started ?_
    rw [framed]
    exact handler

/-- The loop ends without an available job or without a free slot, by induction on the jobs that
it may take.
-/
theorem pumpLoop_pumped (jobs : Nat) (enough : queue.queued.length ≤ jobs)
    : Pumped queue now (queue.pumpLoop now jobs) := by
  induction jobs generalizing queue with
  | zero =>
      refine .of_same fun _ _ job member => ?_
      rw [List.eq_nil_of_length_eq_zero (Nat.le_zero.mp enough)] at member
      cases member
  | succ jobs ih =>
      rw [PriorityJobQueue.pumpLoop]
      split
      · cases taken : queue.dequeue now with
        | none =>
            refine .of_same fun _ _ job member => ?_
            obtain ⟨priority, bucket⟩ := mem_queued.mp member
            exact dequeueFrom_none taken priority (mem_priorityOrder priority) job bucket
        | some found =>
            obtain ⟨job, rest⟩ := found
            have dequeued : Dequeued queue now job rest := dequeueFrom_some taken
            have fewer := dequeued.others.length_eq
            rw [List.length_cons] at fewer
            apply dequeued.pumped
            apply ih
            change rest.queued.length ≤ jobs
            omega
      · next full => exact .of_same fun _ free => absurd free full

theorem pump_pumped (queue : PriorityJobQueue τ) (now : ℚ)
    : Pumped queue now (queue.pump now) := by
  rw [PriorityJobQueue.pump]
  split
  · exact pumpLoop_pumped _ (depth_eq_length queue).ge
  · next missing => exact .of_same fun handler => absurd handler missing

-----------------------------------------------------------------------------------------
-- Wakeups along a run
-----------------------------------------------------------------------------------------

/-- No wakeup is lost: while a slot is free and jobs are queued, a timer is armed that fires
no later than the first of them is available.
-/
def NoLostWakeup (queue : PriorityJobQueue τ) : Prop :=
  queue.handler → .finite queue.active < queue.concurrency → queue.queued ≠ [] →
    ∃ due ∈ queue.retryTimer, ∀ job ∈ queue.queued, due ≤ job.availableAt

instance [DecidableEq τ] : Decidable (NoLostWakeup queue) :=
  inferInstanceAs (Decidable (queue.handler → .finite queue.active < queue.concurrency →
    queue.queued ≠ [] → ∃ due ∈ queue.retryTimer, ∀ job ∈ queue.queued, due ≤ job.availableAt))

/-- The timer fires by a time. -/
def FiresBy (queue : PriorityJobQueue τ) (time : ℚ) : Prop :=
  ∃ due ∈ queue.retryTimer, due ≤ time

/-- Every queued job was available when the time was last read, unless the timer fires for it,
and with a free slot the timer fires for all of them.
-/
structure Awake (queue : PriorityJobQueue τ) : Prop where
  covered : ∀ job ∈ queue.queued, job.availableAt ≤ queue.clock ∨ FiresBy queue job.availableAt
  started : queue.handler → .finite queue.active < queue.concurrency →
    ∀ job ∈ queue.queued, FiresBy queue job.availableAt

theorem Awake.noLostWakeup (awake : Awake queue) : NoLostWakeup queue := by
  intro handler free queued
  have fires := awake.started handler free
  obtain ⟨first, member⟩ := List.exists_mem_of_ne_nil _ queued
  obtain ⟨due, armed, _⟩ := fires first member
  refine ⟨due, armed, fun job member => ?_⟩
  obtain ⟨other, again, before⟩ := fires job member
  obtain rfl : due = other := Option.some_inj.mp (armed.symm.trans again)
  exact before

/-- A retry at a time finds the timer armed to fire by then, or not armed and a millisecond left. -/
def ArmedBy (queue : PriorityJobQueue τ) (now availableAt : ℚ) : Prop :=
  (∀ due ∈ queue.retryTimer, due ≤ availableAt)
  ∧ (queue.retryTimer = none → now + 1 ≤ availableAt)

/-- The time does not go back; a retry finds no timer that is armed for later, and it waits
no fraction of a millisecond; a timer fires when no queued job has to wait any longer.
-/
def Timely (queue : PriorityJobQueue τ) (input : ℚ × QueueEvent τ) : Prop :=
  queue.clock ≤ input.1
  ∧ match input.2 with
    | .fail index =>
        ∀ job ∈ queue.running[index]?, .finite job.attempts < job.maxAttempts →
          (queue.backedOff input.1 job).availableAt ≤ input.1
          ∨ ArmedBy queue input.1 (queue.backedOff input.1 job).availableAt
    | .retryTimer =>
        queue.retryTimer.isSome → ∀ job ∈ queue.queued, job.availableAt ≤ input.1
    | _ => True

instance {availableAt : ℚ} : Decidable (ArmedBy queue now availableAt) :=
  inferInstanceAs (Decidable ((∀ due ∈ queue.retryTimer, due ≤ availableAt)
    ∧ (queue.retryTimer = none → now + 1 ≤ availableAt)))

instance : (input : ℚ × QueueEvent τ) → Decidable (Timely queue input)
  | (_, .fail _) => inferInstanceAs (Decidable (_ ∧ ∀ job ∈ queue.running[_]?, _))
  | (_, .retryTimer) => inferInstanceAs (Decidable (_ ∧ (_ → ∀ job ∈ queue.queued, _)))
  | (_, .onProcess) | (_, .enqueue ..) | (_, .succeed _) | (_, .deadLettered _) =>
      inferInstanceAs (Decidable (_ ∧ True))

/-- The pump wakes all jobs that are available, and the timer the other ones. -/
theorem awake_pump
    (covered : ∀ job ∈ queue.queued, job.availableAt ≤ now ∨ FiresBy queue job.availableAt)
    : Awake { queue.pump now with clock := now } := by
  have pumped := pump_pumped queue now
  have fires : ∀ time, FiresBy { queue.pump now with clock := now } time ↔ FiresBy queue time := by
    intro time
    simp only [FiresBy, pumped.timer]
  constructor
  · intro job member
    rw [fires]
    exact covered job (pumped.queued member)
  · intro handler free job member
    rw [fires]
    have late := pumped.started (pumped.handler ▸ handler) free job member
    exact (covered job (pumped.queued member)).resolve_left (not_le.mpr late)

/-- What does not pump, and changes neither the queued jobs nor the timer, keeps them awake. -/
theorem Awake.later (awake : Awake queue) (later : queue.clock ≤ now)
    (after : PriorityJobQueue τ) (queued : after.queued = queue.queued)
    (timer : after.retryTimer = queue.retryTimer)
    (handler : after.handler = queue.handler) (active : after.active = queue.active)
    (concurrency : after.concurrency = queue.concurrency)
    : Awake { after with clock := now } := by
  have fires : ∀ time, FiresBy { after with clock := now } time ↔ FiresBy queue time := by
    intro time
    simp only [FiresBy, timer]
  constructor
  · intro job member
    rw [fires]
    change job ∈ after.queued at member
    rw [queued] at member
    exact (awake.covered job member).imp_left later.trans'
  · intro registered free job member
    rw [fires]
    change job ∈ after.queued at member
    change after.handler = true at registered
    change .finite after.active < after.concurrency at free
    rw [queued] at member
    rw [handler] at registered
    rw [active, concurrency] at free
    exact awake.started registered free job member

theorem Awake.covered_at (awake : Awake queue) (later : queue.clock ≤ now)
    : ∀ job ∈ queue.queued, job.availableAt ≤ now ∨ FiresBy queue job.availableAt :=
  fun job member => (awake.covered job member).imp_left later.trans'

theorem setTimeoutDelay_le {delay : ℚ} (whole : 1 ≤ delay) : setTimeoutDelay delay ≤ delay := by
  rw [setTimeoutDelay]
  split
  · exact Int.floor_le delay
  · exact whole

/-- A timer that fires by a time still does after a retry was scheduled. -/
theorem FiresBy.schedule {availableAt time : ℚ} (fires : FiresBy queue time)
    : FiresBy (queue.scheduleRetryPump now availableAt) time := by
  obtain ⟨due, armed, before⟩ := fires
  refine ⟨due, ?_, before⟩
  rw [PriorityJobQueue.scheduleRetryPump, Option.mem_def.mp armed]
  exact armed

/-- The timer fires for a retry that finds it armed in time, or not at all. -/
theorem schedule_firesBy {availableAt : ℚ}
    (timely : ArmedBy queue now availableAt)
    : FiresBy (queue.scheduleRetryPump now availableAt) availableAt := by
  cases armed : queue.retryTimer with
  | some due => exact FiresBy.schedule ⟨due, armed, timely.1 due armed⟩
  | none =>
      refine ⟨now + setTimeoutDelay (max 0 (availableAt - now)), ?_, ?_⟩
      · rw [PriorityJobQueue.scheduleRetryPump, armed]
        rfl
      · have whole : 1 ≤ availableAt - now := by linarith [timely.2 armed]
        rw [max_eq_right (zero_le_one.trans whole)]
        linarith [setTimeoutDelay_le whole]

theorem schedule_queued {availableAt : ℚ}
    : (queue.scheduleRetryPump now availableAt).queued = queue.queued := by
  rw [PriorityJobQueue.scheduleRetryPump]
  split <;> rfl

theorem enqueue_awake {payload : τ} {priority : QueuePriority} {id : Option String}
    {maxAttempts : Option Number} {made : String} (awake : Awake queue)
    (later : queue.clock ≤ now)
    : Awake (queue.next (now, .enqueue payload priority id maxAttempts made)) := by
  simp only [PriorityJobQueue.next, PriorityJobQueue.handle, PriorityJobQueue.enqueue]
  by_cases full : queue.maxDepth ≤ .finite queue.depth
  · rw [if_pos full]
    exact awake.later later queue rfl rfl rfl rfl rfl
  · rw [if_neg full]
    apply awake_pump
    intro job member
    rcases mem_queued_push.mp member with before | rfl
    · exact awake.covered_at later job before
    · exact .inl le_rfl

/-- The queue with a failed job queued again. -/
def PriorityJobQueue.requeued (queue : PriorityJobQueue τ) (now : ℚ) (index : Nat)
    (job : QueueJob τ) : PriorityJobQueue τ :=
  { queue with running := queue.running.eraseIdx index }.push (queue.backedOff now job)

/-- The queue as the pump finds it after a failure that is retried. -/
def PriorityJobQueue.retried (queue : PriorityJobQueue τ) (now : ℚ) (index : Nat)
    (job : QueueJob τ) : PriorityJobQueue τ :=
  let scheduled := (queue.requeued now index job).scheduleRetryPump now
    (queue.backedOff now job).availableAt
  { scheduled with active := scheduled.active - 1 }

theorem mem_queued_retried {index : Nat} {job queued : QueueJob τ}
    : queued ∈ (queue.retried now index job).queued
      ↔ queued ∈ queue.queued ∨ queued = queue.backedOff now job := by
  change queued ∈ (PriorityJobQueue.scheduleRetryPump _ now _).queued ↔ _
  rw [schedule_queued]
  exact mem_queued_push

theorem next_retried {index : Nat} {job : QueueJob τ} (failed : queue.running[index]? = some job)
    (left : .finite job.attempts < job.maxAttempts)
    : queue.next (now, .fail index)
      = { (queue.retried now index job).pump now with clock := now } := by
  simp only [PriorityJobQueue.next, PriorityJobQueue.handle, failed, PriorityJobQueue.fail,
    if_pos left]
  rfl

theorem fail_awake {index : Nat} (awake : Awake queue) (timely : Timely queue (now, .fail index))
    : Awake (queue.next (now, .fail index)) := by
  have later : queue.clock ≤ now := timely.1
  cases failed : queue.running[index]? with
  | none =>
      simp only [PriorityJobQueue.next, PriorityJobQueue.handle, failed]
      exact awake.later later queue rfl rfl rfl rfl rfl
  | some job =>
      by_cases left : .finite job.attempts < job.maxAttempts
      · rw [next_retried failed left]
        apply awake_pump
        intro queued member
        rcases mem_queued_retried.mp member with before | rfl
        · refine (awake.covered_at later queued before).imp_right fun fires => ?_
          exact FiresBy.schedule fires
        · refine (timely.2 job failed left).imp_right fun armed => ?_
          exact schedule_firesBy armed
      · simp only [PriorityJobQueue.next, PriorityJobQueue.handle, failed,
          PriorityJobQueue.fail, if_neg left]
        exact awake.later later { queue with
          running := queue.running.eraseIdx index
          deadLettering := queue.deadLettering ++ [job] } rfl rfl rfl rfl rfl

theorem Timely.keeps {input : ℚ × QueueEvent τ} (awake : Awake queue)
    (timely : Timely queue input)
    : Awake (queue.next input) := by
  obtain ⟨now, event⟩ := input
  have later : queue.clock ≤ now := timely.1
  cases event with
  | onProcess => exact awake_pump (awake.covered_at later)
  | enqueue payload priority id maxAttempts made => exact enqueue_awake awake later
  | succeed index =>
      simp only [PriorityJobQueue.next, PriorityJobQueue.handle]
      cases queue.running[index]? with
      | none => exact awake.later later queue rfl rfl rfl rfl rfl
      | some job => exact awake_pump (awake.covered_at later)
  | fail index => exact fail_awake awake timely
  | deadLettered index =>
      simp only [PriorityJobQueue.next, PriorityJobQueue.handle]
      cases queue.deadLettering[index]? with
      | none => exact awake.later later queue rfl rfl rfl rfl rfl
      | some job => exact awake_pump (awake.covered_at later)
  | retryTimer =>
      simp only [PriorityJobQueue.next, PriorityJobQueue.handle]
      cases armed : queue.retryTimer with
      | none => exact awake.later later queue rfl rfl rfl rfl rfl
      | some due =>
          apply awake_pump
          intro job member
          exact .inl (timely.2 (by simp [armed]) job member)

theorem setTimeoutDelay_short {delay : ℚ} (short : delay < 1) : setTimeoutDelay delay = 1 :=
  if_neg fun bounds => absurd bounds.1 (not_le.mpr short)

/-- With a free slot, the next job that waits is one that the timer fires for. -/
theorem NoLostWakeup.fires {job : QueueJob τ} (awake : NoLostWakeup queue)
    (handler : queue.handler) (free : .finite queue.active < queue.concurrency)
    (member : job ∈ queue.queued)
    : FiresBy queue job.availableAt := by
  obtain ⟨due, armed, before⟩ := awake handler free (List.ne_nil_of_mem member)
  exact ⟨due, armed, before job member⟩

/-- A retry for which the timer fires has found it armed in time, or not at all. -/
theorem schedule_timely (queue : PriorityJobQueue τ) {availableAt : ℚ} (late : now < availableAt)
    (fires : FiresBy (queue.scheduleRetryPump now availableAt) availableAt)
    : ArmedBy queue now availableAt := by
  obtain ⟨due, scheduled, before⟩ := fires
  rw [PriorityJobQueue.scheduleRetryPump] at scheduled
  constructor
  · intro other armed
    simp only [Option.mem_def.mp armed, Option.mem_some_iff] at scheduled
    exact scheduled ▸ before
  · intro unarmed
    simp only [unarmed, Option.mem_some_iff] at scheduled
    rw [max_eq_right (sub_pos.mpr late).le] at scheduled
    by_contra short
    rw [setTimeoutDelay_short (by linarith)] at scheduled
    exact short (scheduled ▸ before)

theorem firesBy_of_pump {time : ℚ} (fires : FiresBy (queue.pump now) time)
    : FiresBy queue time := by
  rwa [FiresBy, (pump_pumped queue now).timer] at fires

theorem pump_waiting {job : QueueJob τ} (member : job ∈ queue.queued)
    (late : now < job.availableAt)
    : job ∈ (queue.pump now).queued :=
  (pump_pumped queue now).waiting job member late

/-- Where a slot stays free, an event that comes in order loses no wakeup exactly when it is
timely.
-/
theorem noLostWakeup_iff_timely {input : ℚ × QueueEvent τ} (awake : Awake queue)
    (later : queue.clock ≤ input.1) (handler : (queue.next input).handler)
    (free : .finite (queue.next input).active < (queue.next input).concurrency)
    : NoLostWakeup (queue.next input) ↔ Timely queue input := by
  constructor
  · intro woken
    have fires : ∀ job ∈ (queue.next input).queued,
        FiresBy (queue.next input) job.availableAt :=
      fun _ member => woken.fires handler free member
    obtain ⟨now, event⟩ := input
    refine ⟨later, ?_⟩
    cases event with
    | onProcess => trivial
    | enqueue => trivial
    | succeed => trivial
    | deadLettered => trivial
    | fail index =>
        intro job failed left
        rcases le_or_gt (queue.backedOff now job).availableAt now with available | late
        · exact .inl available
        · right
          rw [next_retried failed left] at fires
          have queued : queue.backedOff now job ∈ (queue.retried now index job).queued :=
            mem_queued_retried.mpr (.inr rfl)
          have fired : FiresBy (queue.retried now index job)
              (queue.backedOff now job).availableAt :=
            firesBy_of_pump (fires _ (pump_waiting queued late))
          exact schedule_timely (queue.requeued now index job) late fired
    | retryTimer =>
        intro armed job member
        obtain ⟨due, timer⟩ := Option.isSome_iff_exists.mp armed
        simp only [PriorityJobQueue.next, PriorityJobQueue.handle, timer] at fires
        by_contra late
        obtain ⟨due, unarmed, _⟩ := firesBy_of_pump
          (fires job (pump_waiting member (not_le.mp late)))
        cases unarmed
  · intro timely
    exact (timely.keeps awake).noLostWakeup

/-- In every run of timely events no wakeup is lost, in any state that it reaches. -/
theorem timely_run_noLostWakeup (options : QueueOptions) (inputs : List (ℚ × QueueEvent τ))
    (timely : Runs.Always PriorityJobQueue.next Timely (.new options) inputs)
    : Runs.Always PriorityJobQueue.next (fun queue _ => NoLostWakeup queue) (.new options) inputs
      ∧ NoLostWakeup (Runs.run PriorityJobQueue.next (.new options) inputs) := by
  have initial : Awake (.new options : PriorityJobQueue τ) := by
    constructor <;> simp [PriorityJobQueue.queued, PriorityJobQueue.new]
  have kept : ∀ (queue : PriorityJobQueue τ) input, Awake queue → Timely queue input →
      NoLostWakeup queue ∧ Awake (queue.next input) := fun queue input awake timely =>
    ⟨awake.noLostWakeup, timely.keeps awake⟩
  obtain ⟨always, reached⟩ := Runs.Always.of_invariant_run kept timely initial
  exact ⟨always, reached.noLostWakeup⟩

def job (id : String) : QueueEvent String := .enqueue id .normal (some id) none id

/-- A job fails once, and the timer fires when it is available again. -/
def oneRetry : List (ℚ × QueueEvent String) :=
  [(0, .onProcess), (0, job "a"), (10, .fail 0), (110, .retryTimer), (120, .succeed 0)]

theorem oneRetry_noLostWakeup
    : Runs.Always PriorityJobQueue.next (fun queue _ => NoLostWakeup queue) (.new {}) oneRetry
      ∧ NoLostWakeup (Runs.run PriorityJobQueue.next (.new {}) oneRetry) :=
  timely_run_noLostWakeup {} oneRetry (by decide +kernel)

/-- The timer fires for the first of two retries only. -/
def twoRetries : List (ℚ × QueueEvent String) :=
  [(0, .onProcess), (0, job "a"), (0, .fail 0), (10, job "b"), (20, .fail 0),
    (100, .retryTimer), (105, .succeed 0)]

/-- The second retry of one job is scheduled before the first one of another. -/
def laterTimer : List (ℚ × QueueEvent String) :=
  [(0, .onProcess), (0, job "a"), (0, .fail 0), (100, .retryTimer), (100, .fail 0),
    (110, job "b"), (120, .fail 0)]

theorem wakeups_lost
    : ¬ NoLostWakeup (Runs.run PriorityJobQueue.next (.new {}) twoRetries)
      ∧ ¬ NoLostWakeup (Runs.run PriorityJobQueue.next (.new {}) laterTimer) := by
  decide +kernel

end CrashWave.JobQueue
