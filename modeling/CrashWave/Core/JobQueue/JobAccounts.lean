import CrashWave.Core.JobQueue.Wakeups
import Mathlib.Data.Multiset.Bind

/-! The accounts of the jobs in a priority queue. What happened to each accepted job is kept beside
the queue: at any time it is queued, running, done or dead-lettered, and only one of these, it is
started no more often than it has attempts, and no job of a higher priority could have been
started in its place.
-/

namespace CrashWave.JobQueue

open JavaScript

variable {τ : Type*}

-----------------------------------------------------------------------------------------
-- What happened so far
-----------------------------------------------------------------------------------------

/-- The start of a job: the queue that it is taken from, and when. -/
structure JobStart (τ : Type*) where
  queue : PriorityJobQueue τ
  now : ℚ
  job : QueueJob τ

/-- The jobs that were accepted, started, completed and given to `onDeadLetter`. -/
structure QueueLog (τ : Type*) where
  accepted : List (QueueJob τ) := []
  started : List (JobStart τ) := []
  done : List (QueueJob τ) := []
  deadLettered : List (QueueJob τ) := []

/-- A job as it was accepted. -/
def QueueJob.accepted (job : QueueJob τ) : QueueJob τ :=
  { job with attempts := 0, availableAt := job.createdAt }

namespace PriorityJobQueue

/-- The starts of `pumpLoop`. -/
def pumpLoopStarts (now : ℚ) : Nat → PriorityJobQueue τ → List (JobStart τ)
  | 0, _ => []
  | jobs + 1, queue =>
      if .finite queue.active < queue.concurrency then
        match queue.dequeue now with
        | none => []
        | some (job, rest) => { queue, now, job } :: pumpLoopStarts now jobs (rest.start job)
      else []

/-- The starts of `pump`. -/
def pumpStarts (queue : PriorityJobQueue τ) (now : ℚ) : List (JobStart τ) :=
  if queue.handler then pumpLoopStarts now queue.depth queue else []

/-- The job that `enqueue` makes. -/
def newJob (now : ℚ) (payload : τ) (priority : QueuePriority) (id : Option String)
    (maxAttempts : Option Number) (made : String) : QueueJob τ where
  id := id.getD made
  priority
  payload
  createdAt := now
  attempts := 0
  maxAttempts := maxAttempts.getD 3
  availableAt := now

/-- The queue without a running job. -/
def withoutRunning (queue : PriorityJobQueue τ) (index : Nat) : PriorityJobQueue τ :=
  { queue with running := queue.running.eraseIdx index, active := queue.active - 1 }

/-- The queue without a job whose `onDeadLetter` was awaited. -/
def withoutDeadLettering (queue : PriorityJobQueue τ) (index : Nat) : PriorityJobQueue τ :=
  { queue with deadLettering := queue.deadLettering.eraseIdx index, active := queue.active - 1 }

end PriorityJobQueue

namespace QueueLog

/-- Adds the starts of a pump. -/
def pumped (log : QueueLog τ) (queue : PriorityJobQueue τ) (now : ℚ) : QueueLog τ :=
  { log with started := log.started ++ queue.pumpStarts now }

/-- What an event adds: what it settles of its job, and the starts of the pump that it ends
with.
-/
def record (log : QueueLog τ) (queue : PriorityJobQueue τ) (input : ℚ × QueueEvent τ)
    : QueueLog τ :=
  let now := input.1
  match input.2 with
  | .onProcess => log.pumped { queue with handler := true } now
  | .enqueue payload priority id maxAttempts made =>
      if queue.maxDepth ≤ .finite queue.depth then log
      else
        let job := PriorityJobQueue.newJob now payload priority id maxAttempts made
        { log with accepted := log.accepted ++ [job] }.pumped (queue.push job) now
  | .succeed index =>
      match queue.running[index]? with
      | none => log
      | some job =>
          { log with done := log.done ++ [job] }.pumped (queue.withoutRunning index) now
  | .fail index =>
      match queue.running[index]? with
      | none => log
      | some job =>
          if .finite job.attempts < job.maxAttempts then
            log.pumped (queue.retried now index job) now
          else { log with deadLettered := log.deadLettered ++ [job] }
  | .deadLettered index =>
      match queue.deadLettering[index]? with
      | none => log
      | some _ => log.pumped (queue.withoutDeadLettering index) now
  | .retryTimer =>
      match queue.retryTimer with
      | none => log
      | some _ => log.pumped { queue with retryTimer := none } now

end QueueLog

/-- The queue after an event, with what happened so far. -/
def loggedStep : PriorityJobQueue τ × QueueLog τ → ℚ × QueueEvent τ
    → PriorityJobQueue τ × QueueLog τ :=
  Runs.watched PriorityJobQueue.next QueueLog.record

/-- Where the accepted jobs are. -/
def jobs (queue : PriorityJobQueue τ) (log : QueueLog τ) : Multiset (QueueJob τ) :=
  (queue.queued : Multiset (QueueJob τ)) + (queue.running : Multiset (QueueJob τ))
    + (log.done : Multiset (QueueJob τ)) + (log.deadLettered : Multiset (QueueJob τ))

-----------------------------------------------------------------------------------------
-- Taking a job
-----------------------------------------------------------------------------------------

variable {queue rest : PriorityJobQueue τ} {log : QueueLog τ} {now : ℚ} {job : QueueJob τ}

theorem queued_push (queue : PriorityJobQueue τ) (job : QueueJob τ)
    : ((queue.push job).queued : Multiset (QueueJob τ)) = job ::ₘ queue.queued := by
  have appended : ([] ++ (queue.buckets job.priority ++ [job])).Perm
      ([job] ++ queue.buckets job.priority) := by
    rw [List.nil_append]
    exact List.perm_append_comm
  exact Multiset.coe_eq_coe.mpr
    (flatMap_update_perm priorityOrder_nodup (mem_priorityOrder job.priority) appended)

/-- What is taken is the first available job of the first bucket that has one. -/
structure Taken (queue : PriorityJobQueue τ) (now : ℚ) (priorities : List QueuePriority)
    (job : QueueJob τ) (rest : PriorityJobQueue τ) : Prop where
  available : job.availableAt ≤ now
  place : ∃ before priority after others, priorities = before ++ priority :: after
    ∧ (∀ earlier ∈ before, ∀ other ∈ queue.buckets earlier, now < other.availableAt)
    ∧ rest = { queue with buckets := Function.update queue.buckets priority others }
    ∧ (job :: others).Perm (queue.buckets priority)

/-- The buckets before the one of the taken job have none that is available, by induction on the
priorities.
-/
theorem dequeueFrom_taken {priorities : List QueuePriority}
    (found : queue.dequeueFrom now priorities = some (job, rest))
    : Taken queue now priorities job rest := by
  induction priorities with
  | nil => cases found
  | cons priority others ih =>
      rw [PriorityJobQueue.dequeueFrom] at found
      split at found
      · next taken left bucket =>
          obtain ⟨rfl, rfl⟩ := Prod.mk.inj (Option.some_inj.mp found)
          obtain ⟨available, perm⟩ := takeAvailable_some bucket
          exact ⟨available, [], priority, others, left, rfl, by simp, rfl, perm⟩
      · next empty =>
          obtain ⟨available, before, place, after, left, split, late, framed, perm⟩ := ih found
          refine ⟨available, priority :: before, place, after, left, by rw [split]; rfl, ?_,
            framed, perm⟩
          exact List.forall_mem_cons.mpr ⟨takeAvailable_none empty, late⟩

/-- The job that is taken is no longer queued. -/
theorem Taken.queued (taken : Taken queue now priorityOrder job rest)
    : (queue.queued : Multiset (QueueJob τ)) = job ::ₘ rest.queued := by
  obtain ⟨before, place, after, others, -, -, rfl, perm⟩ := taken.place
  have removed : ([job] ++ others).Perm ([] ++ queue.buckets place) := perm
  exact (Multiset.coe_eq_coe.mpr
    (flatMap_update_perm priorityOrder_nodup (mem_priorityOrder place) removed)).symm

/-- Every queued job is in the bucket of its priority. -/
def Placed (queue : PriorityJobQueue τ) : Prop :=
  ∀ priority, ∀ job ∈ queue.buckets priority, job.priority = priority

/-- A job that starts is available, and none that is has a higher priority. -/
structure HighestAvailable (start : JobStart τ) : Prop where
  queued : start.job ∈ start.queue.queued
  available : start.job.availableAt ≤ start.now
  highest : ∀ other ∈ start.queue.queued, other.availableAt ≤ start.now
    → priorityOrder.idxOf start.job.priority ≤ priorityOrder.idxOf other.priority

theorem Taken.highestAvailable (taken : Taken queue now priorityOrder job rest)
    (placed : Placed queue) : HighestAvailable { queue, now, job } := by
  obtain ⟨before, place, after, others, order, late, -, perm⟩ := taken.place
  have bucket : job ∈ queue.buckets place := perm.mem_iff.mp List.mem_cons_self
  -- a bucket with an available job is not before the one that the job is taken from
  have notBefore : ∀ other priority, other ∈ queue.buckets priority → other.availableAt ≤ now
      → priority ∉ before := by
    intro other priority member available earlier
    exact absurd available (not_le.mpr (late priority earlier other member))
  refine ⟨mem_queued.mpr ⟨place, bucket⟩, taken.available, ?_⟩
  intro other member available
  obtain ⟨priority, otherBucket⟩ := mem_queued.mp member
  dsimp only
  rw [placed place job bucket, placed priority other otherBucket, order,
    List.idxOf_append_of_notMem (notBefore job place bucket taken.available),
    List.idxOf_append_of_notMem (notBefore other priority otherBucket available),
    List.idxOf_cons_self]
  omega

/-- A bucket may be replaced by jobs of its priority. -/
theorem Placed.update (placed : Placed queue) {place : QueuePriority} {others : List (QueueJob τ)}
    (own : ∀ job ∈ others, job.priority = place)
    : Placed { queue with buckets := Function.update queue.buckets place others } :=
  (Function.forall_update_iff queue.buckets
    fun priority (bucket : List (QueueJob τ)) => ∀ job ∈ bucket, job.priority = priority).mpr
    ⟨own, fun other _ => placed other⟩

theorem Taken.placed (taken : Taken queue now priorityOrder job rest) (placed : Placed queue)
    : Placed rest := by
  obtain ⟨before, place, after, others, -, -, rfl, perm⟩ := taken.place
  apply placed.update
  intro other member
  exact placed place other (perm.mem_iff.mp (List.mem_cons_of_mem _ member))

theorem placed_push (placed : Placed queue) (job : QueueJob τ) : Placed (queue.push job) := by
  apply placed.update
  intro other member
  rcases List.mem_append.mp member with before | last
  · exact placed job.priority other before
  · rw [List.mem_singleton.mp last]

-----------------------------------------------------------------------------------------
-- The accounts
-----------------------------------------------------------------------------------------

/-- A job was started no more often than max(1, maxAttempts), which counts as the least whole number
that is not below it.
-/
def QueueJob.WithinLimit (job : QueueJob τ) : Prop :=
  ∀ most : Nat, 1 ≤ most → ¬ .finite most < job.maxAttempts → job.attempts ≤ most

/-- A job has an attempt left. -/
def QueueJob.MayRun (job : QueueJob τ) : Prop :=
  job.attempts = 0 ∨ .finite job.attempts < job.maxAttempts

/-- What is below a bound is less than all that is not. -/
theorem lt_of_below {count : Int} {most : Nat} {bound : Number} (below : .finite count < bound)
    (reached : ¬ .finite most < bound)
    : count < most := by
  by_contra above
  have order : (most : ℚ) ≤ count := by exact_mod_cast not_lt.mp above
  exact reached (Number.finite_lt_of_le order below)

theorem QueueJob.MayRun.withinLimit (mayRun : job.MayRun)
    : QueueJob.WithinLimit { job with attempts := job.attempts + 1 } := by
  intro most one reached
  rcases mayRun with first | left
  · change job.attempts + 1 ≤ most
    omega
  · have less : (job.attempts : Int) < most := lt_of_below (by exact_mod_cast left) reached
    exact_mod_cast less

/-- The books of some jobs: they are the accepted ones, and the starts are their attempts, within
their limits.
-/
structure Books (accepted starts jobs : Multiset (QueueJob τ)) : Prop where
  partition : accepted = jobs.map QueueJob.accepted
  starts : starts = jobs.bind fun job => Multiset.replicate job.attempts job.accepted
  limited : ∀ job ∈ jobs, job.WithinLimit

namespace Books

variable {accepted starts others : Multiset (QueueJob τ)}

/-- A new job has not been started. -/
theorem accept (books : Books accepted starts others) (new : job.accepted = job)
    : Books (job ::ₘ accepted) starts (job ::ₘ others) := by
  have fresh : job.attempts = 0 := by rw [← new]; rfl
  constructor
  · rw [Multiset.map_cons, new, books.partition]
  · rw [Multiset.cons_bind, fresh, Multiset.replicate_zero, zero_add, books.starts]
  · intro other member
    rcases Multiset.mem_cons.mp member with rfl | before
    · intro most _ _
      rw [fresh]
      exact Nat.zero_le most
    · exact books.limited other before

/-- A start of a job that has an attempt left is one of its attempts. -/
theorem start (books : Books accepted starts (job ::ₘ others))
    (mayRun : job.MayRun)
    : Books accepted (job.accepted ::ₘ starts)
        ({ job with attempts := job.attempts + 1 } ::ₘ others) := by
  obtain ⟨partition, attempts, limited⟩ := books
  constructor
  · rw [partition, Multiset.map_cons, Multiset.map_cons]
    rfl
  · rw [attempts, Multiset.cons_bind, Multiset.cons_bind, Multiset.replicate_succ,
      Multiset.cons_add]
    rfl
  · intro other member
    rcases Multiset.mem_cons.mp member with rfl | before
    · exact mayRun.withinLimit
    · exact limited other (Multiset.mem_cons_of_mem before)

/-- A job may wait for another time. -/
theorem delay (books : Books accepted starts (job ::ₘ others)) (availableAt : ℚ)
    : Books accepted starts ({ job with availableAt } ::ₘ others) := by
  obtain ⟨partition, attempts, limited⟩ := books
  constructor
  · rw [partition, Multiset.map_cons, Multiset.map_cons]
    rfl
  · rw [attempts, Multiset.cons_bind, Multiset.cons_bind]
    rfl
  · intro other member
    rcases Multiset.mem_cons.mp member with rfl | before
    · exact limited job (Multiset.mem_cons_self job others)
    · exact limited other (Multiset.mem_cons_of_mem before)

end Books

/-- The jobs that were started, as they were accepted. -/
def QueueLog.startedJobs (log : QueueLog τ) : List (QueueJob τ) :=
  log.started.map fun start => start.job.accepted

/-- The accounts of the jobs: no more are running than the concurrency, rounded up; each accepted
one is queued, running, done or dead-lettered, and counted once; the starts are the attempts of
these jobs, within their limits; and each start was of a job of the highest priority that was
available.
-/
structure JobAccounts (queue : PriorityJobQueue τ) (log : QueueLog τ) : Prop where
  running : ∀ most : Nat, ¬ .finite most < queue.concurrency → queue.running.length ≤ most
  books : Books (log.accepted : Multiset (QueueJob τ)) log.startedJobs (jobs queue log)
  highest : ∀ start ∈ log.started, HighestAvailable start

/-- A queue whose taken slots are those of its jobs at work, and whose queued jobs are in their
buckets and have an attempt left.
-/
structure Orderly (queue : PriorityJobQueue τ) : Prop where
  active : queue.active = queue.running.length + queue.deadLettering.length
  bounded : ∀ most : Nat, ¬ .finite most < queue.concurrency → queue.active ≤ most
  placed : Placed queue
  waiting : ∀ job ∈ queue.queued, job.MayRun

/-- What every event keeps. -/
structure Accounted (queue : PriorityJobQueue τ) (log : QueueLog τ) : Prop where
  orderly : Orderly queue
  books : Books (log.accepted : Multiset (QueueJob τ)) log.startedJobs (jobs queue log)
  highest : ∀ start ∈ log.started, HighestAvailable start

theorem Accounted.jobAccounts (accounted : Accounted queue log) : JobAccounts queue log := by
  refine ⟨?_, accounted.books, accounted.highest⟩
  intro most reached
  have active := accounted.orderly.active
  have bounded := accounted.orderly.bounded most reached
  omega

-----------------------------------------------------------------------------------------
-- The pump
-----------------------------------------------------------------------------------------

/-- A job that is started takes a free slot. -/
theorem Orderly.start (orderly : Orderly queue) (free : .finite queue.active < queue.concurrency)
    (found : queue.dequeue now = some (job, rest)) : Orderly (rest.start job) := by
  have taken : Taken queue now priorityOrder job rest := dequeueFrom_taken found
  have framed : rest = { queue with buckets := rest.buckets } := (dequeueFrom_some found).frame
  have running : rest.running = queue.running := by rw [framed]
  have deadLettering : rest.deadLettering = queue.deadLettering := by rw [framed]
  have active : rest.active = queue.active := by rw [framed]
  have concurrency : rest.concurrency = queue.concurrency := by rw [framed]
  constructor
  · simp only [PriorityJobQueue.start, List.length_append, List.length_singleton, running,
      deadLettering, active, orderly.active]
    push_cast
    ring
  · intro most reached
    simp only [PriorityJobQueue.start, active, concurrency] at reached ⊢
    exact lt_of_below free reached
  · exact taken.placed orderly.placed
  · intro other member
    have stays : other ∈ (queue.queued : Multiset (QueueJob τ)) := by
      rw [taken.queued]
      exact Multiset.mem_cons_of_mem member
    exact orderly.waiting other stays

/-- It leaves the queued jobs for the running ones, with one attempt more. -/
theorem Accounted.start (accounted : Accounted queue log)
    (free : .finite queue.active < queue.concurrency) (found : queue.dequeue now = some (job, rest))
    : Accounted (rest.start job)
        { log with started := log.started ++ [{ queue, now, job }] } := by
  obtain ⟨orderly, books, highest⟩ := accounted
  have taken : Taken queue now priorityOrder job rest := dequeueFrom_taken found
  have best := taken.highestAvailable orderly.placed
  have framed : rest = { queue with buckets := rest.buckets } := (dequeueFrom_some found).frame
  have running : rest.running = queue.running := by rw [framed]
  let others : Multiset (QueueJob τ) :=
    (rest.queued : Multiset (QueueJob τ)) + (queue.running : Multiset (QueueJob τ))
      + (log.done : Multiset (QueueJob τ)) + (log.deadLettered : Multiset (QueueJob τ))
  have before : jobs queue log = job ::ₘ others := by
    rw [jobs, taken.queued]
    simp only [Multiset.cons_add, others]
  have after : jobs (rest.start job) { log with started := log.started ++ [{ queue, now, job }] }
      = { job with attempts := job.attempts + 1 } ::ₘ others := by
    change (rest.queued : Multiset (QueueJob τ))
        + ((rest.running ++ [{ job with attempts := job.attempts + 1 }] : List _) : Multiset _)
        + (log.done : Multiset (QueueJob τ)) + (log.deadLettered : Multiset (QueueJob τ)) = _
    rw [running, ← Multiset.coe_add, Multiset.coe_singleton, ← Multiset.singleton_add]
    simp only [others]
    abel
  have told : ((QueueLog.startedJobs
      { log with started := log.started ++ [{ queue, now, job }] } : List _)
        : Multiset (QueueJob τ))
      = job.accepted ::ₘ log.startedJobs := by
    rw [QueueLog.startedJobs, List.map_append, ← Multiset.coe_add, add_comm]
    rfl
  refine ⟨orderly.start free found, ?_, ?_⟩
  · rw [before] at books
    rw [after, told]
    exact books.start (orderly.waiting job best.queued)
  · intro start member
    rcases List.mem_append.mp member with earlier | last
    · exact highest start earlier
    · rw [List.mem_singleton.mp last]
      exact best

/-- The loop keeps the accounts, by induction on the jobs that it may take. -/
theorem Accounted.pumpLoop (accounted : Accounted queue log) (count : Nat)
    : Accounted (queue.pumpLoop now count)
        { log with
          started := log.started ++ PriorityJobQueue.pumpLoopStarts now count queue } := by
  induction count generalizing queue log with
  | zero =>
      rw [PriorityJobQueue.pumpLoop, PriorityJobQueue.pumpLoopStarts, List.append_nil]
      exact accounted
  | succ count ih =>
      rw [PriorityJobQueue.pumpLoop, PriorityJobQueue.pumpLoopStarts]
      by_cases free : .finite queue.active < queue.concurrency
      · rw [if_pos free, if_pos free]
        cases found : queue.dequeue now with
        | none =>
            dsimp only
            rw [List.append_nil]
            exact accounted
        | some taken =>
            have next := ih (accounted.start free found)
            simp only [List.append_assoc, List.singleton_append] at next
            exact next
      · rw [if_neg free, if_neg free, List.append_nil]
        exact accounted

theorem Accounted.pump (accounted : Accounted queue log) (now : ℚ)
    : Accounted (queue.pump now) (log.pumped queue now) := by
  unfold PriorityJobQueue.pump QueueLog.pumped PriorityJobQueue.pumpStarts
  split
  · exact accounted.pumpLoop _
  · rw [List.append_nil]
    exact accounted

-----------------------------------------------------------------------------------------
-- The events
-----------------------------------------------------------------------------------------

/-- A queue with the same jobs and slots is as orderly, whatever its timer, handler and clock. -/
theorem Accounted.of_same (accounted : Accounted queue log) {after : PriorityJobQueue τ}
    (buckets : after.buckets = queue.buckets) (running : after.running = queue.running)
    (deadLettering : after.deadLettering = queue.deadLettering)
    (active : after.active = queue.active) (concurrency : after.concurrency = queue.concurrency)
    : Accounted after log := by
  cases after
  obtain rfl : _ = queue.buckets := buckets
  obtain rfl : _ = queue.running := running
  obtain rfl : _ = queue.deadLettering := deadLettering
  obtain rfl : _ = queue.active := active
  obtain rfl : _ = queue.concurrency := concurrency
  obtain ⟨⟨active, bounded, placed, waiting⟩, books, highest⟩ := accounted
  exact ⟨⟨active, bounded, placed, waiting⟩, books, highest⟩

theorem Orderly.push (orderly : Orderly queue) (mayRun : job.MayRun)
    : Orderly (queue.push job) := by
  refine ⟨orderly.active, orderly.bounded, placed_push orderly.placed job, ?_⟩
  intro other member
  rcases mem_queued_push.mp member with before | rfl
  · exact orderly.waiting other before
  · exact mayRun

theorem Orderly.withoutRunning (orderly : Orderly queue) {index : Nat}
    (found : queue.running[index]? = some job) : Orderly (queue.withoutRunning index) := by
  obtain ⟨bound, -⟩ := List.getElem?_eq_some_iff.mp found
  obtain ⟨active, bounded, placed, waiting⟩ := orderly
  refine ⟨?_, ?_, placed, waiting⟩
  · simp only [PriorityJobQueue.withoutRunning, List.length_eraseIdx_of_lt bound]
    omega
  · intro most reached
    have fewer := bounded most reached
    simp only [PriorityJobQueue.withoutRunning]
    omega

theorem Orderly.withoutDeadLettering (orderly : Orderly queue) {index : Nat}
    (found : queue.deadLettering[index]? = some job)
    : Orderly (queue.withoutDeadLettering index) := by
  obtain ⟨bound, -⟩ := List.getElem?_eq_some_iff.mp found
  obtain ⟨active, bounded, placed, waiting⟩ := orderly
  refine ⟨?_, ?_, placed, waiting⟩
  · simp only [PriorityJobQueue.withoutDeadLettering, List.length_eraseIdx_of_lt bound]
    omega
  · intro most reached
    have fewer := bounded most reached
    simp only [PriorityJobQueue.withoutDeadLettering]
    omega

/-- A pushed job is one more. -/
theorem jobs_push (queue : PriorityJobQueue τ) (log : QueueLog τ) (job : QueueJob τ)
    : jobs (queue.push job) log = job ::ₘ jobs queue log := by
  rw [jobs, queued_push]
  simp only [Multiset.cons_add]
  rfl

/-- A job that is no longer running is one less. -/
theorem jobs_withoutRunning {index : Nat} (found : queue.running[index]? = some job)
    : jobs queue log = job ::ₘ jobs (queue.withoutRunning index) log := by
  obtain ⟨bound, rfl⟩ := List.getElem?_eq_some_iff.mp found
  have erased : (queue.running : Multiset (QueueJob τ))
      = queue.running[index] ::ₘ (queue.running.eraseIdx index : Multiset (QueueJob τ)) :=
    (Multiset.coe_eq_coe.mpr (List.getElem_cons_eraseIdx_perm bound)).symm
  rw [jobs, erased]
  simp only [Multiset.add_cons, Multiset.cons_add]
  rfl

/-- An accepted job is queued. -/
theorem Accounted.accept (accounted : Accounted queue log) (new : job.accepted = job)
    : Accounted (queue.push job) { log with accepted := log.accepted ++ [job] } := by
  obtain ⟨orderly, books, highest⟩ := accounted
  have fresh : job.attempts = 0 := by
    rw [← new]
    rfl
  refine ⟨orderly.push (.inl fresh), ?_, highest⟩
  have listed : ((log.accepted ++ [job] : List _) : Multiset (QueueJob τ))
      = job ::ₘ (log.accepted : Multiset (QueueJob τ)) := by
    rw [← Multiset.coe_add, add_comm]
    rfl
  have after : jobs (queue.push job) { log with accepted := log.accepted ++ [job] }
      = job ::ₘ jobs queue log := jobs_push queue log job
  rw [listed, after]
  exact books.accept new

/-- A job that succeeds is done. -/
theorem Accounted.succeed (accounted : Accounted queue log) {index : Nat}
    (found : queue.running[index]? = some job)
    : Accounted (queue.withoutRunning index) { log with done := log.done ++ [job] } := by
  obtain ⟨orderly, books, highest⟩ := accounted
  refine ⟨orderly.withoutRunning found, ?_, highest⟩
  have same : jobs (queue.withoutRunning index) { log with done := log.done ++ [job] }
      = jobs queue log := by
    rw [jobs_withoutRunning found]
    simp only [jobs, ← Multiset.coe_add, Multiset.coe_singleton, ← Multiset.singleton_add]
    abel
  rw [same]
  exact books

theorem scheduleRetryPump_frame (queue : PriorityJobQueue τ) (now availableAt : ℚ)
    : ∃ retryTimer, queue.scheduleRetryPump now availableAt = { queue with retryTimer } := by
  unfold PriorityJobQueue.scheduleRetryPump
  split
  · exact ⟨queue.retryTimer, rfl⟩
  · exact ⟨_, rfl⟩

/-- A job that fails with an attempt left is queued again. -/
theorem Accounted.retry (accounted : Accounted queue log) {index : Nat}
    (found : queue.running[index]? = some job) (left : .finite job.attempts < job.maxAttempts)
    (now : ℚ) : Accounted (queue.retried now index job) log := by
  obtain ⟨orderly, books, highest⟩ := accounted
  have again : Accounted ((queue.withoutRunning index).push (queue.backedOff now job)) log := by
    refine ⟨(orderly.withoutRunning found).push (.inr left), ?_, highest⟩
    rw [jobs_withoutRunning found] at books
    rw [jobs_push]
    exact books.delay _
  obtain ⟨retryTimer, framed⟩ :=
    scheduleRetryPump_frame (queue.requeued now index job) now (queue.backedOff now job).availableAt
  unfold PriorityJobQueue.retried
  rw [framed]
  exact again.of_same rfl rfl rfl rfl rfl

/-- A job that fails without one is dead-lettered, and keeps its slot for that long. -/
theorem Accounted.deadLetter (accounted : Accounted queue log) {index : Nat}
    (found : queue.running[index]? = some job)
    : Accounted
        { queue with
          running := queue.running.eraseIdx index
          deadLettering := queue.deadLettering ++ [job] }
        { log with deadLettered := log.deadLettered ++ [job] } := by
  obtain ⟨bound, -⟩ := List.getElem?_eq_some_iff.mp found
  obtain ⟨⟨active, bounded, placed, waiting⟩, books, highest⟩ := accounted
  refine ⟨⟨?_, bounded, placed, waiting⟩, ?_, highest⟩
  · simp only [List.length_eraseIdx_of_lt bound, List.length_append, List.length_singleton]
    omega
  · rw [jobs_withoutRunning found] at books
    have same : jobs
        { queue with
          running := queue.running.eraseIdx index
          deadLettering := queue.deadLettering ++ [job] }
        { log with deadLettered := log.deadLettered ++ [job] }
        = job ::ₘ jobs (queue.withoutRunning index) log := by
      simp only [jobs, ← Multiset.coe_add, Multiset.coe_singleton, ← Multiset.singleton_add]
      change (queue.queued : Multiset (QueueJob τ)) + _ + _ + _
        = _ + ((queue.queued : Multiset (QueueJob τ)) + _ + _ + _)
      simp only [PriorityJobQueue.withoutRunning]
      abel
    rw [same]
    exact books

/-- Every event keeps the accounts. -/
theorem Accounted.next (accounted : Accounted queue log) (input : ℚ × QueueEvent τ)
    : Accounted (queue.next input) (log.record queue input) := by
  obtain ⟨now, event⟩ := input
  suffices handled : Accounted (queue.handle now event) (log.record queue (now, event)) from
    handled.of_same rfl rfl rfl rfl rfl
  cases event with
  | onProcess =>
      have registered : Accounted { queue with handler := true } log :=
        accounted.of_same rfl rfl rfl rfl rfl
      exact registered.pump now
  | enqueue payload priority id maxAttempts made =>
      simp only [PriorityJobQueue.handle, PriorityJobQueue.enqueue, QueueLog.record]
      by_cases full : queue.maxDepth ≤ .finite queue.depth
      · rw [if_pos full, if_pos full]
        exact accounted
      · rw [if_neg full, if_neg full]
        exact (accounted.accept rfl).pump now
  | succeed index =>
      simp only [PriorityJobQueue.handle, QueueLog.record]
      cases found : queue.running[index]? with
      | none => exact accounted
      | some job => exact (accounted.succeed found).pump now
  | fail index =>
      simp only [PriorityJobQueue.handle, QueueLog.record, PriorityJobQueue.fail]
      cases found : queue.running[index]? with
      | none => exact accounted
      | some job =>
          dsimp only
          by_cases left : .finite job.attempts < job.maxAttempts
          · rw [if_pos left, if_pos left]
            exact (accounted.retry found left now).pump now
          · rw [if_neg left, if_neg left]
            exact accounted.deadLetter found
  | deadLettered index =>
      simp only [PriorityJobQueue.handle, QueueLog.record]
      cases found : queue.deadLettering[index]? with
      | none => exact accounted
      | some job =>
          have settled : Accounted (queue.withoutDeadLettering index) log :=
            ⟨accounted.orderly.withoutDeadLettering found, accounted.books, accounted.highest⟩
          exact settled.pump now
  | retryTimer =>
      simp only [PriorityJobQueue.handle, QueueLog.record]
      cases queue.retryTimer with
      | none => exact accounted
      | some due =>
          have unarmed : Accounted { queue with retryTimer := none } log :=
            accounted.of_same rfl rfl rfl rfl rfl
          exact unarmed.pump now

/-- After every sequence of events, the accounts of the jobs are right, by run induction. -/
theorem jobAccounts_of_run (options : QueueOptions) (inputs : List (ℚ × QueueEvent τ))
    : let reached := Runs.run loggedStep (.new options, {}) inputs
      JobAccounts reached.1 reached.2 := by
  have initial : Accounted (.new options : PriorityJobQueue τ) {} := by
    refine ⟨⟨rfl, ?_, ?_, ?_⟩, ⟨rfl, rfl, ?_⟩, ?_⟩
    · exact fun most _ => Int.natCast_nonneg most
    all_goals simp [Placed, PriorityJobQueue.new, PriorityJobQueue.queued, jobs]
  let Kept (state : PriorityJobQueue τ × QueueLog τ) : Prop := Accounted state.1 state.2
  have kept : ∀ state input, Kept state → Kept (loggedStep state input) :=
    fun state input accounted => accounted.next input
  have reached : Kept (Runs.run loggedStep (.new options, {}) inputs) :=
    Runs.run_invariant kept inputs initial
  exact reached.jobAccounts

/-- With a concurrency of one and a half, two jobs run at once; and a job that may be run one and a
half times is run twice.
-/
theorem fractional_limits_exceeded
    : let crowded :=
        Runs.run loggedStep (.new { concurrency := some (.finite (3 / 2)) }, {})
          [(0, .onProcess), (0, JobQueue.job "a"), (0, JobQueue.job "b")]
      let repeated :=
        Runs.run loggedStep (.new {}, {})
          [(0, .onProcess), (0, .enqueue "a" .normal (some "a") (some (.finite (3 / 2))) "a"),
            (0, .fail 0), (100, .retryTimer)]
      crowded.1.concurrency < .finite crowded.1.running.length
        ∧ repeated.2.started.map (fun start => start.job.maxAttempts)
          = [.finite (3 / 2), .finite (3 / 2)] := by
  decide +kernel

end CrashWave.JobQueue
