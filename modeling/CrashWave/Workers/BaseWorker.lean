import CrashWave.JavaScript.Number

/-! The worker primitive: a queue of jobs with bounded concurrency, and the segments of its start
and stop between the awaits. Of a job only its place counts: queued or active.
-/

namespace CrashWave.Workers

open JavaScript

inductive WorkerStatus where
  | starting
  | running
  | degraded
  | stopping
  | stopped
  | failed
  deriving DecidableEq

structure WorkerConfig where
  name : String
  concurrency : Number := 1
  maxConsecutiveErrors : Number := 5
  autoRestart : Bool := true
  deriving DecidableEq

structure BaseWorker where
  config : WorkerConfig
  status : WorkerStatus := .stopped
  processedCount : Nat := 0
  errorCount : Nat := 0
  consecutiveErrors : Nat := 0
  restartCount : Nat := 0
  heartbeatTimer : Bool := false
  running : Bool := false
  accepting : Bool := false
  active : Nat := 0
  pending : Nat := 0
  deriving DecidableEq

namespace BaseWorker

/-- The constructor. -/
def create (config : WorkerConfig) : BaseWorker :=
  { config := { config with concurrency := Number.max 1 config.concurrency } }

/-- `start` up to `await this.onStart()`; whether it gets there. -/
def start (worker : BaseWorker) : BaseWorker × Bool :=
  if worker.running then (worker, false) else ({ worker with status := .starting }, true)

/-- `start` from the answer of `onStart` on. -/
def started (worker : BaseWorker) (threw : Bool) : BaseWorker :=
  if threw then { worker with status := .failed, running := false }
  else
    { worker with
      running := true
      accepting := true
      status := .running
      heartbeatTimer := true }

/-- `stop` up to `await this.onStop()`; whether it gets there. -/
def stop (worker : BaseWorker) : BaseWorker × Bool :=
  if !worker.running && worker.status = .stopped then (worker, false)
  else
    ({ worker with accepting := false, status := .stopping, heartbeatTimer := false }, true)

/-- One look of `drain` at the queue; whether there is nothing left to wait for. A worker that is
not running rejects what is queued.
-/
def drain (worker : BaseWorker) : BaseWorker × Bool :=
  if worker.active > 0 || worker.pending > 0 then
    if worker.pending > 0 && !worker.running then ({ worker with pending := 0 }, false)
    else (worker, false)
  else (worker, true)

/-- The end of `stop`, also where `onStop` throws. -/
def stopped (worker : BaseWorker) : BaseWorker :=
  { worker with running := false, status := .stopped }

/-- The loop of `pump`: active and queued jobs, by recursion on the queue. -/
def pumpJobs (config : WorkerConfig) (running : Bool) (active : Nat) : Nat → Nat × Nat
  | 0 => (active, 0)
  | pending + 1 =>
      if .finite active < config.concurrency ∧ running = true then
        pumpJobs config running (active + 1) pending
      else (active, pending + 1)

def pump (worker : BaseWorker) : BaseWorker :=
  let (active, pending) := pumpJobs worker.config worker.running worker.active worker.pending
  { worker with active, pending }

/-- `process` up to its promise, or the text of the error that it throws. -/
def process (worker : BaseWorker) : Except String BaseWorker :=
  if !worker.running || !worker.accepting || worker.status = .failed then
    .error s!"Worker {worker.config.name} is not accepting work"
  else
    .ok { worker with pending := worker.pending + 1 }.pump

/-- The end of `run` for a job that `handle` did. -/
def jobSucceeded (worker : BaseWorker) : BaseWorker :=
  { worker with
    processedCount := worker.processedCount + 1
    consecutiveErrors := 0
    active := worker.active - 1 }.pump

/-- One more error reaches the limit. -/
def reachesLimit (worker : BaseWorker) : Bool :=
  decide (worker.config.maxConsecutiveErrors ≤ .finite (worker.consecutiveErrors + 1 : Nat))

/-- The end of `run` for a job at which `handle` threw. -/
def jobFailed (worker : BaseWorker) : BaseWorker :=
  { worker with
    errorCount := worker.errorCount + 1
    consecutiveErrors := worker.consecutiveErrors + 1
    status := if worker.reachesLimit then .failed else worker.status
    active := worker.active - 1 }.pump

/-- The worker after a call of `process`. -/
def processed (worker : BaseWorker) : BaseWorker :=
  match worker.process with
  | .ok queued => queued
  | .error _ => worker

/-- A job ends, if the worker has one at work. -/
def jobEnds (worker : BaseWorker) (change : BaseWorker → BaseWorker) : BaseWorker :=
  if worker.active > 0 then change worker else worker

def markRestarted (worker : BaseWorker) : BaseWorker :=
  { worker with restartCount := worker.restartCount + 1 }

/-- The worker is stopped and does not run. -/
def AtRest (worker : BaseWorker) : Prop :=
  worker.status = .stopped ∧ worker.running = false

instance (worker : BaseWorker) : Decidable worker.AtRest :=
  inferInstanceAs (Decidable (_ ∧ _))

-----------------------------------------------------------------------------------------
-- What the segments do to a worker at rest
-----------------------------------------------------------------------------------------

variable {worker : BaseWorker}

@[simp] theorem create_atRest (config : WorkerConfig) : (create config).AtRest := ⟨rfl, rfl⟩

@[simp] theorem stopped_atRest : worker.stopped.AtRest := ⟨rfl, rfl⟩

theorem started_restless (threw : Bool) : ¬ (worker.started threw).AtRest := by
  cases threw <;> simp [AtRest, started]

/-- A stop of a worker at rest returns at once. -/
theorem stop_of_atRest (rest : worker.AtRest) : worker.stop = (worker, false) := by
  simp [stop, rest.1, rest.2]

/-- A stop that returns at once finds the worker at rest. -/
theorem atRest_of_stop (returns : worker.stop.2 = false) : worker.stop.1.AtRest := by
  unfold stop at returns ⊢
  split at returns
  · next rest =>
      have both : worker.running = false ∧ worker.status = .stopped := by simpa using rest
      rw [if_pos rest]
      exact both.symm
  · cases returns

/-- A start of a worker at rest goes on to its first await. -/
theorem start_of_atRest (rest : worker.AtRest) : ¬ worker.start.1.AtRest := by
  simp [start, rest.2, AtRest]

@[simp] theorem pump_atRest_iff : worker.pump.AtRest ↔ worker.AtRest := Iff.rfl

theorem drain_atRest (rest : worker.AtRest) : worker.drain.1.AtRest := by
  unfold drain
  split
  · split <;> exact rest
  · exact rest

theorem processed_atRest (rest : worker.AtRest) : worker.processed.AtRest := by
  have refused : worker.process
      = .error s!"Worker {worker.config.name} is not accepting work" := by
    rw [process, if_pos (by simp [rest.2])]
  rw [processed, refused]
  exact rest

theorem jobEnds_jobSucceeded_atRest (rest : worker.AtRest)
    : (worker.jobEnds jobSucceeded).AtRest := by
  unfold jobEnds
  split <;> exact rest

/-- A job that fails leaves a worker at rest exactly when it is none or does not reach the
limit.
-/
theorem jobEnds_jobFailed_atRest_iff (rest : worker.AtRest)
    : (worker.jobEnds jobFailed).AtRest
      ↔ (worker.active > 0 → worker.reachesLimit = false) := by
  unfold jobEnds
  split
  · next some =>
      obtain ⟨status, running⟩ := rest
      rw [jobFailed, pump_atRest_iff]
      cases limit : worker.reachesLimit <;> simp [AtRest, status, running, some]
  · next none => exact iff_of_true rest fun some => absurd some none

end BaseWorker

end CrashWave.Workers
