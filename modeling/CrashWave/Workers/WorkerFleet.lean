import CrashWave.JavaScript.Map
import CrashWave.Runs.Basic
import CrashWave.Workers.BaseWorker

/-! The fleet of workers under supervision. Every start, stop and restart that waits goes on at
any later time, also after a stop of the whole fleet.
-/

namespace CrashWave.Workers

open JavaScript Runs

structure WorkerFleet where
  workers : Map String BaseWorker := ∅
  /-- The workers whose restart timer has not fired. -/
  restartTimers : List String := []
  supervisionTimer : Bool := false
  supervising : Bool := false

namespace WorkerFleet

/-- `register`, or the text of the error that it throws. -/
def register (fleet : WorkerFleet) (config : WorkerConfig) : Except String WorkerFleet :=
  if fleet.workers.has config.name then
    .error s!"Worker already registered: {config.name}"
  else .ok { fleet with workers := fleet.workers.set config.name (.create config) }

def startSupervision (fleet : WorkerFleet) : WorkerFleet :=
  if fleet.supervising then fleet
  else { fleet with supervising := true, supervisionTimer := true }

/-- The workers that a pass of `supervise` sets a restart timer for. -/
def failedWorkers (fleet : WorkerFleet) : List String :=
  (fleet.workers.entries.filter fun entry =>
    entry.2.status = .failed && entry.2.config.autoRestart
    && !fleet.restartTimers.contains entry.1).map Prod.fst

def supervise (fleet : WorkerFleet) : WorkerFleet :=
  if fleet.supervising then
    { fleet with restartTimers := fleet.restartTimers ++ fleet.failedWorkers }
  else fleet

def modify (fleet : WorkerFleet) (name : String) (change : BaseWorker → BaseWorker)
    : WorkerFleet :=
  { fleet with workers := fleet.workers.modify name change }

end WorkerFleet

/-- Where a `stop` of a worker waits: for `onStop`, for the next look at the queue, and for
`drain` to return.
-/
inductive WorkerStopPoint where
  | onStop
  | draining
  | drained
  deriving DecidableEq

/-- Who called the `start` of a worker. -/
inductive StartCaller where
  | startAll (call : Nat)
  | restart
  deriving DecidableEq

/-- Who called the `stop` of a worker. A stop of the fleet is final as long as no start of the
fleet is requested after it.
-/
inductive StopCaller where
  | stopAll (call : Nat) (final : Bool)
  | restart
  deriving DecidableEq

inductive FleetTask where
  | starting (name : String) (caller : StartCaller)
  | stopping (name : String) (point : WorkerStopPoint) (caller : StopCaller)
  /-- A restart whose `stop` has settled. -/
  | restarting (name : String)
  | startingAll (call : Nat)
  | stoppingAll (call : Nat) (final : Bool)
  deriving DecidableEq

/-- The fleet and what waits, and whether a stop of the fleet has returned with no start of it
requested since it was called.
-/
structure FleetRun where
  fleet : WorkerFleet := {}
  tasks : List FleetTask := []
  calls : Nat := 0
  returned : Bool := false

inductive FleetEvent where
  | register (config : WorkerConfig)
  | startAll
  | stopAll
  | superviseTick
  | timerFires (name : String)
  | proceed (index : Nat) (threw : Bool)
  | process (name : String)
  | jobSucceeds (name : String)
  | jobFails (name : String)

/-- A start that is requested makes every stop of the fleet that waits stop being final. -/
def FleetTask.superseded : FleetTask → FleetTask
  | .stopping name point (.stopAll call _) => .stopping name point (.stopAll call false)
  | .stoppingAll call _ => .stoppingAll call false
  | task => task

/-- Whether the task is a `start` that the call of `startAll` waits for. -/
def FleetTask.startsFor (call : Nat) : FleetTask → Bool
  | .starting _ caller => caller = .startAll call
  | _ => false

/-- Whether the task is a `stop` that the call of `stopAll` waits for. -/
def FleetTask.stopsFor (call : Nat) : FleetTask → Bool
  | .stopping _ _ (.stopAll other _) => other = call
  | _ => false

namespace FleetRun

/-- `startAll` up to `await Promise.allSettled(..)`. -/
def startAll (run : FleetRun) : FleetRun :=
  let waiting := run.fleet.workers.entries.filter fun entry => entry.2.start.2
  let starts := waiting.map fun entry => FleetTask.starting entry.1 (.startAll run.calls)
  {
    fleet := { run.fleet with workers := run.fleet.workers.mapValues fun worker => worker.start.1 }
    tasks := run.tasks.map .superseded ++ starts ++ [.startingAll run.calls]
    calls := run.calls + 1
    returned := false
  }

/-- `stopAll` up to `await Promise.allSettled(..)`. -/
def stopAll (run : FleetRun) : FleetRun :=
  let waiting := run.fleet.workers.entries.reverse.filter fun entry => entry.2.stop.2
  let stops := waiting.map fun entry =>
    FleetTask.stopping entry.1 .onStop (.stopAll run.calls true)
  {
    fleet := {
      workers := run.fleet.workers.mapValues fun worker => worker.stop.1
      restartTimers := []
      supervisionTimer := false
      supervising := false
    }
    tasks := run.tasks ++ stops ++ [.stoppingAll run.calls true]
    calls := run.calls + 1
    returned := run.returned
  }

/-- The callback of a restart timer up to the settling of `worker.stop()`. -/
def timerFires (run : FleetRun) (name : String) : FleetRun :=
  if run.fleet.restartTimers.contains name then
    match run.fleet.workers.get name with
    | none => run
    | some worker =>
        let fleet := { run.fleet with
          restartTimers := run.fleet.restartTimers.filter (· ≠ name) }
        let task := if worker.stop.2 then .stopping name .onStop .restart else .restarting name
        { run with
          fleet := fleet.modify name fun worker => worker.stop.1
          tasks := run.tasks ++ [task] }
  else run

/-- The end of a worker's `stop`: a restart goes on with it. -/
def finishStop (run : FleetRun) (index : Nat) (name : String) : StopCaller → FleetRun
  | .stopAll _ _ =>
      { run with
        fleet := run.fleet.modify name .stopped
        tasks := run.tasks.eraseIdx index }
  | .restart =>
      { run with
        fleet := run.fleet.modify name .stopped
        tasks := run.tasks.set index (.restarting name) }

/-- `drain` looks at the queue and waits again, or returns. -/
def drainStep (run : FleetRun) (index : Nat) (name : String) (caller : StopCaller) : FleetRun :=
  match run.fleet.workers.get name with
  | none => run
  | some worker =>
      let point := if worker.drain.2 then .drained else .draining
      { run with
        fleet := run.fleet.modify name fun worker => worker.drain.1
        tasks := run.tasks.set index (.stopping name point caller) }

/-- A task goes on; `threw` says whether the awaited hook threw. -/
def proceed (run : FleetRun) (index : Nat) (threw : Bool) : FleetTask → FleetRun
  | .starting name _ =>
      { run with
        fleet := run.fleet.modify name (·.started threw)
        tasks := run.tasks.eraseIdx index }
  | .stopping name point caller =>
      match point with
      | .onStop =>
          if threw then run.finishStop index name caller
          else run.drainStep index name caller
      | .draining => run.drainStep index name caller
      | .drained => run.finishStop index name caller
  | .restarting name =>
      match run.fleet.workers.get name with
      | none => run
      | some worker =>
          let fleet := run.fleet.modify name fun worker => worker.markRestarted.start.1
          if worker.start.2 then
            { run with fleet, tasks := run.tasks.set index (.starting name .restart) }
          else { run with fleet, tasks := run.tasks.eraseIdx index }
  | .startingAll call =>
      if run.tasks.any (FleetTask.startsFor call) then run
      else
        { run with
          fleet := run.fleet.startSupervision
          tasks := run.tasks.eraseIdx index }
  | .stoppingAll call final =>
      if run.tasks.any (FleetTask.stopsFor call) then run
      else
        { run with
          tasks := run.tasks.eraseIdx index
          returned := run.returned || final }

def next (run : FleetRun) : FleetEvent → FleetRun
  | .register config =>
      match run.fleet.register config with
      | .ok fleet => { run with fleet }
      | .error _ => run
  | .startAll => run.startAll
  | .stopAll => run.stopAll
  | .superviseTick =>
      if run.fleet.supervisionTimer then { run with fleet := run.fleet.supervise } else run
  | .timerFires name => run.timerFires name
  | .proceed index threw =>
      match run.tasks[index]? with
      | none => run
      | some task => run.proceed index threw task
  | .process name => { run with fleet := run.fleet.modify name .processed }
  | .jobSucceeds name => { run with fleet := run.fleet.modify name (·.jobEnds .jobSucceeded) }
  | .jobFails name => { run with fleet := run.fleet.modify name (·.jobEnds .jobFailed) }

end FleetRun

end CrashWave.Workers
