import CrashWave.App.Composition
import CrashWave.Core.DryRun.VirtualEntries
import CrashWave.Core.RecoveryManager
import CrashWave.Core.SessionSupervisor
import CrashWave.Prediction.EntryVerdicts

/-! The composed application as a step relation: operator commands, round events, and the
continuations that run when an awaited call is settled. Between two inputs nothing runs, so
every order of inputs is an interleaving of the handlers.
-/

namespace CrashWave.App

open CrashWave.Betting CrashWave.Core CrashWave.DryRun CrashWave.Prediction JavaScript

/-- A handler that waits, by what it does next. -/
inductive Task where
  /-- `pauseSystem` or `stopSystem` after `dryRunController.stop()`; for an emergency stop it
  is the pause before the stop. -/
  | halting (emergency : Bool)
  | stopping (point : SessionSupervisor.StopPoint) (emergency : Bool)
  /-- An emergency stop after its pause. -/
  | afterPause
  | starting (authOptional : Bool) (point : SessionSupervisor.StartPoint)
  /-- `resumeSystem` after `sessionSupervisor.start()`. -/
  | resuming
  | loggingIn (keepsPhase : Bool) (point : SessionSupervisor.LoginPoint)
  | buildingRisk (roundId : String)
  | dryRunDeciding (roundId : String)
  | liveDeciding (entry : LiveEntry)
  | placing (request : LiveBetRequest)
  deriving DecidableEq

/-- What handlers do to the outside. -/
inductive Action where
  | placeLiveBet (request : LiveBetRequest)
  | openTrade (trade : VirtualTrade)
  | cashOut (roundId : String)
  deriving DecidableEq

/-- The operator commands that act on the session or on entries. -/
inductive OperatorCommand where
  | pause (reason : String)
  | resume
  | stop
  | emergencyStop (reason : String)
  | login (parts : BrowserParts)
  | mode (mode : SystemMode)
  deriving DecidableEq

/-- What an awaited call yields: each continuation reads what it awaited. -/
structure Answer where
  browser : BrowserAnswer := {}
  riskBuilt : Bool := true
  decision : Option EntryDecisionResult := none
  today : Int := 0
  newId : String := ""
  placed : Bool := false

/-- What happens next: a command, an event, or an awaited call that is settled. -/
inductive Input where
  | command (command : OperatorCommand)
  | roundStarted (roundId : String)
  | roundTick (roundId : String) (multiplier : Number)
  | roundCrashed (payload : CrashPayload)
  | settle (index : Nat) (answer : Answer)

/-- The application, with the handlers that wait. -/
structure Application where
  env : ExecutionEnv
  runtime : Runtime
  recovery : RecoveryManager := {}
  dryRun : DryRunController
  supervisor : SessionSupervisor := {}
  liveBetExecutor : Bool := true
  liveCashOutExecutor : Bool := true
  openLiveBets : List String := []
  tasks : List Task := []

namespace Application

/-- The application before its event handlers are wired: the dry run is started, and a
recovery that leaves the manager halted does not keep the start from going on.
-/
def boot (app : Application) (answers : RecoveryAnswers) : Application :=
  { app with dryRun := app.dryRun.start, recovery := app.recovery.runRecovery answers }

/-- Leaves a task waiting. -/
def await (app : Application) (task : Task) : Application :=
  { app with tasks := app.tasks ++ [task] }

/-- What the live bridge reads. -/
def liveDeps (app : Application) : LiveBridgeDeps where
  env := app.env
  config := app.runtime.config
  isAuthenticated := app.supervisor.authenticated
  isObserving := app.supervisor.isObserving
  liveBetExecutor := app.liveBetExecutor
  liveCashOutExecutor := app.liveCashOutExecutor

/-- The session needs no authentication in the configured mode. -/
def authOptional (app : Application) : Bool :=
  let mode := bridgeMode app.runtime.config "dry-run"
  mode = "dry-run" || mode = "observe-only"

-----------------------------------------------------------------------------------------
-- Operator commands
-----------------------------------------------------------------------------------------

/-- `pauseSystem` up to its first await. -/
def pauseSystem (app : Application) (reason : String) (emergency : Bool) : Application :=
  { app with runtime := app.runtime.pauseSystem reason, dryRun := app.dryRun.stop }.await
    (.halting emergency)

/-- `stopSystem` up to its first await. -/
def stopSystem (app : Application) : Application :=
  { app with runtime := app.runtime.stopSystem, dryRun := app.dryRun.stop }.await
    (.halting false)

/-- Goes on with `sessionSupervisor.start()` inside `resumeSystem`. -/
def progressStart (app : Application) (authOptional : Bool)
    (segment : SessionSupervisor × Progress SessionSupervisor.StartPoint) : Application :=
  let started := { app with supervisor := segment.1 }
  match segment.2 with
  | .awaits point => started.await (.starting authOptional point)
  | .finished => started.await .resuming

/-- `resumeSystem` up to its first await. -/
def resumeSystem (app : Application) : Application :=
  let resumed := { app with runtime := app.runtime.resumeSystem }
  resumed.progressStart app.authOptional app.supervisor.start

/-- Goes on with `sessionSupervisor.loginWithCredentials()`. -/
def progressLogin (app : Application) (keepsPhase : Bool)
    (segment : SessionSupervisor × Progress SessionSupervisor.LoginPoint) : Application :=
  let moved := { app with supervisor := segment.1 }
  match segment.2 with
  | .awaits point => moved.await (.loggingIn keepsPhase point)
  | .finished => moved

/-- A login up to its first await. -/
def login (app : Application) (parts : BrowserParts) : Application :=
  let keepsPhase :=
    bridgeMode app.runtime.config "dry-run" = "dry-run" && app.supervisor.observing
  app.progressLogin keepsPhase (app.supervisor.loginWithCredentials parts)

/-- A command up to its first await. -/
def handle (app : Application) : OperatorCommand → Application
  | .pause reason => app.pauseSystem reason false
  | .resume => app.resumeSystem
  | .stop => app.stopSystem
  | .emergencyStop reason => app.pauseSystem reason true
  | .login parts => app.login parts
  | .mode mode => { app with runtime := app.runtime.setSystemMode (.mode mode) }

-----------------------------------------------------------------------------------------
-- Round events
-----------------------------------------------------------------------------------------

/-- The dry-run bridge at the start of a round. -/
def startDryRound (app : Application) (roundId : String) : Application :=
  if dryRunOpen app.runtime.config app.dryRun then
    { app with dryRun := app.dryRun.recordPrediction }.await (.buildingRisk roundId)
  else app

/-- The live bridge at the start of a round. -/
def startLiveRound (app : Application) (roundId : String) : Application :=
  match onRoundStartedForLive app.liveDeps roundId with
  | none => app
  | some entry => app.await (.liveDeciding entry)

/-- A round starts: the dry-run bridge is told first. -/
def startRound (app : Application) (roundId : String) : Application :=
  if roundId = "" then app else (app.startDryRound roundId).startLiveRound roundId

/-- A round crashes. -/
def crashRound (app : Application) (payload : CrashPayload) : Application × List Action :=
  let resolved := { app with dryRun := onRoundCrashedForDryRun app.dryRun payload }
  let (openLiveBets, requested) :=
    onRoundCrashedForLive app.liveDeps app.openLiveBets payload
  ({ resolved with openLiveBets := openLiveBets }, (requested.map Action.cashOut).toList)

-----------------------------------------------------------------------------------------
-- Continuations
-----------------------------------------------------------------------------------------

/-- Offers the signal of a decision to the dry-run controller. -/
def simulate (app : Application) (roundId : String) (answer : Answer)
    : Application × List Action :=
  match answer.decision.bind (offeredSignal app.runtime.config roundId) with
  | none => (app, [])
  | some signal =>
      let (dryRun, trade) :=
        app.dryRun.evaluateAndSimulate answer.today answer.newId signal
      ({ app with dryRun := dryRun }, (trade.map Action.openTrade).toList)

/-- Places the live bet that a decision approves; nothing is checked again before it. -/
def placeLive (app : Application) (entry : LiveEntry) (answer : Answer)
    : Application × List Action :=
  match answer.decision.bind entry.decided with
  | none => (app, [])
  | some request => (app.await (.placing request), [.placeLiveBet request])

/-- Runs a task that has waited. -/
def resumeTask (app : Application) (answer : Answer) : Task → Application × List Action
  | .halting emergency =>
      let (supervisor, progress) := app.supervisor.stop
      let stopping := { app with supervisor := supervisor }
      match progress with
      | .awaits point => (stopping.await (.stopping point emergency), [])
      | .finished => (stopping, [])
  | .stopping point emergency =>
      let (supervisor, progress) := app.supervisor.resumeStop point
      let stopping := { app with supervisor := supervisor }
      match progress with
      | .awaits point => (stopping.await (.stopping point emergency), [])
      | .finished => (if emergency then stopping.await .afterPause else stopping, [])
  | .afterPause => (app.stopSystem, [])
  | .starting authOptional point =>
      let segment := app.supervisor.resumeStart authOptional point answer.browser
      (app.progressStart authOptional segment, [])
  | .resuming => ({ app with dryRun := app.dryRun.start }, [])
  | .loggingIn keepsPhase point =>
      let segment := app.supervisor.resumeLogin keepsPhase point answer.browser
      (app.progressLogin keepsPhase segment, [])
  | .buildingRisk roundId =>
      (if answer.riskBuilt then app.await (.dryRunDeciding roundId) else app, [])
  | .dryRunDeciding roundId => app.simulate roundId answer
  | .liveDeciding entry => app.placeLive entry answer
  | .placing request =>
      (if answer.placed then { app with openLiveBets := request.roundId :: app.openLiveBets }
        else app,
        [])

/-- One input, with the actions it brings about. -/
def step (app : Application) : Input → Application × List Action
  | .command command => (app.handle command, [])
  | .roundStarted roundId => (app.startRound roundId, [])
  | .roundTick _ _ => (app, [])
  | .roundCrashed payload => app.crashRound payload
  | .settle index answer =>
      match app.tasks[index]? with
      | none => (app, [])
      | some task =>
          { app with tasks := app.tasks.eraseIdx index }.resumeTask answer task

/-- The application after an input. -/
def next (app : Application) (input : Input) : Application := (app.step input).1

-----------------------------------------------------------------------------------------
-- Where actions come from
-----------------------------------------------------------------------------------------

/-- The cause of an action: a running dry run opens a trade, an awaited live decision places
a bet, and a crash requests a cash-out.
-/
inductive Causes (app : Application) : Input → Action → Prop where
  | opensTrade {index : Nat} {answer : Answer} {trade : VirtualTrade}
      (running : app.dryRun.running = true)
      : app.Causes (.settle index answer) (.openTrade trade)
  | placesBet {index : Nat} {answer : Answer} {entry : LiveEntry} {request : LiveBetRequest}
      (waiting : app.tasks[index]? = some (.liveDeciding entry))
      : app.Causes (.settle index answer) (.placeLiveBet request)
  | cashesOut {payload : CrashPayload} {roundId : String}
      (requested : .cashOut roundId ∈ (app.crashRound payload).2)
      : app.Causes (.roundCrashed payload) (.cashOut roundId)

/-- A signal opens a trade only in a running dry run. -/
theorem trade_of_simulate {app : Application} {roundId : String} {answer : Answer}
    {action : Action} (member : action ∈ (app.simulate roundId answer).2)
    : app.dryRun.running = true ∧ ∃ trade, action = .openTrade trade := by
  unfold simulate at member
  split at member
  · cases member
  obtain ⟨trade, opened, rfl⟩ : ∃ trade, _ ∧ Action.openTrade trade = action := by
    simpa using member
  refine ⟨?_, trade, rfl⟩
  by_contra stopped
  rw [DryRunController.evaluateAndSimulate_stopped (by simpa using stopped)] at opened
  cases opened

theorem bet_of_placeLive {app : Application} {entry : LiveEntry} {answer : Answer}
    {action : Action} (member : action ∈ (app.placeLive entry answer).2)
    : ∃ request, action = .placeLiveBet request := by
  unfold placeLive at member
  split at member
  · cases member
  · next request _ => exact ⟨request, List.mem_singleton.mp member⟩

/-- Every action of a step has its cause, by the tasks a step can resume. -/
theorem causes_of_step {app : Application} {input : Input} {action : Action}
    (member : action ∈ (app.step input).2) : app.Causes input action := by
  cases input with
  | roundCrashed payload =>
      obtain ⟨roundId, -, rfl⟩ : ∃ roundId, _ ∧ Action.cashOut roundId = action := by
        simpa [step, crashRound] using member
      exact .cashesOut member
  | settle index answer =>
      unfold step at member
      cases found : app.tasks[index]? with
      | none =>
          simp only [found] at member
          cases member
      | some task =>
          simp only [found] at member
          cases task with
          | dryRunDeciding roundId =>
              obtain ⟨running, trade, rfl⟩ := trade_of_simulate member
              exact .opensTrade running
          | liveDeciding entry =>
              obtain ⟨request, rfl⟩ := bet_of_placeLive member
              exact .placesBet found
          | stopping point emergency =>
              simp only [resumeTask] at member
              split at member <;> cases member
          | _ => cases member
  | _ => cases member

end Application

-----------------------------------------------------------------------------------------
-- A live session
-----------------------------------------------------------------------------------------

/-- A configuration with this mode. -/
def modeConfig (mode : SystemMode) : Value :=
  .object [("system", .object [("mode", .string mode.text)])]

/-- A live session that observes the game, with real execution switched on. -/
def liveSession : Application where
  env := { allowRealExecution := some "true" }
  runtime := { currentMode := .live, config := modeConfig .live }
  dryRun := { ledger := .new 10000 }
  supervisor :=
    { phase := .observing
      browserManager := true
      browserSession := true
      browserLaunched := true
      authenticated := true
      gameLoaded := true
      observing := true }

/-- An approved decision with a signal. -/
def approvedAnswer : Answer where
  decision := evaluateEntry {} (warmEnvironment (7 / 10)) (openContext .dryRun)

end CrashWave.App
