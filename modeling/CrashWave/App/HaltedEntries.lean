import CrashWave.App.Orchestration
import CrashWave.Runs.Basic

/-! Entries while the system is halted: what a halt stops, and what gets past it. -/

namespace CrashWave.App

open CrashWave.Betting CrashWave.Core CrashWave.DryRun CrashWave.Prediction JavaScript Runs

-----------------------------------------------------------------------------------------
-- The law, and the condition under which it holds
-----------------------------------------------------------------------------------------

/-- The action enters a round: with a live bet, or with a virtual trade. -/
def Action.isEntry : Action → Bool
  | .placeLiveBet _ | .openTrade _ => true
  | .cashOut _ => false

/-- The task waits for a live decision. -/
def Task.awaitsLiveDecision : Task → Bool
  | .liveDeciding _ => true
  | _ => false

namespace Application

/-- The input enters no round unless neither the runtime nor the recovery is halted. -/
def NoEntryWhileHalted (app : Application) (input : Input) : Prop :=
  ∀ action ∈ (app.step input).2, action.isEntry = true
    → app.runtime.halted = false ∧ app.recovery.isHalted = false

instance (app : Application) (input : Input) : Decidable (app.NoEntryWhileHalted input) :=
  inferInstanceAs (Decidable (∀ action ∈ (app.step input).2, action.isEntry = true
    → app.runtime.halted = false ∧ app.recovery.isHalted = false))

/-- The input opens a round to the live bridge. -/
def opensLiveRound (app : Application) : Input → Bool
  | .roundStarted _ => app.liveDeps.entryOpen
  | _ => false

/-- The input halts the runtime: a halting command, or the second half of an emergency stop.
-/
def haltsNow (app : Application) : Input → Bool
  | .command (.pause _) | .command .stop | .command (.emergencyStop _) => true
  | .settle index _ => app.tasks[index]? = some .afterPause
  | _ => false

/-- The input ends a resume, which restarts the dry run. -/
def endsResume (app : Application) : Input → Bool
  | .settle index _ => app.tasks[index]? = some .resuming
  | _ => false

/-- A live decision is awaited. -/
def awaitsLiveDecision (app : Application) : Bool := app.tasks.any Task.awaitsLiveDecision

/-- The input respects the halt: no recovery is halted, no round opens to the live bridge
while the runtime is halted, no halt comes over an awaited live decision, and no resume ends
in a halted runtime.
-/
structure RespectsHalt (app : Application) (input : Input) : Prop where
  recovered : app.recovery.isHalted = false
  noRound : app.opensLiveRound input = true → app.runtime.halted = false
  noDecision : app.haltsNow input = true → app.awaitsLiveDecision = false
  noRestart : app.endsResume input = true → app.runtime.halted = false

instance (app : Application) (input : Input) : Decidable (app.RespectsHalt input) :=
  decidable_of_iff
    (app.recovery.isHalted = false
      ∧ (app.opensLiveRound input = true → app.runtime.halted = false)
      ∧ (app.haltsNow input = true → app.awaitsLiveDecision = false)
      ∧ (app.endsResume input = true → app.runtime.halted = false))
    ⟨fun ⟨recovered, noRound, noDecision, noRestart⟩ =>
        ⟨recovered, noRound, noDecision, noRestart⟩,
      fun ⟨recovered, noRound, noDecision, noRestart⟩ =>
        ⟨recovered, noRound, noDecision, noRestart⟩⟩

-----------------------------------------------------------------------------------------
-- What a segment keeps
-----------------------------------------------------------------------------------------

/-- Nothing has been added that could enter a round: the runtime is not newly halted, the
dry run runs as before, and no live decision is newly awaited.
-/
structure EntriesKept (app after : Application) : Prop where
  halted : after.runtime.halted = true → app.runtime.halted = true
  running : after.dryRun.running = app.dryRun.running
  deciding : after.awaitsLiveDecision = true → app.awaitsLiveDecision = true

theorem EntriesKept.trans {app middle after : Application} (first : EntriesKept app middle)
    (second : EntriesKept middle after) : EntriesKept app after where
  halted halted := first.halted (second.halted halted)
  running := second.running.trans first.running
  deciding awaited := first.deciding (second.deciding awaited)

theorem entriesKept_of_eq {app after : Application} (runtime : after.runtime = app.runtime)
    (dryRun : after.dryRun.running = app.dryRun.running) (tasks : after.tasks = app.tasks)
    : EntriesKept app after where
  halted halted := by rwa [runtime] at halted
  running := dryRun
  deciding awaited := by rwa [awaitsLiveDecision, tasks] at awaited

theorem EntriesKept.await {app after : Application} (kept : EntriesKept app after)
    (task : Task) (other : task.awaitsLiveDecision = false)
    : EntriesKept app (after.await task) where
  halted := kept.halted
  running := kept.running
  deciding awaited := kept.deciding (by
    simpa [awaitsLiveDecision, Application.await, other] using awaited)

/-- A start of the session keeps entries. -/
theorem entriesKept_progressStart (app : Application) (authOptional : Bool)
    (segment : SessionSupervisor × Progress SessionSupervisor.StartPoint)
    : EntriesKept app (app.progressStart authOptional segment) := by
  have moved : EntriesKept app { app with supervisor := segment.1 } :=
    entriesKept_of_eq rfl rfl rfl
  unfold progressStart
  cases segment.2 with
  | awaits point => exact moved.await (.starting authOptional point) rfl
  | finished => exact moved.await .resuming rfl

/-- A login keeps entries. -/
theorem entriesKept_progressLogin (app : Application) (keepsPhase : Bool)
    (segment : SessionSupervisor × Progress SessionSupervisor.LoginPoint)
    : EntriesKept app (app.progressLogin keepsPhase segment) := by
  have moved : EntriesKept app { app with supervisor := segment.1 } :=
    entriesKept_of_eq rfl rfl rfl
  unfold progressLogin
  cases segment.2 with
  | awaits point => exact moved.await (.loggingIn keepsPhase point) rfl
  | finished => exact moved

theorem entriesKept_startDryRound (app : Application) (roundId : String)
    : EntriesKept app (app.startDryRound roundId) := by
  have counted : EntriesKept app { app with dryRun := app.dryRun.recordPrediction } :=
    entriesKept_of_eq rfl rfl rfl
  unfold startDryRound
  split
  · exact counted.await (.buildingRisk roundId) rfl
  · exact entriesKept_of_eq rfl rfl rfl

theorem entriesKept_crashRound (app : Application) (payload : CrashPayload)
    : EntriesKept app (app.crashRound payload).1 := by
  refine entriesKept_of_eq rfl ?_ rfl
  show (onRoundCrashedForDryRun app.dryRun payload).running = app.dryRun.running
  unfold onRoundCrashedForDryRun
  split
  · rfl
  · exact DryRunController.onRoundCompleted_running _ _ _

theorem entriesKept_simulate (app : Application) (roundId : String) (answer : Answer)
    : EntriesKept app (app.simulate roundId answer).1 := by
  unfold simulate
  split
  · exact entriesKept_of_eq rfl rfl rfl
  · exact entriesKept_of_eq rfl (DryRunController.evaluateAndSimulate_running _ _ _ _) rfl

theorem entriesKept_placeLive (app : Application) (entry : LiveEntry) (answer : Answer)
    : EntriesKept app (app.placeLive entry answer).1 := by
  unfold placeLive
  split
  · exact entriesKept_of_eq rfl rfl rfl
  · next request _ =>
      exact (entriesKept_of_eq rfl rfl rfl).await (.placing request) rfl

/-- Changing the mode halts nothing. -/
theorem setSystemMode_halted {runtime : Runtime} {requested : RequestedMode}
    (halted : (runtime.setSystemMode requested).halted = true) : runtime.halted = true := by
  unfold Runtime.setSystemMode at halted
  split at halted
  · exact halted
  simp only at halted
  split at halted
  · exact halted
  split at halted
  · cases halted
  · exact halted

-----------------------------------------------------------------------------------------
-- The invariant
-----------------------------------------------------------------------------------------

/-- A halted runtime has its dry run stopped and awaits no live decision. -/
def HaltInert (app : Application) : Prop :=
  app.runtime.halted = true
  → app.dryRun.running = false ∧ app.awaitsLiveDecision = false

theorem HaltInert.kept {app after : Application} (inert : HaltInert app)
    (kept : EntriesKept app after) : HaltInert after := by
  intro halted
  obtain ⟨stopped, none⟩ := inert (kept.halted halted)
  refine ⟨kept.running.trans stopped, ?_⟩
  by_contra awaited
  rw [kept.deciding (by simpa using awaited)] at none
  cases none

theorem haltInert_halting {app : Application} {runtime : Runtime} {emergency : Bool}
    (none : app.awaitsLiveDecision = false)
    : HaltInert ({ app with runtime := runtime, dryRun := app.dryRun.stop }.await
        (.halting emergency)) := by
  intro _
  refine ⟨rfl, ?_⟩
  simpa [awaitsLiveDecision, Application.await, Task.awaitsLiveDecision] using none

theorem haltInert_of_running {app : Application} (running : app.runtime.halted = false)
    : HaltInert app := by
  intro halted
  rw [running] at halted
  cases halted

/-- A command that respects the halt keeps the invariant. -/
theorem HaltInert.handle {app : Application} (inert : HaltInert app)
    {command : OperatorCommand} (respects : RespectsHalt app (.command command))
    : HaltInert (app.handle command) := by
  cases command with
  | pause reason => exact haltInert_halting (respects.noDecision rfl)
  | stop => exact haltInert_halting (respects.noDecision rfl)
  | emergencyStop reason => exact haltInert_halting (respects.noDecision rfl)
  | resume =>
      have resumed : HaltInert { app with runtime := app.runtime.resumeSystem } :=
        haltInert_of_running rfl
      exact resumed.kept (entriesKept_progressStart _ _ _)
  | login parts => exact inert.kept (entriesKept_progressLogin _ _ _)
  | mode mode => exact inert.kept ⟨setSystemMode_halted, rfl, id⟩

/-- A start of a round that respects the halt keeps the invariant. -/
theorem HaltInert.startRound {app : Application} (inert : HaltInert app) {roundId : String}
    (respects : RespectsHalt app (.roundStarted roundId))
    : HaltInert (app.startRound roundId) := by
  unfold Application.startRound
  split
  · exact inert
  have dry := entriesKept_startDryRound app roundId
  have deps : (app.startDryRound roundId).liveDeps = app.liveDeps := by
    unfold startDryRound
    split <;> rfl
  have runtime : (app.startDryRound roundId).runtime = app.runtime := by
    unfold startDryRound
    split <;> rfl
  unfold startLiveRound
  by_cases opens : app.liveDeps.entryOpen = true
  · -- an open round finds the runtime running, and leaves it so
    have halted : (app.startDryRound roundId).runtime.halted = false := by
      rw [runtime]
      exact respects.noRound opens
    refine haltInert_of_running ?_
    split
    · exact halted
    · exact halted
  · have closed : onRoundStartedForLive (app.startDryRound roundId).liveDeps roundId = none := by
      rw [deps, onRoundStartedForLive, if_neg opens]
    rw [closed]
    exact inert.kept dry

/-- A continuation that respects the halt keeps the invariant. -/
theorem HaltInert.resumeTask {app : Application} (inert : HaltInert app) (answer : Answer)
    {task : Task} (afterPause : task = .afterPause → app.awaitsLiveDecision = false)
    (resuming : task = .resuming → app.runtime.halted = false)
    : HaltInert (app.resumeTask answer task).1 := by
  cases task with
  | halting emergency =>
      have moved : EntriesKept app { app with supervisor := app.supervisor.stop.1 } :=
        entriesKept_of_eq rfl rfl rfl
      exact inert.kept (moved.await (.stopping .roundObserver emergency) rfl)
  | stopping point emergency =>
      have moved
          : EntriesKept app { app with supervisor := (app.supervisor.resumeStop point).1 } :=
        entriesKept_of_eq rfl rfl rfl
      simp only [Application.resumeTask]
      split
      · next later _ => exact inert.kept (moved.await (.stopping later emergency) rfl)
      · split
        · exact inert.kept (moved.await .afterPause rfl)
        · exact inert.kept moved
  | afterPause => exact haltInert_halting (afterPause rfl)
  | starting authOptional point => exact inert.kept (entriesKept_progressStart _ _ _)
  | resuming => exact haltInert_of_running (resuming rfl)
  | loggingIn keepsPhase point => exact inert.kept (entriesKept_progressLogin _ _ _)
  | buildingRisk roundId =>
      simp only [Application.resumeTask]
      split
      · exact inert.kept
          ((entriesKept_of_eq rfl rfl rfl).await (.dryRunDeciding roundId) rfl)
      · exact inert
  | dryRunDeciding roundId => exact inert.kept (entriesKept_simulate _ _ _)
  | liveDeciding entry => exact inert.kept (entriesKept_placeLive _ _ _)
  | placing request =>
      simp only [Application.resumeTask]
      split
      · exact inert.kept (entriesKept_of_eq rfl rfl rfl)
      · exact inert

theorem entriesKept_eraseIdx (app : Application) (index : Nat)
    : EntriesKept app { app with tasks := app.tasks.eraseIdx index } where
  halted := id
  running := rfl
  deciding awaited := by
    obtain ⟨task, member, waits⟩ := List.any_eq_true.mp awaited
    exact List.any_eq_true.mpr ⟨task, List.mem_of_mem_eraseIdx member, waits⟩

/-- Every input that respects the halt keeps the invariant. -/
theorem HaltInert.next {app : Application} (inert : HaltInert app) {input : Input}
    (respects : RespectsHalt app input) : HaltInert (app.next input) := by
  cases input with
  | command command => exact inert.handle respects
  | roundStarted roundId => exact inert.startRound respects
  | roundTick roundId multiplier => exact inert
  | roundCrashed payload => exact inert.kept (entriesKept_crashRound app payload)
  | settle index answer =>
      unfold Application.next step
      cases found : app.tasks[index]? with
      | none => simpa only [found] using inert
      | some task =>
          simp only [found]
          refine (inert.kept (entriesKept_eraseIdx app index)).resumeTask answer ?_ ?_
          · rintro rfl
            have none := respects.noDecision (by simp [haltsNow, found])
            by_contra awaited
            rw [(entriesKept_eraseIdx app index).deciding (by simpa using awaited)] at none
            cases none
          · rintro rfl
            exact respects.noRestart (by simp [endsResume, found])

-----------------------------------------------------------------------------------------
-- Entries
-----------------------------------------------------------------------------------------

theorem entry_of_step {app : Application} {input : Input} {action : Action}
    (member : action ∈ (app.step input).2) (entry : action.isEntry = true)
    : app.dryRun.running = true ∨ app.awaitsLiveDecision = true := by
  cases causes_of_step member with
  | opensTrade running => exact .inl running
  | placesBet waiting =>
      exact .inr (List.any_eq_true.mpr ⟨_, List.mem_of_getElem? waiting, rfl⟩)
  | cashesOut requested => cases entry

/-- In every run of commands, round events and continuations that respects the halt, no
round is entered while the runtime or the recovery is halted.
-/
theorem noEntryWhileHalted_of_respectsHalt (app : Application) (inputs : List Input)
    (running : app.runtime.halted = false)
    (respects : Always Application.next RespectsHalt app inputs)
    : Always Application.next NoEntryWhileHalted app inputs := by
  have initial : HaltInert app := haltInert_of_running running
  refine Always.of_invariant (fun state input inert respected => ?_) respects initial
  refine ⟨fun action member entry => ⟨?_, respected.recovered⟩, inert.next respected⟩
  by_contra halted
  simp only [Bool.not_eq_false] at halted
  obtain ⟨stopped, none⟩ := inert halted
  rcases entry_of_step member entry with active | awaited
  · rw [stopped] at active
    cases active
  · rw [none] at awaited
    cases awaited

/-- A dry run that has just been booted, with the answers its recovery got. -/
def bootedDryRun (answers : RecoveryAnswers) : Application :=
  Application.boot
    { env := {}
      runtime := { currentMode := .dryRun, config := modeConfig .dryRun }
      dryRun := { ledger := .new 10000 } }
    answers

/-- A round of a dry run is entered, then the pause stops the next one. -/
theorem dryRun_entered_until_paused
    : let recovered : RecoveryAnswers :=
        { unknownCount := some 0, stillUnknown := none, reconciled := some true }
      let app := bootedDryRun recovered
      let inputs : List Input :=
        [.roundStarted "r1", .settle 0 {}, .settle 0 approvedAnswer,
          .command (.pause "break"), .settle 0 {}, .roundStarted "r2"]
      (run Application.next app inputs).dryRun.signalsAccepted = 1
      ∧ Always Application.next NoEntryWhileHalted app inputs := by
  refine ⟨by decide +kernel, ?_⟩
  exact noEntryWhileHalted_of_respectsHalt _ _ rfl (by decide +kernel)

/-- A virtual trade is opened although the recovery at startup left the manager halted, and a
live bet is placed although the operator has paused since its round started.
-/
theorem entries_while_halted
    : ¬ Always Application.next NoEntryWhileHalted
        (bootedDryRun { unknownCount := none, stillUnknown := none, reconciled := none })
        [.roundStarted "r1", .settle 0 {}, .settle 0 approvedAnswer]
      ∧ ¬ Always Application.next NoEntryWhileHalted liveSession
        [.roundStarted "r1", .command (.pause "stop now"), .settle 0 approvedAnswer] := by
  constructor
  · decide +kernel
  · decide +kernel

end Application

end CrashWave.App
