import CrashWave.Core.SessionSupervisor
import CrashWave.Runs.Basic

/-! Whether a stop of the session is final, while a start, a login or a resume that was begun
before it goes on at its next await.
-/

namespace CrashWave.Core

open Runs

namespace SessionSupervisor

/-- An operation that waits. A stop is final as long as no start is requested after it. -/
inductive SessionTask where
  | starting (authOptional : Bool) (point : StartPoint)
  | stopping (final : Bool) (point : StopPoint)
  | resuming (point : ResumePoint)
  | loggingIn (keepsPhase : Bool) (point : LoginPoint)
  deriving DecidableEq

/-- The supervisor and what waits, and whether a stop has returned with no start requested since
it was called.
-/
structure SessionRun where
  supervisor : SessionSupervisor := {}
  tasks : List SessionTask := []
  returned : Bool := false
  deriving DecidableEq

/-- A call, or an awaited answer for one of the operations that wait. The modes are read from the
configuration at the call.
-/
inductive SessionEvent where
  | start (authOptional : Bool)
  | stop
  | pause
  | resume (page : Bool)
  | login (dryRun : Bool) (parts : BrowserParts)
  | proceed (index : Nat) (answer : BrowserAnswer)

/-- The operations that wait after one of them did its segment. -/
def settleTask {π : Type} (tasks : List SessionTask) (index : Nat) (task : π → SessionTask)
    : Progress π → List SessionTask
  | .awaits point => tasks.set index (task point)
  | .finished => tasks.eraseIdx index

/-- The operations that wait after a new one did its first segment. -/
def beginTask {π : Type} (tasks : List SessionTask) (task : π → SessionTask)
    : Progress π → List SessionTask
  | .awaits point => tasks ++ [task point]
  | .finished => tasks

/-- A start that is requested makes every stop that waits stop being final. -/
def SessionTask.superseded : SessionTask → SessionTask
  | .stopping _ point => .stopping false point
  | task => task

/-- An operation that waits goes on with its answer. -/
def SessionRun.proceed (run : SessionRun) (index : Nat) (answer : BrowserAnswer)
    : SessionTask → SessionRun
  | .starting authOptional point =>
      let (supervisor, progress) := run.supervisor.resumeStart authOptional point answer
      { run with
        supervisor := supervisor
        tasks := settleTask run.tasks index (.starting authOptional) progress }
  | .stopping final point =>
      let (supervisor, progress) := run.supervisor.resumeStop point
      { supervisor
        tasks := settleTask run.tasks index (.stopping final) progress
        returned := run.returned || (final && progress = .finished) }
  | .resuming point =>
      let (supervisor, progress) := run.supervisor.resumeResume point answer
      { run with
        supervisor := supervisor
        tasks := settleTask run.tasks index .resuming progress }
  | .loggingIn keepsPhase point =>
      let (supervisor, progress) := run.supervisor.resumeLogin keepsPhase point answer
      { run with
        supervisor := supervisor
        tasks := settleTask run.tasks index (.loggingIn keepsPhase) progress }

def SessionRun.next (run : SessionRun) : SessionEvent → SessionRun
  | .start authOptional =>
      let (supervisor, progress) := run.supervisor.start
      { supervisor
        tasks := beginTask (run.tasks.map .superseded) (.starting authOptional) progress
        returned := false }
  | .stop =>
      let (supervisor, progress) := run.supervisor.stop
      { run with
        supervisor := supervisor
        tasks := beginTask run.tasks (.stopping true) progress }
  | .pause => { run with supervisor := run.supervisor.pause }
  | .resume page =>
      let (supervisor, progress) := run.supervisor.resume page
      { run with
        supervisor := supervisor
        tasks := beginTask run.tasks .resuming progress }
  | .login dryRun parts =>
      let keepsPhase := dryRun && run.supervisor.observing
      let (supervisor, progress) := run.supervisor.loginWithCredentials parts
      { run with
        supervisor := supervisor
        tasks := beginTask run.tasks (.loggingIn keepsPhase) progress }
  | .proceed index answer =>
      match run.tasks[index]? with
      | none => run
      | some task => run.proceed index answer task

-----------------------------------------------------------------------------------------
-- What an operation writes
-----------------------------------------------------------------------------------------

/-- The session is stopped and not observed. -/
def AtRest (supervisor : SessionSupervisor) : Prop :=
  supervisor.phase = .stopped ∧ supervisor.observing = false

instance (supervisor : SessionSupervisor) : Decidable (AtRest supervisor) :=
  inferInstanceAs (Decidable (_ ∧ _))

/-- Whether `start` writes the phase or the observing flag with an answer. -/
def StartPoint.writes (supervisor : SessionSupervisor) (answer : BrowserAnswer)
    : StartPoint → Bool
  | .restore asked => asked && answer.threw || supervisor.getPageThrows answer.page
  | .profile | .launch | .authentication _ | .navigation | .observation | .observed => true

/-- Whether `resume` does. -/
def ResumePoint.writes (answer : BrowserAnswer) : ResumePoint → Bool
  | .observation => !answer.threw
  | .observed => true

/-- Whether `loginWithCredentials` does. -/
def LoginPoint.writes (supervisor : SessionSupervisor) (keepsPhase : Bool)
    (answer : BrowserAnswer)
    : LoginPoint → Bool
  | .preflight => !answer.preflightOk || !supervisor.loginNeedsBrowser && answer.page
  | .launch | .navigation | .observation | .renavigation => !answer.threw
  | .restore asked => !(asked && answer.threw) && !supervisor.getPageThrows answer.page
  | .pipeline =>
      match answer.authentication with
      | .threw => false
      | .authenticated => supervisor.querySession answer.context ≠ .asked
      | .regionBlocked => true
      | .unauthenticated => !keepsPhase
  | .profile | .capture => true
  | .observed => !supervisor.getPageThrows answer.page

theorem startFailed_restless (supervisor : SessionSupervisor) (namesBrowser : Bool)
    : ¬ AtRest (supervisor.startFailed namesBrowser).1 := by
  cases namesBrowser <;> simp [AtRest, startFailed]

theorem startNavigation_restless (supervisor : SessionSupervisor)
    : ¬ AtRest supervisor.startNavigation.1 := by
  by_cases browser : supervisor.browserManager = true
  · simp [startNavigation, navigateToGame, browser, AtRest]
  · simp [startNavigation, navigateToGame, browser, startFailed_restless]

theorem loginNavigation_restless (supervisor : SessionSupervisor) (point : LoginPoint)
    : ¬ AtRest (supervisor.loginNavigation point).1 := by
  by_cases browser : supervisor.browserManager = true
  · simp [loginNavigation, navigateToGame, browser, AtRest]
  · simp [loginNavigation, navigateToGame, browser, AtRest]

variable {supervisor : SessionSupervisor}

/-- On the page a login writes unless the browser has none. -/
theorem loginOnPage_atRest_iff (rest : AtRest supervisor) (parts : BrowserParts)
    : AtRest (supervisor.loginOnPage parts).1 ↔ supervisor.getPageThrows parts.page = true := by
  unfold loginOnPage getPageThrows
  cases supervisor.browserManager with
  | false => simp [AtRest]
  | true =>
      cases parts.page with
      | false => simp [rest]
      | true => simp [AtRest]

/-- A query of the session writes where it throws. -/
theorem startQuery_atRest_iff (rest : AtRest supervisor) (there : Bool)
    (point : Bool → StartPoint)
    : AtRest (supervisor.startQuery there point).1 ↔ supervisor.getPageThrows there = false := by
  unfold startQuery querySession getPageThrows
  cases supervisor.browserManager with
  | false => simp [rest]
  | true =>
      cases there with
      | false => simp [startFailed_restless]
      | true => cases supervisor.browserSession <;> simp [rest]

/-- What is restored is not at rest, whatever the query of the session does. -/
theorem startQuery_restless (restless : supervisor.phase ≠ .stopped) (there : Bool)
    (point : Bool → StartPoint)
    : ¬ AtRest (supervisor.startQuery there point).1 := by
  unfold startQuery
  split
  · exact startFailed_restless _ _
  · exact fun rest => restless rest.1
  · exact fun rest => restless rest.1

/-- A session at rest stays so under a segment of `start` exactly when it writes nothing. -/
theorem resumeStart_atRest_iff (rest : AtRest supervisor) (authOptional : Bool)
    (point : StartPoint) (answer : BrowserAnswer)
    : AtRest (supervisor.resumeStart authOptional point answer).1
      ↔ point.writes supervisor answer = false := by
  cases point with
  | profile => simp [resumeStart, launchBrowser, AtRest, StartPoint.writes]
  | launch =>
      refine iff_of_false ?_ (by simp [StartPoint.writes])
      simp only [resumeStart]
      split
      · exact startFailed_restless _ _
      · exact startQuery_restless (by simp [restoreSessionState]) _ _
  | navigation | observation | observed =>
      refine iff_of_false ?_ (by simp [StartPoint.writes])
      simp only [resumeStart]
      split_ifs
      all_goals first | exact startFailed_restless _ _ |
        simp [AtRest, gameReached, observationInitialized, observationStarted]
  | restore asked =>
      simp only [resumeStart, StartPoint.writes]
      split
      · next threw => simp [startFailed_restless, threw]
      · next answered =>
          rw [startQuery_atRest_iff rest, eq_false_of_ne_true answered, Bool.false_or]
  | authentication asked =>
      refine iff_of_false ?_ (by simp [StartPoint.writes])
      simp only [resumeStart]
      generalize (if asked then supervisor.refreshAuthStatus answer else supervisor) = refreshed
      split
      · exact startNavigation_restless _
      · simp [AtRest]

theorem resumeResume_atRest_iff (rest : AtRest supervisor) (point : ResumePoint)
    (answer : BrowserAnswer)
    : AtRest (supervisor.resumeResume point answer).1 ↔ point.writes answer = false := by
  cases point with
  | observation =>
      simp only [resumeResume, ResumePoint.writes]
      split
      · next threw => simp [rest, threw]
      · next answered => simp [AtRest, observationInitialized, answered]
  | observed => simp [resumeResume, observationStarted, AtRest, ResumePoint.writes]

/-- So it does under a segment of `loginWithCredentials`. -/
theorem resumeLogin_atRest_iff (rest : AtRest supervisor) (keepsPhase : Bool)
    (point : LoginPoint) (answer : BrowserAnswer)
    : AtRest (supervisor.resumeLogin keepsPhase point answer).1
      ↔ point.writes supervisor keepsPhase answer = false := by
  have kept : AtRest { supervisor with authenticated := true }
      ∧ AtRest { supervisor with authenticated := false } := ⟨rest, rest⟩
  cases point with
  | preflight =>
      simp only [resumeLogin, LoginPoint.writes]
      split
      · next failed => simp [AtRest, failed]
      · next passed =>
          split
          · next needs => simp [rest, needs, passed]
          · next ready =>
              have browser : supervisor.browserManager = true := by
                simp_all [loginNeedsBrowser]
              rw [loginOnPage_atRest_iff rest, getPageThrows, browser]
              simp [passed, ready]
  | profile => simp [resumeLogin, launchBrowser, AtRest, LoginPoint.writes]
  | observed =>
      simp only [resumeLogin, LoginPoint.writes]
      split
      · next throws => simp [rest, throws]
      · next monitored => simp [AtRest, observationStarted, monitored]
  | restore asked =>
      simp only [resumeLogin, LoginPoint.writes]
      split
      · next threw => simp [rest, threw]
      · next answered =>
          rw [loginOnPage_atRest_iff rest, eq_false_of_ne_true answered]
          simp
  | launch =>
      simp only [resumeLogin, LoginPoint.writes]
      split
      · next threw => simp [rest, threw]
      · next answered =>
          refine iff_of_false ?_ (by simp [answered])
          split <;> simp [AtRest, restoreSessionState]
  | observation | renavigation =>
      simp only [resumeLogin, LoginPoint.writes]
      split
      · next threw => simp [rest, threw]
      · next answered => simp [AtRest, gameReached, observationInitialized, answered]
  | navigation =>
      simp only [resumeLogin, LoginPoint.writes]
      split
      · next threw => simp [rest, threw]
      · next answered => split <;> simp [AtRest, gameReached, answered]
  | pipeline =>
      cases page : answer.authentication with
      | threw => simp [resumeLogin, LoginPoint.writes, page, rest]
      | authenticated =>
          have same : { supervisor with authenticated := true }.querySession answer.context
              = supervisor.querySession answer.context := rfl
          simp only [resumeLogin, LoginPoint.writes, page, same]
          cases supervisor.querySession answer.context with
          | asked => simp [kept.1]
          | refused | skipped => simp [loginCaptured, loginNavigation_restless]
      | regionBlocked => simp [resumeLogin, LoginPoint.writes, page, AtRest]
      | unauthenticated =>
          cases keepsPhase
          · simp [resumeLogin, LoginPoint.writes, page, AtRest]
          · simp [resumeLogin, LoginPoint.writes, page, kept.2]
  | capture =>
      refine iff_of_false ?_ (by simp [LoginPoint.writes])
      exact loginNavigation_restless _ _

-----------------------------------------------------------------------------------------
-- A stop is final
-----------------------------------------------------------------------------------------

/-- Once a stop has returned, and until a start is requested, the session is at rest. -/
def StaysStopped (run : SessionRun) : Prop := run.returned = true → AtRest run.supervisor

instance (run : SessionRun) : Decidable (StaysStopped run) :=
  inferInstanceAs (Decidable (_ → AtRest run.supervisor))

/-- A stop that waits and is final. -/
def SessionTask.holds : SessionTask → Bool
  | .stopping final _ => final
  | .starting .. | .resuming _ | .loggingIn .. => false

/-- A stop was called, and no start was requested since. -/
def SessionRun.held (run : SessionRun) : Bool := run.returned || run.tasks.any SessionTask.holds

/-- Whether an operation that waits writes the phase or the observing flag with its answer. -/
def SessionTask.writes (supervisor : SessionSupervisor) (answer : BrowserAnswer)
    : SessionTask → Bool
  | .starting _ point => point.writes supervisor answer
  | .stopping .. => false
  | .resuming point => point.writes answer
  | .loggingIn keepsPhase point => point.writes supervisor keepsPhase answer

/-- From the call of a stop on, and until a start is requested, nothing but stops writes: no
operation that waits gets an answer on which it does, the session is not paused, and a login that
is begun finds no browser, or one without a page.
-/
def Undisturbed (run : SessionRun) : SessionEvent → Prop
  | .start _ | .stop | .resume _ => True
  | .pause => run.held = false
  | .login _ parts =>
      run.held = true → run.supervisor.loginNeedsBrowser = true ∨ parts.page = false
  | .proceed index answer =>
      run.held = true → ∀ task ∈ run.tasks[index]?, task.writes run.supervisor answer = false

instance (run : SessionRun) : (event : SessionEvent) → Decidable (Undisturbed run event)
  | .start _ | .stop | .resume _ => .isTrue trivial
  | .pause => inferInstanceAs (Decidable (run.held = false))
  | .login _ _ => inferInstanceAs (Decidable (_ → _ ∨ _ = false))
  | .proceed _ _ => inferInstanceAs (Decidable (_ → ∀ task ∈ run.tasks[_]?, _))

/-- While a stop holds, the session is at rest. -/
def Rests (run : SessionRun) : Prop := run.held = true → AtRest run.supervisor

theorem Rests.staysStopped {run : SessionRun} (rests : Rests run) : StaysStopped run :=
  fun returned => rests (by simp [SessionRun.held, returned])

/-- An operation that is no stop leaves the stops that wait. -/
theorem settleTask_holds {π : Type} {tasks : List SessionTask} {index : Nat} {old : SessionTask}
    (found : tasks[index]? = some old) (idle : old.holds = false) (task : π → SessionTask)
    (others : ∀ point, (task point).holds = false) (progress : Progress π)
    : (settleTask tasks index task progress).any SessionTask.holds
      = tasks.any SessionTask.holds := by
  obtain ⟨before, after, whole, -, erased⟩ := exists_around found old
  cases progress with
  | awaits point =>
      obtain ⟨before, after, whole, replaced, -⟩ := exists_around found (task point)
      rw [settleTask, replaced, whole]
      simp [idle, others]
  | finished =>
      rw [settleTask, erased, whole]
      simp [idle]

theorem beginTask_holds {π : Type} (tasks : List SessionTask) (task : π → SessionTask)
    (others : ∀ point, (task point).holds = false) (progress : Progress π)
    : (beginTask tasks task progress).any SessionTask.holds = tasks.any SessionTask.holds := by
  cases progress <;> simp [beginTask, others]

/-- A stop that goes on holds no more than before. -/
theorem settleTask_stopping {tasks : List SessionTask} {index : Nat} {final : Bool}
    {point : StopPoint} (found : tasks[index]? = some (.stopping final point))
    (progress : Progress StopPoint)
    (after : (settleTask tasks index (.stopping final) progress).any SessionTask.holds = true)
    : tasks.any SessionTask.holds = true := by
  cases progress with
  | awaits next =>
      obtain ⟨before, later, whole, replaced, -⟩ := exists_around found (.stopping final next)
      rw [settleTask, replaced] at after
      rw [whole]
      simpa [SessionTask.holds] using after
  | finished =>
      obtain ⟨before, later, whole, -, erased⟩ := exists_around found (.stopping final point)
      rw [settleTask, erased] at after
      rw [whole]
      simp only [List.any_append, List.any_cons, Bool.or_eq_true] at after ⊢
      exact after.imp_right .inr

theorem resumeStop_atRest (rest : AtRest supervisor) (point : StopPoint)
    : AtRest (supervisor.resumeStop point).1 := by
  cases point with
  | roundObserver | browser => exact rest
  | gameAdapter =>
      simp only [resumeStop]
      split <;> exact rest

variable {run : SessionRun}

/-- A start that is requested ends what the stops hold. -/
theorem held_start (authOptional : Bool) : (run.next (.start authOptional)).held = false := by
  have none : (run.tasks.map SessionTask.superseded).any SessionTask.holds = false := by
    rw [List.any_map, List.any_eq_false]
    intro task _
    cases task <;> simp [SessionTask.superseded, SessionTask.holds]
  have tasks := beginTask_holds (run.tasks.map SessionTask.superseded) (.starting authOptional)
    (fun _ => rfl) run.supervisor.start.2
  rw [none] at tasks
  exact tasks

theorem held_resume (page : Bool) : (run.next (.resume page)).held = run.held :=
  congrArg (run.returned || ·) (beginTask_holds run.tasks .resuming (fun _ => rfl) _)

theorem held_login (dryRun : Bool) (parts : BrowserParts)
    : (run.next (.login dryRun parts)).held = run.held :=
  congrArg (run.returned || ·)
    (beginTask_holds run.tasks (.loggingIn (dryRun && run.supervisor.observing)) (fun _ => rfl) _)

theorem resume_fst (page : Bool) : (supervisor.resume page).1 = supervisor := by
  simp only [resume]
  split_ifs <;> rfl

/-- A login that is begun at rest writes exactly when it finds a browser with a page. -/
theorem login_atRest_iff (rest : AtRest supervisor) (parts : BrowserParts)
    : AtRest (supervisor.loginWithCredentials parts).1
      ↔ supervisor.loginNeedsBrowser = true ∨ parts.page = false := by
  rw [loginWithCredentials]
  split
  · next unlaunched => exact iff_of_true rest (.inl (by simp [loginNeedsBrowser, unlaunched]))
  · split
    · next needs => exact iff_of_true rest (.inl needs)
    · next ready =>
        have browser : supervisor.browserManager = true := by simp_all [loginNeedsBrowser]
        rw [loginOnPage_atRest_iff rest, getPageThrows, browser]
        simp [ready]

/-- An operation that is no stop disturbs one exactly when it writes. -/
theorem proceed_rests_iff {answer : BrowserAnswer} {task : SessionTask} {after : SessionRun}
    (rests : Rests run) (held : after.held = run.held)
    (segment : AtRest run.supervisor →
      (AtRest after.supervisor ↔ task.writes run.supervisor answer = false))
    : Rests after
      ↔ (run.held = true → ∀ other ∈ some task, other.writes run.supervisor answer = false) := by
  rw [Rests, held]
  refine forall_congr' fun holds => ?_
  rw [segment (rests holds)]
  simp

/-- What a stop holds after it went on, it held before. -/
theorem held_of_stopping {index : Nat} {final : Bool} {point : StopPoint}
    (found : run.tasks[index]? = some (.stopping final point)) (answer : BrowserAnswer)
    (held : (run.proceed index answer (.stopping final point)).held = true)
    : run.held = true := by
  rcases Bool.or_eq_true_iff.mp held with returned | waits
  · rcases Bool.or_eq_true_iff.mp returned with earlier | now
    · exact Bool.or_eq_true_iff.mpr (.inl earlier)
    · have final := (Bool.and_eq_true_iff.mp now).1
      have waits : run.tasks.any SessionTask.holds = true :=
        List.any_eq_true.mpr ⟨_, List.mem_of_getElem? found, final⟩
      exact Bool.or_eq_true_iff.mpr (.inr waits)
  · exact Bool.or_eq_true_iff.mpr (.inr (settleTask_stopping found _ waits))

/-- Every event keeps the session at rest under a stop exactly when it does not disturb it. -/
theorem Rests.next_iff (rests : Rests run) (event : SessionEvent)
    : Rests (run.next event) ↔ Undisturbed run event := by
  cases event with
  | start authOptional =>
      refine iff_of_true (fun held => ?_) trivial
      rw [held_start] at held
      cases held
  | stop => exact iff_of_true (fun _ => ⟨rfl, rfl⟩) trivial
  | pause =>
      have restless : ¬ AtRest run.supervisor.pause := by simp [AtRest, pause]
      constructor
      · exact fun after => eq_false_of_ne_true fun held => restless (after held)
      · intro free held
        change run.held = true at held
        rw [show run.held = false from free] at held
        cases held
  | resume page =>
      refine iff_of_true (fun held => ?_) trivial
      rw [held_resume] at held
      exact (congrArg AtRest (resume_fst page)).mpr (rests held)
  | login dryRun parts =>
      rw [Rests, held_login]
      exact forall_congr' fun held => login_atRest_iff (rests held) parts
  | proceed index answer =>
      simp only [SessionRun.next, Undisturbed]
      cases found : run.tasks[index]? with
      | none => exact iff_of_true rests fun _ _ absent => by cases absent
      | some task =>
          cases task with
          | starting authOptional point =>
              refine proceed_rests_iff rests ?_ fun rest =>
                resumeStart_atRest_iff rest authOptional point answer
              exact congrArg (run.returned || ·) (settleTask_holds found rfl _ (fun _ => rfl) _)
          | resuming point =>
              refine proceed_rests_iff rests ?_ fun rest =>
                resumeResume_atRest_iff rest point answer
              exact congrArg (run.returned || ·) (settleTask_holds found rfl _ (fun _ => rfl) _)
          | loggingIn keepsPhase point =>
              refine proceed_rests_iff rests ?_ fun rest =>
                resumeLogin_atRest_iff rest keepsPhase point answer
              exact congrArg (run.returned || ·) (settleTask_holds found rfl _ (fun _ => rfl) _)
          | stopping final point =>
              refine iff_of_true (fun held => ?_) fun _ other member => ?_
              · exact resumeStop_atRest (rests (held_of_stopping found answer held)) point
              · obtain rfl : SessionTask.stopping final point = other := Option.some_inj.mp member
                rfl

/-- From the call of a stop until a start is requested the session is at rest, in exactly the runs
in which nothing disturbs a stop.
-/
theorem always_rests_iff (events : List SessionEvent)
    : Always SessionRun.next (fun run event => Rests (run.next event)) {} events
      ↔ Always SessionRun.next Undisturbed {} events := by
  have kept (run : SessionRun) (event : SessionEvent) (rests : Rests run)
      : Rests (run.next event) ↔ Undisturbed run event := rests.next_iff event
  have initial : Rests {} := fun held => by cases held
  exact always_invariant_iff kept events initial

/-- A stop that nothing disturbs is final: once it has returned, the session stays stopped and is
not observed until a start is requested.
-/
theorem stop_final (events : List SessionEvent)
    (undisturbed : Always SessionRun.next Undisturbed {} events)
    : Always SessionRun.next (fun run event => StaysStopped (run.next event)) {} events :=
  ((always_rests_iff events).mpr undisturbed).mono fun _ _ rests => rests.staysStopped

/-- A start that was begun before the stop goes on after it, when its awaited calls answer. -/
def lateStart : List SessionEvent :=
  [.start true, .proceed 0 {}, .stop, .proceed 1 {}, .proceed 1 {}, .proceed 1 {}, .proceed 0 {}]

theorem late_start_restarts
    : ¬ Always SessionRun.next (fun run event => StaysStopped (run.next event)) {} lateStart := by
  decide

/-- A start that is over when the session is stopped, and started again. -/
theorem stop_final_restarted
    : Always SessionRun.next (fun run event => StaysStopped (run.next event)) {}
      ([.start true] ++ List.replicate 7 (.proceed 0 {})
        ++ [.stop, .proceed 0 {}, .proceed 0 {}, .proceed 0 {}, .start true, .proceed 0 {}]) :=
  stop_final _ (by decide)

end SessionSupervisor

end CrashWave.Core
