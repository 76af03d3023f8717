import CrashWave.Core.SessionStop

/-! Whether the phase of the session agrees with its observing flag once no operation is in
progress. The flag is set before the phase, and a login takes the phase away again.
-/

namespace CrashWave.Core

open Runs

namespace SessionSupervisor

/-- The operation is about to write the phase of an observed session. -/
def SessionTask.observes : SessionTask → Bool
  | .starting _ .observed | .resuming .observed | .loggingIn _ .observed => true
  | _ => false

/-- With no operation in progress, a session that is observed has the phase that says so. -/
def PhaseAgrees (run : SessionRun) : Prop :=
  run.tasks = [] → run.supervisor.observing = true → run.supervisor.phase = .observing

instance (run : SessionRun) : Decidable (PhaseAgrees run) :=
  inferInstanceAs (Decidable (_ → _ → _))

/-- A session that is observed has the phase that says so, or an operation is about to write
it.
-/
def Followed (run : SessionRun) : Prop :=
  run.supervisor.observing = true →
    run.supervisor.phase = .observing ∨ run.tasks.any SessionTask.observes = true

/-- Whether `start` writes another phase than that of an observed session with an answer. -/
def StartPoint.strays (supervisor : SessionSupervisor) (answer : BrowserAnswer)
    : StartPoint → Bool
  | .observation => answer.threw
  | .observed => supervisor.getPageThrows answer.page
  | point => point.writes supervisor answer

/-- Whether `loginWithCredentials` does, or does not come to write the phase after all. -/
def LoginPoint.strays (supervisor : SessionSupervisor) (keepsPhase : Bool)
    (answer : BrowserAnswer)
    : LoginPoint → Bool
  | .observation => false
  | .observed => supervisor.getPageThrows answer.page && supervisor.phase ≠ .observing
  | point => point.writes supervisor keepsPhase answer

/-- Whether an operation that waits does. -/
def SessionTask.strays (supervisor : SessionSupervisor) (answer : BrowserAnswer)
    : SessionTask → Bool
  | .starting _ point => point.strays supervisor answer
  | .stopping .. | .resuming _ => false
  | .loggingIn keepsPhase point => point.strays supervisor keepsPhase answer

/-- The session is observed, and of these operations none is about to write the phase that says
so.
-/
def SessionRun.settled (run : SessionRun) (others : List SessionTask) : Bool :=
  run.supervisor.observing && !others.any SessionTask.observes

/-- Nothing takes the phase from a session that is observed, and for which no other operation is
about to write it: a login that is begun finds no browser, or one without a page, and no start or
login that waits gets an answer on which it strays from it.
-/
def LeavesPhase (run : SessionRun) : SessionEvent → Prop
  | .start _ | .stop | .pause | .resume _ => True
  | .login _ parts =>
      run.settled run.tasks = true →
        run.supervisor.loginNeedsBrowser = true ∨ parts.page = false
  | .proceed index answer =>
      run.settled (run.tasks.eraseIdx index) = true →
        ∀ task ∈ run.tasks[index]?, task.strays run.supervisor answer = false

instance (run : SessionRun) : (event : SessionEvent) → Decidable (LeavesPhase run event)
  | .start _ | .stop | .pause | .resume _ => .isTrue trivial
  | .login _ _ => inferInstanceAs (Decidable (_ → _ ∨ _ = false))
  | .proceed _ _ => inferInstanceAs (Decidable (_ → ∀ task ∈ run.tasks[_]?, _))

theorem Followed.phaseAgrees {run : SessionRun} (followed : Followed run) : PhaseAgrees run := by
  intro idle observing
  rcases followed observing with phase | waits
  · exact phase
  · simp [idle] at waits

-----------------------------------------------------------------------------------------
-- What a segment does to the phase and the flag
-----------------------------------------------------------------------------------------

/-- Whether the operation is about to write the phase of an observed session after a segment. -/
def arrives {π : Type} (task : π → SessionTask) : Progress π → Bool
  | .awaits point => (task point).observes
  | .finished => false

/-- What a segment does to the phase and the observing flag. `was` and `next` say whether its
operation is about to write the phase of an observed session, before the segment and after it;
the last argument whether the segment writes another phase.
-/
inductive PhaseEffect (before after : SessionSupervisor) (was next : Bool) : Bool → Prop where
  | kept (idle : was = false) (phase : after.phase = before.phase)
      (observing : after.observing = before.observing) : PhaseEffect before after was next false
  | strays (phase : after.phase ≠ .observing)
      (observing : after.observing = before.observing) (still : next = false)
      : PhaseEffect before after was next true
  | arrives (idle : was = false) (now : next = true) : PhaseEffect before after was next false
  | observes (phase : after.phase = .observing) : PhaseEffect before after was next false

/-- A session that was followed is followed after a segment exactly when the segment does not
take the phase from it. `others` says whether another operation is about to write the phase.
-/
theorem PhaseEffect.followed_iff {before after : SessionSupervisor} {was next strays : Bool}
    (effect : PhaseEffect before after was next strays) (others : Bool)
    (followed : before.observing = true → before.phase = .observing ∨ (others || was) = true)
    : (after.observing = true → after.phase = .observing ∨ (others || next) = true)
      ↔ ((before.observing && !others) = true → strays = false) := by
  cases effect with
  | kept idle phase observing =>
      refine iff_of_true ?_ (fun _ => rfl)
      intro observed
      rw [observing] at observed
      rcases followed observed with before | waits
      · exact .inl (phase.trans before)
      · simp only [idle, Bool.or_false] at waits
        simp [waits]
  | strays phase observing still => simp [phase, observing, still]
  | arrives idle now => simp [now]
  | observes phase => simp [phase]

variable {supervisor : SessionSupervisor}

/-- A segment that writes another phase and leaves the flag. -/
theorem PhaseEffect.of_phase {before after : SessionSupervisor} {was : Bool}
    (phase : after.phase ≠ .observing) (observing : after.observing = before.observing)
    : PhaseEffect before after was false true :=
  .strays phase observing rfl

theorem startFailed_effect (before supervisor : SessionSupervisor) (namesBrowser was : Bool)
    (same : supervisor.observing = before.observing)
    : PhaseEffect before (supervisor.startFailed namesBrowser).1 was false true := by
  refine .of_phase ?_ same
  cases namesBrowser <;> simp [startFailed]

theorem refreshAuthStatus_observing (supervisor : SessionSupervisor) (answer : BrowserAnswer)
    : (supervisor.refreshAuthStatus answer).observing = supervisor.observing := by
  unfold refreshAuthStatus
  split <;> rfl

/-- A query of the session by `start`, in whose segment another phase may have been written. -/
theorem startQuery_effect {before : SessionSupervisor} (supervisor : SessionSupervisor)
    (authOptional there : Bool) (point : Bool → StartPoint)
    (quiet : ∀ asked, (SessionTask.starting authOptional (point asked)).observes = false)
    (observing : supervisor.observing = before.observing)
    : (supervisor.phase ≠ .observing →
        PhaseEffect before (supervisor.startQuery there point).1 false
          (arrives (.starting authOptional) (supervisor.startQuery there point).2) true)
      ∧ (supervisor.phase = before.phase →
        PhaseEffect before (supervisor.startQuery there point).1 false
          (arrives (.starting authOptional) (supervisor.startQuery there point).2)
          (supervisor.getPageThrows there)) := by
  unfold startQuery querySession getPageThrows
  cases supervisor.browserManager with
  | false =>
      exact ⟨fun phase => .strays phase observing (quiet false), fun phase =>
        .kept rfl phase observing⟩
  | true =>
      cases there with
      | false =>
          exact ⟨fun _ => startFailed_effect _ _ _ _ observing, fun _ =>
            startFailed_effect _ _ _ _ observing⟩
      | true =>
          cases supervisor.browserSession with
          | false =>
              exact ⟨fun phase => .strays phase observing (quiet false), fun phase =>
                .kept rfl phase observing⟩
          | true =>
              exact ⟨fun phase => .strays phase observing (quiet true), fun phase =>
                .kept rfl phase observing⟩

/-- A segment of `start`. -/
theorem resumeStart_effect (supervisor : SessionSupervisor) (authOptional : Bool)
    (point : StartPoint) (answer : BrowserAnswer)
    : PhaseEffect supervisor (supervisor.resumeStart authOptional point answer).1
        (SessionTask.starting authOptional point).observes
        (arrives (.starting authOptional) (supervisor.resumeStart authOptional point answer).2)
        (point.strays supervisor answer) := by
  cases point with
  | profile => exact .of_phase (by simp [resumeStart, launchBrowser]) rfl
  | launch =>
      simp only [resumeStart]
      split
      · exact startFailed_effect _ _ _ _ rfl
      · have query := startQuery_effect supervisor.restoreSessionState authOptional answer.context
          .restore (fun _ => rfl) (rfl : _ = supervisor.observing)
        exact query.1 (by simp [restoreSessionState])
  | restore asked =>
      simp only [resumeStart, StartPoint.strays, StartPoint.writes]
      split
      · next threw =>
          rw [threw]
          exact startFailed_effect _ _ _ _ rfl
      · next answered =>
          rw [eq_false_of_ne_true answered]
          exact (startQuery_effect supervisor authOptional answer.page .authentication
            (fun _ => rfl) rfl).2 rfl
  | authentication asked =>
      have refreshed : (if asked then supervisor.refreshAuthStatus answer
          else supervisor).observing = supervisor.observing := by
        split
        · exact supervisor.refreshAuthStatus_observing answer
        · rfl
      simp only [resumeStart]
      generalize (if asked then supervisor.refreshAuthStatus answer else supervisor) = page
        at refreshed
      split
      · unfold startNavigation navigateToGame
        dsimp only
        split
        · exact startFailed_effect _ _ _ _ refreshed
        · exact .of_phase (by simp) refreshed
      · exact .of_phase (by simp) refreshed
  | navigation =>
      simp only [resumeStart]
      split_ifs
      · exact startFailed_effect _ _ _ _ rfl
      · exact startFailed_effect _ _ _ _ rfl
      · exact startFailed_effect _ _ _ _ rfl
      · exact .of_phase (by simp [gameReached]) rfl
  | observation =>
      simp only [resumeStart, StartPoint.strays]
      split
      · next threw =>
          rw [threw]
          exact startFailed_effect _ _ _ _ rfl
      · next answered =>
          rw [eq_false_of_ne_true answered]
          exact .arrives rfl rfl
  | observed =>
      simp only [resumeStart, StartPoint.strays]
      split
      · next throws =>
          rw [throws]
          exact startFailed_effect _ _ _ _ rfl
      · next monitored =>
          rw [eq_false_of_ne_true monitored]
          exact .observes rfl

/-- A segment of `resume`. -/
theorem resumeResume_effect (supervisor : SessionSupervisor) (point : ResumePoint)
    (answer : BrowserAnswer)
    : PhaseEffect supervisor (supervisor.resumeResume point answer).1
        (SessionTask.resuming point).observes
        (arrives .resuming (supervisor.resumeResume point answer).2) false := by
  cases point with
  | observation =>
      simp only [resumeResume]
      split
      · exact .kept rfl rfl rfl
      · exact .arrives rfl rfl
  | observed => exact .observes rfl

theorem loginOnPage_effect (supervisor : SessionSupervisor) (keepsPhase : Bool)
    (parts : BrowserParts)
    : PhaseEffect supervisor (supervisor.loginOnPage parts).1 false
        (arrives (.loggingIn keepsPhase) (supervisor.loginOnPage parts).2)
        (!supervisor.getPageThrows parts.page) := by
  unfold loginOnPage getPageThrows
  cases supervisor.browserManager with
  | false => exact .of_phase (by simp) rfl
  | true =>
      cases parts.page with
      | false => exact .kept rfl rfl rfl
      | true =>
          cases parts.context with
          | false => exact .of_phase (by simp) rfl
          | true => exact .of_phase (by simp) rfl

theorem loginNavigation_effect {before : SessionSupervisor} (supervisor : SessionSupervisor)
    (same : supervisor.observing = before.observing) (keepsPhase : Bool) (point : LoginPoint)
    (quiet : (SessionTask.loggingIn keepsPhase point).observes = false)
    : PhaseEffect before (supervisor.loginNavigation point).1 false
        (arrives (.loggingIn keepsPhase) (supervisor.loginNavigation point).2) true := by
  by_cases browser : supervisor.browserManager = true
  · have awaits : supervisor.loginNavigation point
        = ({ supervisor with phase := .navigating }, .awaits point) := by
      simp [loginNavigation, navigateToGame, browser]
    rw [awaits]
    exact .strays (by simp) same quiet
  · have ends : supervisor.loginNavigation point
        = ({ supervisor with phase := .navigating }, .finished) := by
      simp [loginNavigation, navigateToGame, browser]
    rw [ends]
    exact .of_phase (by simp) same

theorem loginCaptured_effect (before supervisor : SessionSupervisor)
    (same : supervisor.observing = before.observing) (keepsPhase : Bool)
    : PhaseEffect before supervisor.loginCaptured.1 false
        (arrives (.loggingIn keepsPhase) supervisor.loginCaptured.2) true := by
  refine loginNavigation_effect supervisor same keepsPhase _ ?_
  split <;> rfl

/-- A segment of `loginWithCredentials`. -/
theorem resumeLogin_effect (supervisor : SessionSupervisor) (keepsPhase : Bool)
    (point : LoginPoint) (answer : BrowserAnswer)
    : PhaseEffect supervisor (supervisor.resumeLogin keepsPhase point answer).1
        (SessionTask.loggingIn keepsPhase point).observes
        (arrives (.loggingIn keepsPhase) (supervisor.resumeLogin keepsPhase point answer).2)
        (point.strays supervisor keepsPhase answer) := by
  cases point with
  | preflight =>
      simp only [resumeLogin, LoginPoint.strays, LoginPoint.writes]
      split
      · next failed =>
          rw [failed]
          exact .of_phase (by simp) rfl
      · next passed =>
          rw [eq_false_of_ne_true passed]
          split
          · next needs =>
              rw [needs]
              exact .kept rfl rfl rfl
          · next ready =>
              have browser : supervisor.browserManager = true := by
                simp_all [loginNeedsBrowser]
              have effect := loginOnPage_effect supervisor keepsPhase answer.toBrowserParts
              simpa [getPageThrows, browser, ready, SessionTask.observes] using effect
  | profile => exact .of_phase (by simp [resumeLogin, launchBrowser]) rfl
  | launch =>
      simp only [resumeLogin, LoginPoint.strays, LoginPoint.writes]
      split
      · next threw =>
          rw [threw]
          exact .kept rfl rfl rfl
      · next answered =>
          rw [eq_false_of_ne_true answered]
          split <;> exact .of_phase (by simp [restoreSessionState]) rfl
  | restore asked =>
      simp only [resumeLogin, LoginPoint.strays, LoginPoint.writes]
      split
      · next threw =>
          rw [threw]
          exact .kept rfl rfl rfl
      · next answered =>
          rw [eq_false_of_ne_true answered]
          exact loginOnPage_effect supervisor keepsPhase answer.toBrowserParts
  | pipeline =>
      cases page : answer.authentication with
      | threw =>
          simp only [resumeLogin, LoginPoint.strays, LoginPoint.writes, page]
          exact .kept rfl rfl rfl
      | authenticated =>
          have same : { supervisor with authenticated := true }.querySession answer.context
              = supervisor.querySession answer.context := rfl
          simp only [resumeLogin, LoginPoint.strays, LoginPoint.writes, page, same]
          cases supervisor.querySession answer.context with
          | asked => exact .kept rfl rfl rfl
          | refused | skipped =>
              exact loginCaptured_effect supervisor { supervisor with authenticated := true } rfl
                keepsPhase
      | regionBlocked =>
          simp only [resumeLogin, LoginPoint.strays, LoginPoint.writes, page]
          exact .of_phase (by simp) rfl
      | unauthenticated =>
          simp only [resumeLogin, LoginPoint.strays, LoginPoint.writes, page]
          cases keepsPhase with
          | false => exact .of_phase (by simp) rfl
          | true => exact .kept rfl rfl rfl
  | capture => exact loginCaptured_effect supervisor supervisor rfl keepsPhase
  | navigation =>
      simp only [resumeLogin, LoginPoint.strays, LoginPoint.writes]
      split
      · next threw =>
          rw [threw]
          exact .kept rfl rfl rfl
      · next answered =>
          rw [eq_false_of_ne_true answered]
          split
          · exact .of_phase (by simp [gameReached]) rfl
          · exact .of_phase (by simp [gameReached]) rfl
  | observation =>
      simp only [resumeLogin]
      split
      · exact .kept rfl rfl rfl
      · exact .arrives rfl rfl
  | observed =>
      simp only [resumeLogin, LoginPoint.strays]
      split
      · next throws =>
          rw [throws, Bool.true_and]
          by_cases phase : supervisor.phase = .observing
          · rw [decide_eq_false (not_not.mpr phase)]
            exact .observes phase
          · rw [decide_eq_true phase]
            exact .strays phase rfl rfl
      · next monitored =>
          rw [eq_false_of_ne_true monitored, Bool.false_and]
          exact .observes rfl
  | renavigation =>
      simp only [resumeLogin, LoginPoint.strays, LoginPoint.writes]
      split
      · next threw =>
          rw [threw]
          exact .kept rfl rfl rfl
      · next answered =>
          rw [eq_false_of_ne_true answered]
          exact .of_phase (by simp [gameReached]) rfl

/-- A segment of `stop` after its first. -/
theorem resumeStop_effect (supervisor : SessionSupervisor) (final : Bool) (point : StopPoint)
    : PhaseEffect supervisor (supervisor.resumeStop point).1
        (SessionTask.stopping final point).observes
        (arrives (.stopping final) (supervisor.resumeStop point).2) false := by
  cases point with
  | roundObserver | browser => exact .kept rfl rfl rfl
  | gameAdapter =>
      simp only [resumeStop]
      split <;> exact .kept rfl rfl rfl

-----------------------------------------------------------------------------------------
-- Runs
-----------------------------------------------------------------------------------------

variable {run : SessionRun}

/-- What waits besides an operation is the same before and after its segment. -/
theorem settleTask_observes {π : Type} {tasks : List SessionTask} {index : Nat}
    {old : SessionTask} (found : tasks[index]? = some old) (task : π → SessionTask)
    (progress : Progress π)
    : tasks.any SessionTask.observes
        = ((tasks.eraseIdx index).any SessionTask.observes || old.observes)
      ∧ (settleTask tasks index task progress).any SessionTask.observes
        = ((tasks.eraseIdx index).any SessionTask.observes || arrives task progress) := by
  cases progress with
  | awaits point =>
      obtain ⟨before, later, whole, replaced, erased⟩ := exists_around found (task point)
      rw [settleTask, replaced, erased, whole]
      simp [arrives, Bool.or_assoc, Bool.or_comm (SessionTask.observes _)]
  | finished =>
      obtain ⟨before, later, whole, -, erased⟩ := exists_around found old
      rw [settleTask, erased, whole]
      simp [arrives, Bool.or_assoc, Bool.or_comm old.observes]

/-- An operation that goes on leaves a followed session followed exactly when its segment does
not take the phase.
-/
theorem Followed.proceed_iff {π : Type} (followed : Followed run) {index : Nat}
    {old : SessionTask} (found : run.tasks[index]? = some old) (task : π → SessionTask)
    {after : SessionRun} {progress : Progress π} {strays : Bool}
    (tasks : after.tasks = settleTask run.tasks index task progress)
    (effect : PhaseEffect run.supervisor after.supervisor old.observes (arrives task progress)
      strays)
    : Followed after ↔ (run.settled (run.tasks.eraseIdx index) = true → strays = false) := by
  obtain ⟨before, later⟩ := settleTask_observes found task progress
  rw [Followed, SessionRun.settled, tasks, later]
  refine effect.followed_iff _ ?_
  rw [← before]
  exact followed

/-- An operation that is begun adds to what waits. -/
theorem beginTask_observes {π : Type} (tasks : List SessionTask) (task : π → SessionTask)
    (progress : Progress π)
    : (beginTask tasks task progress).any SessionTask.observes
      = (tasks.any SessionTask.observes || arrives task progress) := by
  cases progress <;> simp [beginTask, arrives]

/-- A start that is begun takes no phase: it is begun from a phase that is not that of an
observed session.
-/
theorem followed_start (followed : Followed run) (authOptional : Bool)
    : Followed (run.next (.start authOptional)) := by
  have same : (run.tasks.map SessionTask.superseded).any SessionTask.observes
      = run.tasks.any SessionTask.observes := by
    rw [List.any_map]
    congr 1
    funext task
    cases task <;> rfl
  simp only [Followed, SessionRun.next, beginTask_observes, same, start]
  split
  · intro observed
    rcases followed observed with phase | waits
    · exact .inl phase
    · exact .inr (by simp [waits])
  · next begun =>
      intro observed
      rcases followed observed with phase | waits
      · exact absurd (by simp [phase]) begun
      · exact .inr (by simp [waits])

/-- A login that is begun takes the phase from a session that is observed exactly when it finds a
browser with a page.
-/
theorem followed_login_iff (followed : Followed run) (dryRun : Bool) (parts : BrowserParts)
    : Followed (run.next (.login dryRun parts)) ↔ LeavesPhase run (.login dryRun parts) := by
  let keepsPhase := dryRun && run.supervisor.observing
  have effect : PhaseEffect run.supervisor (run.supervisor.loginWithCredentials parts).1 false
      (arrives (.loggingIn keepsPhase) (run.supervisor.loginWithCredentials parts).2)
      (!run.supervisor.loginNeedsBrowser && parts.page) := by
    simp only [loginWithCredentials]
    split
    · next unlaunched =>
        have needs : run.supervisor.loginNeedsBrowser = true := by
          simp [loginNeedsBrowser, unlaunched]
        rw [needs]
        exact .kept rfl rfl rfl
    · split
      · next needs =>
          rw [needs]
          exact .kept rfl rfl rfl
      · next ready =>
          have browser : run.supervisor.browserManager = true := by simp_all [loginNeedsBrowser]
          have effect := loginOnPage_effect run.supervisor keepsPhase parts
          simpa [getPageThrows, browser, ready] using effect
  have before : run.supervisor.observing = true →
      run.supervisor.phase = .observing
      ∨ (run.tasks.any SessionTask.observes || false) = true := by
    simpa [Followed] using followed
  have after := effect.followed_iff (run.tasks.any SessionTask.observes) before
  simp only [Followed, SessionRun.next, beginTask_observes]
  refine after.trans (forall_congr' fun _ => ?_)
  cases run.supervisor.loginNeedsBrowser <;> simp

/-- Every event leaves a followed session followed exactly when it does not take the phase. -/
theorem Followed.next_iff (followed : Followed run) (event : SessionEvent)
    : Followed (run.next event) ↔ LeavesPhase run event := by
  cases event with
  | start authOptional => exact iff_of_true (followed_start followed authOptional) trivial
  | stop => exact iff_of_true (fun observed => by cases observed) trivial
  | pause => exact iff_of_true (fun observed => by cases observed) trivial
  | resume page =>
      refine iff_of_true (fun observed => ?_) trivial
      simp only [SessionRun.next, resume_fst, beginTask_observes] at observed ⊢
      exact (followed observed).imp_right (by simp_all)
  | login dryRun parts => exact followed_login_iff followed dryRun parts
  | proceed index answer =>
      simp only [SessionRun.next, LeavesPhase]
      cases found : run.tasks[index]? with
      | none => exact iff_of_true followed fun _ _ absent => by cases absent
      | some task =>
          have taken {strays : Bool} (same : task.strays run.supervisor answer = strays)
              : (run.settled (run.tasks.eraseIdx index) = true → strays = false)
                ↔ (run.settled (run.tasks.eraseIdx index) = true →
                    ∀ other ∈ some task, other.strays run.supervisor answer = false) := by
            simp [same]
          cases task with
          | starting authOptional point =>
              exact (followed.proceed_iff found _ rfl
                (resumeStart_effect run.supervisor authOptional point answer)).trans (taken rfl)
          | stopping final point =>
              exact (followed.proceed_iff found _ rfl
                (resumeStop_effect run.supervisor final point)).trans (taken rfl)
          | resuming point =>
              exact (followed.proceed_iff found _ rfl
                (resumeResume_effect run.supervisor point answer)).trans (taken rfl)
          | loggingIn keepsPhase point =>
              exact (followed.proceed_iff found _ rfl
                (resumeLogin_effect run.supervisor keepsPhase point answer)).trans (taken rfl)

/-- The phase of an observed session says so, or is about to, in exactly the runs in which nothing
takes it away.
-/
theorem always_followed_iff (events : List SessionEvent)
    : Always SessionRun.next (fun run event => Followed (run.next event)) {} events
      ↔ Always SessionRun.next LeavesPhase {} events := by
  have initial : Followed {} := fun observed => by cases observed
  exact always_invariant_iff (fun _ event followed => followed.next_iff event) events initial

/-- In a run in which nothing takes the phase from an observed session, the phase agrees with the
observing flag whenever no operation is in progress.
-/
theorem phase_agrees (events : List SessionEvent)
    (lawful : Always SessionRun.next LeavesPhase {} events)
    : Always SessionRun.next (fun run event => PhaseAgrees (run.next event)) {} events :=
  ((always_followed_iff events).mpr lawful).mono fun _ _ followed => followed.phaseAgrees

-----------------------------------------------------------------------------------------
-- A login while the session is observed
-----------------------------------------------------------------------------------------

/-- Where a login that has an observed session to itself waits: it is about to write the phase, or
has written it and is not to write that of an observed session.
-/
def LoginPoint.leadsAway (supervisor : SessionSupervisor) : LoginPoint → Prop
  | .preflight | .profile => True
  | .launch | .restore _ | .pipeline | .capture | .renavigation => supervisor.phase ≠ .observing
  | .navigation | .observation | .observed => False

/-- How such a login stands after a segment. -/
def LedAway (supervisor : SessionSupervisor) : Progress LoginPoint → Prop
  | .awaits point => supervisor.observing = true ∧ point.leadsAway supervisor
  | .finished => supervisor.observing = true ∧ supervisor.phase ≠ .observing

theorem loginOnPage_ledAway (observed : supervisor.observing = true) {parts : BrowserParts}
    (away : parts.page = true ∨ supervisor.phase ≠ .observing)
    : LedAway (supervisor.loginOnPage parts).1 (supervisor.loginOnPage parts).2 := by
  unfold loginOnPage
  split
  · exact ⟨observed, by simp⟩
  · split
    · next missing => exact ⟨observed, away.resolve_left (by simpa using missing)⟩
    · cases parts.context with
      | false => exact ⟨observed, by simp⟩
      | true => exact ⟨observed, by simp [LoginPoint.leadsAway]⟩

theorem loginWithCredentials_ledAway (observed : supervisor.observing = true)
    {parts : BrowserParts} (there : parts.page = true)
    : LedAway (supervisor.loginWithCredentials parts).1
        (supervisor.loginWithCredentials parts).2 := by
  unfold loginWithCredentials
  split
  · exact ⟨observed, trivial⟩
  · split
    · exact ⟨observed, trivial⟩
    · exact loginOnPage_ledAway observed (.inl there)

theorem loginCaptured_ledAway (observed : supervisor.observing = true)
    : LedAway supervisor.loginCaptured.1 supervisor.loginCaptured.2 := by
  have goesBack : supervisor.loginCaptured = supervisor.loginNavigation .renavigation := by
    simp [loginCaptured, observed]
  rw [goesBack]
  by_cases browser : supervisor.browserManager = true
  · simp [loginNavigation, navigateToGame, browser, LedAway, LoginPoint.leadsAway, observed]
  · simp [loginNavigation, navigateToGame, browser, LedAway, observed]

theorem resumeLogin_ledAway (observed : supervisor.observing = true) (keepsPhase : Bool)
    {point : LoginPoint} (away : point.leadsAway supervisor) {answer : BrowserAnswer}
    (there : answer.page = true)
    : LedAway (supervisor.resumeLogin keepsPhase point answer).1
        (supervisor.resumeLogin keepsPhase point answer).2 := by
  cases point with
  | preflight =>
      simp only [resumeLogin]
      split
      · exact ⟨observed, by simp⟩
      · split
        · exact ⟨observed, trivial⟩
        · exact loginOnPage_ledAway observed (.inl there)
  | profile => exact ⟨observed, by simp [LoginPoint.leadsAway, resumeLogin, launchBrowser]⟩
  | launch =>
      simp only [resumeLogin]
      split
      · exact ⟨observed, away⟩
      · have restoring : supervisor.restoreSessionState.phase ≠ .observing := by
          simp [restoreSessionState]
        split <;> exact ⟨observed, restoring⟩
  | restore asked =>
      simp only [resumeLogin]
      split
      · exact ⟨observed, away⟩
      · exact loginOnPage_ledAway observed (.inl there)
  | pipeline =>
      simp only [resumeLogin]
      split
      · exact ⟨observed, away⟩
      · exact ⟨observed, by simp⟩
      · refine ⟨?_, ?_⟩
        · split <;> exact observed
        · split
          · exact away
          · simp
      · split
        · exact ⟨observed, away⟩
        · exact loginCaptured_ledAway observed
        · exact loginCaptured_ledAway observed
  | capture => exact loginCaptured_ledAway observed
  | navigation | observation | observed => exact away.elim
  | renavigation =>
      simp only [resumeLogin]
      split
      · exact ⟨observed, away⟩
      · exact ⟨observed, by simp [gameReached]⟩

/-- Nothing waits but such a login, if it is not over. -/
def Astray (run : SessionRun) : Prop :=
  (run.tasks = [] ∧ LedAway run.supervisor .finished)
  ∨ ∃ keepsPhase point,
      run.tasks = [.loggingIn keepsPhase point] ∧ LedAway run.supervisor (.awaits point)

theorem astray_begun (observed : run.supervisor.observing = true) (idle : run.tasks = [])
    (dryRun : Bool) {parts : BrowserParts} (there : parts.page = true)
    : Astray (run.next (.login dryRun parts)) := by
  have away := loginWithCredentials_ledAway observed there
  simp only [SessionRun.next, Astray, idle]
  cases progress : (run.supervisor.loginWithCredentials parts).2 with
  | finished => exact .inl ⟨rfl, progress ▸ away⟩
  | awaits point => exact .inr ⟨_, point, rfl, progress ▸ away⟩

theorem Astray.proceed (astray : Astray run) (index : Nat) {answer : BrowserAnswer}
    (there : answer.page = true)
    : Astray (run.next (.proceed index answer)) := by
  simp only [SessionRun.next]
  rcases astray with ⟨idle, ended⟩ | ⟨keepsPhase, point, alone, away⟩
  · simp only [idle, List.getElem?_nil]
    exact .inl ⟨idle, ended⟩
  · cases index with
    | succ later =>
        simp only [alone, List.getElem?_cons_succ, List.getElem?_nil]
        exact .inr ⟨keepsPhase, point, alone, away⟩
    | zero =>
        have after := resumeLogin_ledAway away.1 keepsPhase away.2 there
        simp only [alone, List.getElem?_cons_zero, SessionRun.proceed, Astray]
        cases progress : (run.supervisor.resumeLogin keepsPhase point answer).2 with
        | finished => exact .inl ⟨rfl, progress ▸ after⟩
        | awaits next => exact .inr ⟨keepsPhase, next, rfl, progress ▸ after⟩

/-- A login that is called while the session is observed and nothing else is in progress has taken
the phase away when it is over, whatever its steps answer, as long as the browser has its page.
-/
theorem login_over_disagrees (observed : run.supervisor.observing = true) (idle : run.tasks = [])
    (dryRun : Bool) {parts : BrowserParts} (there : parts.page = true)
    (answers : List (Nat × BrowserAnswer)) (stays : ∀ answer ∈ answers, answer.2.page = true)
    : let after := Runs.run SessionRun.next (run.next (.login dryRun parts))
        (answers.map fun answer => .proceed answer.1 answer.2)
      after.tasks = [] → ¬ PhaseAgrees after := by
  intro after done agrees
  have begun := astray_begun observed idle dryRun there
  have astray : Astray after := by
    simp only [after, run_map]
    exact (Always.of_forall_mem fun answer among _ => stays answer among).invariant
      (fun _ answer astray page => astray.proceed answer.1 page) begun
  rcases astray with ⟨_, ended⟩ | ⟨keepsPhase, point, waits, _⟩
  · exact ended.2 (agrees done ended.1)
  · cases waits.symm.trans done

/-- A start to its end. -/
def startToEnd : List SessionEvent := .start true :: List.replicate 7 (.proceed 0 {})

/-- A session that is started, stopped and started again, and a login without a browser. -/
theorem phase_agrees_restarted
    : Always SessionRun.next (fun run event => PhaseAgrees (run.next event)) {}
      (startToEnd ++ [.stop, .proceed 0 {}, .proceed 0 {}, .proceed 0 {}] ++ startToEnd) :=
  phase_agrees _ (by decide)

/-- A login that succeeds while the session is observed leaves the phase of a loading game. -/
theorem login_takes_phase
    : ¬ Always SessionRun.next (fun run event => PhaseAgrees (run.next event)) {}
      (startToEnd ++ [.login true {}, .proceed 0 { authentication := .authenticated },
        .proceed 0 {}, .proceed 0 {}]) := by
  decide

end SessionSupervisor

end CrashWave.Core
