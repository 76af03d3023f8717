import Mathlib.Tactic.TypeStar

/-! The session supervisor, as the segments its operations run between two awaits. A segment
leaves the supervisor in a new state and says what is awaited next.
-/

namespace CrashWave.Core

/-- The phase of the session. -/
inductive SupervisorPhase where
  | idle
  | initializing
  | launchingBrowser
  | restoringSession
  | authenticating
  | authRequired
  | browserFailed
  | regionBlocked
  | navigating
  | loadingGame
  | observing
  | paused
  | recovering
  | error
  | stopped
  | preflightFailed
  deriving DecidableEq

/-- The supervisor: its phase and flags, and whether it holds a browser and a session. -/
structure SessionSupervisor where
  phase : SupervisorPhase := .idle
  browserManager : Bool := false
  browserSession : Bool := false
  browserLaunched : Bool := false
  authenticated : Bool := false
  gameLoaded : Bool := false
  observing : Bool := false
  deriving DecidableEq

/-- `isObserving`. -/
def SessionSupervisor.isObserving (supervisor : SessionSupervisor) : Bool :=
  supervisor.observing && supervisor.phase = .observing

/-- What the page says about authentication. -/
inductive PageAuthentication where
  | regionBlocked
  | authenticated
  | unauthenticated
  | threw
  deriving DecidableEq

/-- Whether the browser manager has a page and a context, without which `getPage` and `getContext`
throw.
-/
structure BrowserParts where
  page : Bool := true
  context : Bool := true
  deriving DecidableEq

/-- What an awaited call of the browser yields, and what is there afterwards. -/
structure BrowserAnswer extends BrowserParts where
  threw : Bool := false
  namesBrowser : Bool := false
  preflightOk : Bool := true
  authentication : PageAuthentication := .unauthenticated
  deriving DecidableEq

/-- How far a method comes that asks the session about the page or the context. -/
inductive SessionQuery where
  /-- The browser manager threw. -/
  | refused
  | asked
  /-- There is no browser manager, or no session. -/
  | skipped
  deriving DecidableEq

/-- What an operation does after a segment: it awaits again, or it is over. -/
inductive Progress (π : Type) where
  | awaits (point : π)
  | finished
  deriving DecidableEq

namespace SessionSupervisor

-----------------------------------------------------------------------------------------
-- Parts that start and login share
-----------------------------------------------------------------------------------------

/-- After the profile is initialised, which may fail: the browser is about to launch. -/
def launchBrowser (supervisor : SessionSupervisor) : SessionSupervisor :=
  { supervisor with
    browserSession := true
    phase := .launchingBrowser
    browserManager := true }

/-- Asks the session about the page or the context, if that is there. -/
def querySession (supervisor : SessionSupervisor) (there : Bool) : SessionQuery :=
  if !supervisor.browserManager then .skipped
  else if !there then .refused
  else if supervisor.browserSession then .asked
  else .skipped

/-- `startHealthMonitoring` throws, as the browser manager has no page. -/
def getPageThrows (supervisor : SessionSupervisor) (page : Bool) : Bool :=
  supervisor.browserManager && !page

/-- The browser is launched, and the session is about to be restored. -/
def restoreSessionState (supervisor : SessionSupervisor) : SessionSupervisor :=
  { supervisor with browserLaunched := true, phase := .restoringSession }

/-- `navigateToGame` up to its await; the second part says whether it throws there. -/
def navigateToGame (supervisor : SessionSupervisor) : SessionSupervisor × Bool :=
  ({ supervisor with phase := .navigating }, !supervisor.browserManager)

/-- The end of `navigateToGame`. -/
def gameReached (supervisor : SessionSupervisor) : SessionSupervisor :=
  { supervisor with gameLoaded := true, phase := .loadingGame }

/-- The end of `initializeObservation`. -/
def observationInitialized (supervisor : SessionSupervisor) : SessionSupervisor :=
  { supervisor with observing := true }

/-- What follows `initializeObservation`. -/
def observationStarted (supervisor : SessionSupervisor) : SessionSupervisor :=
  { supervisor with phase := .observing, observing := true }

-----------------------------------------------------------------------------------------
-- Start
-----------------------------------------------------------------------------------------

/-- What `start` awaits. The restored session and the authentication may not have been asked for. -/
inductive StartPoint where
  | profile
  | launch
  | restore (asked : Bool)
  | authentication (asked : Bool)
  | navigation
  | observation
  | observed
  deriving DecidableEq

/-- `start` fails: the phase tells whether the browser is named in the message. -/
def startFailed (supervisor : SessionSupervisor) (namesBrowser : Bool)
    : SessionSupervisor × Progress StartPoint :=
  ({ supervisor with phase := if namesBrowser then .browserFailed else .error }, .finished)

/-- `start` up to its first await. -/
def start (supervisor : SessionSupervisor) : SessionSupervisor × Progress StartPoint :=
  if supervisor.phase ≠ .idle ∧ supervisor.phase ≠ .stopped then (supervisor, .finished)
  else ({ supervisor with phase := .initializing }, .awaits .profile)

/-- `start` goes on to the game, whose navigation throws without a browser. -/
def startNavigation (supervisor : SessionSupervisor)
    : SessionSupervisor × Progress StartPoint :=
  let (navigating, throws) := supervisor.navigateToGame
  if throws then navigating.startFailed true else (navigating, .awaits .navigation)

/-- The authentication that `start` finds on the page. -/
def refreshAuthStatus (supervisor : SessionSupervisor) (answer : BrowserAnswer)
    : SessionSupervisor :=
  match answer.authentication with
  | .regionBlocked => { supervisor with authenticated := false, phase := .regionBlocked }
  | .authenticated => { supervisor with authenticated := true }
  | .unauthenticated | .threw => supervisor

/-- `start` goes on with a query of the session, which throws without what it is about. -/
def startQuery (supervisor : SessionSupervisor) (there : Bool) (point : Bool → StartPoint)
    : SessionSupervisor × Progress StartPoint :=
  match supervisor.querySession there with
  | .refused => supervisor.startFailed true
  | .asked => (supervisor, .awaits (point true))
  | .skipped => (supervisor, .awaits (point false))

/-- `start` after an await. `authOptional` is its mode: dry-run or observe-only. -/
def resumeStart (supervisor : SessionSupervisor) (authOptional : Bool) (point : StartPoint)
    (answer : BrowserAnswer) : SessionSupervisor × Progress StartPoint :=
  match point with
  | .profile => (supervisor.launchBrowser, .awaits .launch)
  | .launch =>
      if answer.threw then supervisor.startFailed answer.namesBrowser
      else supervisor.restoreSessionState.startQuery answer.context .restore
  | .restore asked =>
      if asked && answer.threw then supervisor.startFailed answer.namesBrowser
      else supervisor.startQuery answer.page .authentication
  | .authentication asked =>
      let refreshed := if asked then supervisor.refreshAuthStatus answer else supervisor
      if authOptional || refreshed.authenticated then refreshed.startNavigation
      else ({ refreshed with phase := .authRequired }, .finished)
  | .navigation =>
      if answer.threw then supervisor.startFailed answer.namesBrowser
      else if !supervisor.browserManager then supervisor.gameReached.startFailed false
      else if !answer.page then supervisor.gameReached.startFailed true
      else (supervisor.gameReached, .awaits .observation)
  | .observation =>
      if answer.threw then supervisor.startFailed answer.namesBrowser
      else (supervisor.observationInitialized, .awaits .observed)
  | .observed =>
      if supervisor.getPageThrows answer.page then supervisor.startFailed true
      else (supervisor.observationStarted, .finished)

-----------------------------------------------------------------------------------------
-- Stop
-----------------------------------------------------------------------------------------

/-- What `stop` awaits. -/
inductive StopPoint where
  | roundObserver
  | gameAdapter
  | browser
  deriving DecidableEq

/-- `stop` up to its first await. -/
def stop (supervisor : SessionSupervisor) : SessionSupervisor × Progress StopPoint :=
  ({ supervisor with phase := .stopped, observing := false }, .awaits .roundObserver)

/-- The end of `stop`. -/
def stopped (supervisor : SessionSupervisor) : SessionSupervisor :=
  { supervisor with browserManager := false, browserLaunched := false }

/-- `stop` after an await, none of whose failures matters. -/
def resumeStop (supervisor : SessionSupervisor) (point : StopPoint)
    : SessionSupervisor × Progress StopPoint :=
  match point with
  | .roundObserver => (supervisor, .awaits .gameAdapter)
  | .gameAdapter =>
      if supervisor.browserManager then (supervisor, .awaits .browser)
      else (supervisor.stopped, .finished)
  | .browser => (supervisor.stopped, .finished)

-----------------------------------------------------------------------------------------
-- Pause and resume
-----------------------------------------------------------------------------------------

/-- `pause`, whose only await comes last. -/
def pause (supervisor : SessionSupervisor) : SessionSupervisor :=
  { supervisor with phase := .paused, observing := false }

/-- What `resume` awaits. -/
inductive ResumePoint where
  | observation
  | observed
  deriving DecidableEq

/-- `resume` up to its first await. -/
def resume (supervisor : SessionSupervisor) (page : Bool)
    : SessionSupervisor × Progress ResumePoint :=
  if supervisor.phase ≠ .paused then (supervisor, .finished)
  else if !(supervisor.browserManager && page) then (supervisor, .finished)
  else (supervisor, .awaits .observation)

/-- `resume` after an await. -/
def resumeResume (supervisor : SessionSupervisor) (point : ResumePoint) (answer : BrowserAnswer)
    : SessionSupervisor × Progress ResumePoint :=
  match point with
  | .observation =>
      if answer.threw then (supervisor, .finished)
      else (supervisor.observationInitialized, .awaits .observed)
  | .observed => (supervisor.observationStarted, .finished)

-----------------------------------------------------------------------------------------
-- Login
-----------------------------------------------------------------------------------------

/-- What `loginWithCredentials` awaits. -/
inductive LoginPoint where
  | preflight
  | profile
  | launch
  | restore (asked : Bool)
  | pipeline
  | capture
  | navigation
  | observation
  | observed
  | renavigation
  deriving DecidableEq

/-- `loginWithCredentials` needs a browser before it goes to the page. -/
def loginNeedsBrowser (supervisor : SessionSupervisor) : Bool :=
  !supervisor.browserManager || !supervisor.browserLaunched

/-- `loginWithCredentials` goes to the page and authenticates there. Without the page or the context
of a browser it is over, with the phase that it has then.
-/
def loginOnPage (supervisor : SessionSupervisor) (parts : BrowserParts)
    : SessionSupervisor × Progress LoginPoint :=
  if !supervisor.browserManager then ({ supervisor with phase := .browserFailed }, .finished)
  else if !parts.page then (supervisor, .finished)
  else
    let authenticating := { supervisor with phase := .authenticating }
    (authenticating, if parts.context then .awaits .pipeline else .finished)

/-- `loginWithCredentials` up to its first await. -/
def loginWithCredentials (supervisor : SessionSupervisor) (parts : BrowserParts)
    : SessionSupervisor × Progress LoginPoint :=
  if !supervisor.browserLaunched then (supervisor, .awaits .preflight)
  else if supervisor.loginNeedsBrowser then (supervisor, .awaits .profile)
  else supervisor.loginOnPage parts

/-- A navigation of `loginWithCredentials`, over when there is no browser. -/
def loginNavigation (supervisor : SessionSupervisor) (point : LoginPoint)
    : SessionSupervisor × Progress LoginPoint :=
  let (navigating, throws) := supervisor.navigateToGame
  if throws then (navigating, .finished) else (navigating, .awaits point)

/-- `loginWithCredentials` after the capture of the session, whose failures do not matter. -/
def loginCaptured (supervisor : SessionSupervisor) : SessionSupervisor × Progress LoginPoint :=
  supervisor.loginNavigation (if supervisor.observing then .renavigation else .navigation)

/-- `loginWithCredentials` after an await. `keepsPhase` is a dry run that was observing when
it began.
-/
def resumeLogin (supervisor : SessionSupervisor) (keepsPhase : Bool) (point : LoginPoint)
    (answer : BrowserAnswer) : SessionSupervisor × Progress LoginPoint :=
  match point with
  | .preflight =>
      if !answer.preflightOk then ({ supervisor with phase := .preflightFailed }, .finished)
      else if supervisor.loginNeedsBrowser then (supervisor, .awaits .profile)
      else supervisor.loginOnPage answer.toBrowserParts
  | .profile => (supervisor.launchBrowser, .awaits .launch)
  | .launch =>
      if answer.threw then (supervisor, .finished)
      else
        let restoring := supervisor.restoreSessionState
        match restoring.querySession answer.context with
        | .refused => (restoring, .finished)
        | .asked => (restoring, .awaits (.restore true))
        | .skipped => (restoring, .awaits (.restore false))
  | .restore asked =>
      if asked && answer.threw then (supervisor, .finished)
      else supervisor.loginOnPage answer.toBrowserParts
  | .pipeline =>
      match answer.authentication with
      | .threw => (supervisor, .finished)
      | .regionBlocked =>
          ({ supervisor with authenticated := false, phase := .regionBlocked }, .finished)
      | .unauthenticated =>
          let refused := { supervisor with authenticated := false }
          (if keepsPhase then refused else { refused with phase := .authRequired }, .finished)
      | .authenticated =>
          let accepted := { supervisor with authenticated := true }
          match accepted.querySession answer.context with
          | .asked => (accepted, .awaits .capture)
          | .refused | .skipped => accepted.loginCaptured
  | .capture => supervisor.loginCaptured
  | .navigation =>
      if answer.threw then (supervisor, .finished)
      else if !supervisor.browserManager || !answer.page then (supervisor.gameReached, .finished)
      else (supervisor.gameReached, .awaits .observation)
  | .observation =>
      if answer.threw then (supervisor, .finished)
      else (supervisor.observationInitialized, .awaits .observed)
  | .observed =>
      if supervisor.getPageThrows answer.page then (supervisor, .finished)
      else (supervisor.observationStarted, .finished)
  | .renavigation =>
      if answer.threw then (supervisor, .finished) else (supervisor.gameReached, .finished)

end SessionSupervisor

end CrashWave.Core
