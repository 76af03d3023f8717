import CrashWave.Betting.LiveExecutor
import CrashWave.Runs.Attempts
import CrashWave.Runs.Basic

/-! When `placeLiveBet` clicks at most once and reports what it did: exactly when the first
attempt that reaches the page is confirmed. Every other error after the click is taken for
a failed attempt, which is clicked again or returned as `FAILED`.
-/

namespace CrashWave.Betting

open CrashWave.Persistence JavaScript Runs

/-- The law of one placement: one click at most, `FAILED` only without a click, and
`UNKNOWN` after a click that was not confirmed.
-/
structure ClicksOnce (effects : List PageEffect) (state : BetState) : Prop where
  once : effects.count .clicked ≤ 1
  failedUnclicked : state = .failed → .clicked ∉ effects
  unconfirmedUnknown : .clicked ∈ effects → .confirmed ∉ effects → state = .unknown

/-- An attempt clicks the button. -/
def AttemptScript.Clicks (script : AttemptScript) : Prop := .clicked ∈ script.run.1

/-- An attempt is confirmed. -/
def AttemptScript.Confirms (script : AttemptScript) : Prop := script.run.2 = none

/-- Among the attempts from `first` on, the first one that clicks is confirmed. -/
def DecisiveFrom (script : Nat → AttemptScript) (first count : Nat) : Prop :=
  ∀ attempt, first ≤ attempt → attempt < first + count → (script attempt).Clicks
    → (∀ earlier, first ≤ earlier → earlier < attempt → ¬ (script earlier).Clicks)
    → (script attempt).Confirms

/-- The state that a placement reports for an end of its attempts. -/
def LiveAttemptsEnd.state : LiveAttemptsEnd → BetState
  | .confirmed _ => .confirmed
  | .failed _ _ => .failed

-----------------------------------------------------------------------------------------
-- One attempt
-----------------------------------------------------------------------------------------

/-- What one attempt does: it is confirmed after a click, or fails after at most one. -/
theorem AttemptScript.run_cases (script : AttemptScript)
    : script.run = ([.clicked, .confirmed], none)
      ∨ (∃ message, script.run = ([.clicked], some message))
      ∨ ∃ message, script.run = ([], some message) := by
  unfold AttemptScript.run
  split
  · next message setup => exact .inr (.inr ⟨message, rfl⟩)
  · split
    · next message performed click =>
        cases performed with
        | true => exact .inr (.inl ⟨message, rfl⟩)
        | false => exact .inr (.inr ⟨message, rfl⟩)
    · split
      · exact .inl rfl
      · exact .inr (.inl ⟨_, rfl⟩)
      · exact .inr (.inl ⟨_, rfl⟩)

theorem liveAttempts_failed {script : Nat → AttemptScript} {attempt : Nat}
    {effects : List PageEffect} {message : String}
    (failed : (script attempt).run = (effects, some message)) (remaining : Nat)
    (lastError : String)
    : liveAttempts script (remaining + 1) attempt lastError
      = (effects ++ (liveAttempts script remaining (attempt + 1) message).1,
        (liveAttempts script remaining (attempt + 1) message).2) := by
  simp [liveAttempts, failed]

theorem liveAttempts_confirmed {script : Nat → AttemptScript} {attempt : Nat}
    {effects : List PageEffect} (confirmed : (script attempt).run = (effects, none))
    (remaining : Nat) (lastError : String)
    : liveAttempts script (remaining + 1) attempt lastError
      = (effects, .confirmed attempt) := by
  simp [liveAttempts, confirmed]

-----------------------------------------------------------------------------------------
-- All attempts
-----------------------------------------------------------------------------------------

/-- Attempts that end confirmed have clicked, by induction on those that remain. -/
theorem clicked_of_confirmed {script : Nat → AttemptScript} {remaining attempt : Nat}
    {lastError : String}
    (confirmed : (liveAttempts script remaining attempt lastError).2.state = .confirmed)
    : .clicked ∈ (liveAttempts script remaining attempt lastError).1 := by
  induction remaining generalizing attempt lastError with
  | zero => cases confirmed
  | succ remaining ih =>
      rcases (script attempt).run_cases with done | ⟨message, clicked⟩ | ⟨message, silent⟩
      · simp [liveAttempts_confirmed done]
      · simp [liveAttempts_failed clicked]
      · rw [liveAttempts_failed silent] at confirmed ⊢
        exact List.mem_append_right _ (ih confirmed)

theorem LiveAttemptsEnd.state_cases (ended : LiveAttemptsEnd)
    : ended.state = .confirmed ∨ ended.state = .failed := by
  cases ended with
  | confirmed retryCount => exact .inl rfl
  | failed lastError retryCount => exact .inr rfl

/-- Where the first attempt does not click, only the later ones have to be decisive. -/
theorem decisiveFrom_succ {script : Nat → AttemptScript} {first count : Nat}
    (silent : ¬ (script first).Clicks)
    : DecisiveFrom script first (count + 1) ↔ DecisiveFrom script (first + 1) count :=
  firstHit_succ silent

/-- Where the first attempt clicks, only that one has to be confirmed. -/
theorem decisiveFrom_clicks {script : Nat → AttemptScript} {first count : Nat}
    (clicks : (script first).Clicks)
    : DecisiveFrom script first (count + 1) ↔ (script first).Confirms :=
  firstHit_of_hits clicks

/-- Attempts meet the law exactly when the script is decisive, by induction on the attempts
that remain.
-/
theorem liveAttempts_clicksOnce {script : Nat → AttemptScript} {remaining attempt : Nat}
    {lastError : String}
    : ClicksOnce (liveAttempts script remaining attempt lastError).1
        (liveAttempts script remaining attempt lastError).2.state
      ↔ DecisiveFrom script attempt remaining := by
  induction remaining generalizing attempt lastError with
  | zero =>
      refine iff_of_true ⟨by simp [liveAttempts], by simp [liveAttempts], ?_⟩ ?_
      · simp [liveAttempts]
      · intro other after before
        omega
  | succ remaining ih =>
      rcases (script attempt).run_cases with done | ⟨message, clicked⟩ | ⟨message, silent⟩
      · have clicks : (script attempt).Clicks := by simp [AttemptScript.Clicks, done]
        have confirms : (script attempt).Confirms := by simp [AttemptScript.Confirms, done]
        rw [decisiveFrom_clicks clicks, liveAttempts_confirmed done]
        refine iff_of_true ⟨by simp, ?_, ?_⟩ confirms
        · intro failed
          cases failed
        · intro _ unconfirmed
          exact absurd (by simp) unconfirmed
      · have clicks : (script attempt).Clicks := by simp [AttemptScript.Clicks, clicked]
        have fails : ¬ (script attempt).Confirms := by simp [AttemptScript.Confirms, clicked]
        rw [decisiveFrom_clicks clicks, liveAttempts_failed clicked]
        refine iff_of_false ?_ fails
        rintro ⟨once, failedUnclicked, -⟩
        rcases (liveAttempts script remaining (attempt + 1) message).2.state_cases with
          confirmed | failed
        · -- a later attempt was confirmed, so the button was clicked twice
          have again := clicked_of_confirmed confirmed
          simp [List.count_eq_zero, again] at once
        · exact failedUnclicked failed (by simp)
      · have silentAttempt : ¬ (script attempt).Clicks := by
          simp [AttemptScript.Clicks, silent]
        rw [decisiveFrom_succ silentAttempt, liveAttempts_failed silent, List.nil_append, ih]

-----------------------------------------------------------------------------------------
-- One placement
-----------------------------------------------------------------------------------------

/-- The idempotency key of a call. -/
def LivePlacementCall.key (call : LivePlacementCall) : String :=
  generateKey call.request.sessionId call.request.roundId

/-- The call is turned away before it attempts anything. -/
def LivePlacementCall.TurnedAway (call : LivePlacementCall) (config : LiveExecutorConfig)
    (store : InMemoryIdempotencyStore) : Prop :=
  call.stopped = true ∨ config.blockReason call.request.dryRun ≠ none ∨ call.pageOpen = false
  ∨ store.has call.key = true

/-- The law of a placement: its effects on the page, against the state it returns. -/
def LiveOutcome.Lawful (outcome : LiveOutcome) : Prop :=
  ClicksOnce outcome.effects outcome.result.state

/-- The call is turned away, or the first attempt that clicks is confirmed. -/
def LivePlacementCall.Decisive (call : LivePlacementCall) (config : LiveExecutorConfig)
    (store : InMemoryIdempotencyStore) : Prop :=
  call.TurnedAway config store ∨ DecisiveFrom call.script 0 config.attempts

/-- A call that is turned away only reports `FAILED`. -/
theorem placeLiveBet_turnedAway {config : LiveExecutorConfig} {state : LiveExecutorState}
    {call : LivePlacementCall} (turnedAway : call.TurnedAway config state.store)
    : ∃ error, placeLiveBet config state call
      = { result := call.request.fail error 0, state } := by
  unfold placeLiveBet
  dsimp only
  by_cases stopped : call.stopped = true
  · exact ⟨_, if_pos stopped⟩
  rw [if_neg stopped]
  cases blocked : config.blockReason call.request.dryRun with
  | some reason => exact ⟨reason, rfl⟩
  | none =>
      dsimp only
      cases page : call.pageOpen with
      | false => exact ⟨_, rfl⟩
      | true =>
          have reserved : state.store.has
              (generateKey call.request.sessionId call.request.roundId) = true := by
            simpa [LivePlacementCall.TurnedAway, stopped, blocked, page,
              LivePlacementCall.key] using turnedAway
          refine ⟨"Duplicate bet blocked by idempotency", ?_⟩
          simp [InMemoryIdempotencyStore.reserve, reserved]

/-- Any other call is attempted with its key reserved. -/
theorem placeLiveBet_attempted {config : LiveExecutorConfig} {state : LiveExecutorState}
    {call : LivePlacementCall} (goesOn : ¬ call.TurnedAway config state.store)
    : ∃ store, placeLiveBet config state call
      = call.attempted config { state with store } := by
  simp only [LivePlacementCall.TurnedAway, not_or, not_not, Bool.not_eq_true,
    Bool.not_eq_false] at goesOn
  obtain ⟨running, allowed, page, free⟩ := goesOn
  refine ⟨(state.store.reserve call.reservedAt call.request.sessionId call.request.roundId
    call.request.betId).2, ?_⟩
  have reserved : (state.store.reserve call.reservedAt call.request.sessionId
      call.request.roundId call.request.betId).1 = true := by
    rw [LivePlacementCall.key] at free
    simp [InMemoryIdempotencyStore.reserve, free]
  unfold placeLiveBet
  dsimp only
  rw [if_neg (by simp [running]), allowed]
  simp only [page, reserved, Bool.not_true, Bool.false_eq_true, if_false]

/-- An attempted call has the effects of its attempts and reports how they ended. -/
theorem attempted_effects (call : LivePlacementCall) (config : LiveExecutorConfig)
    (state : LiveExecutorState)
    : (call.attempted config state).effects
        = (liveAttempts call.script config.attempts 0 "placement_failed").1
      ∧ (call.attempted config state).result.state
        = (liveAttempts call.script config.attempts 0 "placement_failed").2.state := by
  unfold LivePlacementCall.attempted
  dsimp only
  cases (liveAttempts call.script config.attempts 0 "placement_failed").2 with
  | confirmed retryCount => exact ⟨rfl, rfl⟩
  | failed lastError retryCount => exact ⟨rfl, rfl⟩

/-- A placement is lawful exactly when it is decisive. -/
theorem placeLiveBet_lawful_iff (config : LiveExecutorConfig) (state : LiveExecutorState)
    (call : LivePlacementCall)
    : (placeLiveBet config state call).Lawful ↔ call.Decisive config state.store := by
  by_cases turnedAway : call.TurnedAway config state.store
  · obtain ⟨error, refused⟩ := placeLiveBet_turnedAway turnedAway
    refine iff_of_true ?_ (.inl turnedAway)
    rw [LiveOutcome.Lawful, refused]
    exact ⟨by simp, by simp, by simp⟩
  · obtain ⟨store, attempted⟩ := placeLiveBet_attempted turnedAway
    obtain ⟨effects, reported⟩ := attempted_effects call config { state with store }
    rw [LiveOutcome.Lawful, attempted, effects, reported, liveAttempts_clicksOnce,
      LivePlacementCall.Decisive, or_iff_right turnedAway]

-----------------------------------------------------------------------------------------
-- Sequences of placements
-----------------------------------------------------------------------------------------

/-- The executor's state between calls, and the key of every click. -/
structure LiveRunState where
  executor : LiveExecutorState
  clickedKeys : List String

/-- What happens to the executor: a placement, or a sweep of the cleanup timer. -/
inductive LiveActivity where
  | place (call : LivePlacementCall)
  | cleanup (now : Int)

/-- One activity of the executor. -/
def liveStep (config : LiveExecutorConfig) (state : LiveRunState)
    : LiveActivity → LiveRunState
  | .place call =>
      let outcome := placeLiveBet config state.executor call
      { executor := outcome.state
        clickedKeys :=
          state.clickedKeys ++ List.replicate (outcome.effects.count .clicked) call.key }
  | .cleanup now =>
      { state with
        executor := { state.executor with store := state.executor.store.cleanup now } }

/-- A placement of the run is lawful. -/
def ClicksLawfully (config : LiveExecutorConfig) (state : LiveRunState)
    : LiveActivity → Prop
  | .place call => (placeLiveBet config state.executor call).Lawful
  | .cleanup _ => True

/-- A placement is decisive, and a key that was clicked for is still on record when it is
used again.
-/
def ClicksDecisively (config : LiveExecutorConfig) (state : LiveRunState)
    : LiveActivity → Prop
  | .place call =>
      call.Decisive config state.executor.store
      ∧ (call.key ∈ state.clickedKeys → call.TurnedAway config state.executor.store)
  | .cleanup _ => True

/-- No key has two clicks. -/
def OneClickPerKey (state : LiveRunState) : Prop := state.clickedKeys.Nodup

/-- A decisive activity is lawful and repeats no click. -/
theorem liveStep_decisive {config : LiveExecutorConfig} {state : LiveRunState}
    {activity : LiveActivity} (distinct : OneClickPerKey state)
    (decisive : ClicksDecisively config state activity)
    : ClicksLawfully config state activity
      ∧ OneClickPerKey (liveStep config state activity) := by
  cases activity with
  | cleanup now => exact ⟨trivial, distinct⟩
  | place call =>
      obtain ⟨script, onRecord⟩ := decisive
      have law := (placeLiveBet_lawful_iff config state.executor call).mpr script
      refine ⟨law, ?_⟩
      simp only [OneClickPerKey, liveStep]
      by_cases turnedAway : call.TurnedAway config state.executor.store
      · obtain ⟨error, refused⟩ := placeLiveBet_turnedAway turnedAway
        simpa [refused, OneClickPerKey] using distinct
      · have fresh : call.key ∉ state.clickedKeys := fun again =>
          turnedAway (onRecord again)
        exact nodup_append_replicate distinct fresh law.once

/-- A single placement is lawful exactly when it is decisive. In every sequence of
placements and sweeps whose placements are decisive and find the keys they clicked for
still on record, every placement is lawful and no key has two clicks.
-/
theorem livePlacements_lawful_of_decisive (config : LiveExecutorConfig)
    (executor : LiveExecutorState)
    : (∀ call : LivePlacementCall,
        (placeLiveBet config executor call).Lawful ↔ call.Decisive config executor.store)
      ∧ ∀ activities : List LiveActivity,
        Always (liveStep config) (ClicksDecisively config)
          { executor, clickedKeys := [] } activities
        → Always (liveStep config) (ClicksLawfully config)
            { executor, clickedKeys := [] } activities
          ∧ OneClickPerKey
            (run (liveStep config) { executor, clickedKeys := [] } activities) := by
  refine ⟨placeLiveBet_lawful_iff config executor, fun activities decisive => ?_⟩
  have initial : OneClickPerKey { executor, clickedKeys := [] } := List.nodup_nil
  exact Always.of_invariant_run (fun _ _ => liveStep_decisive) decisive initial

/-- A configuration that allows real execution. -/
def liveConfig (maxPlacementRetries : Int) : LiveExecutorConfig where
  systemMode := some "live"
  env := { appSystemMode := some "live", allowRealExecution := some "true" }
  maxPlacementRetries

/-- A call for round `r1` on a page with this script. -/
def livePlacement (script : Nat → AttemptScript) : LivePlacementCall where
  request :=
    { betId := "request-1", roundId := "r1", sessionId := "s1", dryRun := false, stake := 700,
      target := 2 }
  script
  reservedAt := 0
  dailyKey := "2024-01-01"
  createdId := "bet-1"
  createdAt := 0
  confirmedAt := 1

/-- An executor without reservations and bets. -/
def idleExecutor : LiveExecutorState where
  store := ∅
  tables := { bets := ∅ }

/-- The first click times out before it reaches the page, the second one is confirmed: one
click, and the same round is turned away a minute later.
-/
theorem livePlacements_lawful_slowButton
    : let slowButton (attempt : Nat) : AttemptScript :=
        if attempt = 0 then { click := .threw "Timeout 10000ms exceeded" false } else {}
      let activities : List LiveActivity :=
        [.place (livePlacement slowButton), .cleanup 60000, .place (livePlacement slowButton)]
      let start : LiveRunState := { executor := idleExecutor, clickedKeys := [] }
      (run (liveStep (liveConfig 2)) start activities).clickedKeys = ["s1:r1"]
      ∧ Always (liveStep (liveConfig 2)) (ClicksLawfully (liveConfig 2)) start activities := by
  intro slowButton activities start
  refine ⟨by decide +kernel, ?_⟩
  refine ((livePlacements_lawful_of_decisive (liveConfig 2) idleExecutor).2 activities ?_).1
  have decisive : DecisiveFrom slowButton 0 3 := by
    intro attempt _ _ clicks _
    by_cases first : attempt = 0
    · simp [slowButton, first, AttemptScript.Clicks, AttemptScript.run,
        AttemptScript.setupError] at clicks
    · simp [slowButton, first, AttemptScript.Confirms, AttemptScript.run,
        AttemptScript.setupError]
  refine ⟨⟨.inr decisive, ?_⟩, trivial, ⟨.inr decisive, ?_⟩, trivial⟩
  · intro again
    exact absurd again (by decide)
  · intro _
    exact .inr (.inr (.inr (by decide +kernel)))

/-- An indicator that is late makes the executor click a second time, and one that never
shows makes it report a clicked bet as `FAILED`.
-/
theorem placeLiveBet_clicks_twice
    : let late (attempt : Nat) : AttemptScript :=
        if attempt = 0 then { indicator := .notVisible } else {}
      let never (_ : Nat) : AttemptScript := { indicator := .notVisible }
      let twice := placeLiveBet (liveConfig 2) idleExecutor (livePlacement late)
      let failed := placeLiveBet (liveConfig 0) idleExecutor (livePlacement never)
      (twice.effects = [.clicked, .clicked, .confirmed] ∧ ¬ twice.Lawful)
      ∧ failed.effects = [.clicked] ∧ failed.result.state = .failed ∧ ¬ failed.Lawful := by
  intro late never twice failed
  have twoClicks : twice.effects = [.clicked, .clicked, .confirmed] := by decide +kernel
  have oneClick : failed.effects = [.clicked] := by decide +kernel
  have reported : failed.result.state = .failed := by decide +kernel
  refine ⟨⟨twoClicks, ?_⟩, oneClick, reported, ?_⟩
  · intro law
    have once := law.once
    rw [twoClicks] at once
    exact absurd once (by decide)
  · intro law
    have unclicked := law.failedUnclicked reported
    rw [oneClick] at unclicked
    exact absurd unclicked (by decide)

end CrashWave.Betting
