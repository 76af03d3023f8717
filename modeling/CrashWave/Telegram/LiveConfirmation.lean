import CrashWave.Runs.Basic
import CrashWave.Telegram.Commands

/-! How the system enters live mode: through `/mode live` and `/mode confirm`, and past them
through a configuration change.
-/

namespace CrashWave.Telegram

open CrashWave.App JavaScript Runs

-----------------------------------------------------------------------------------------
-- The confirmation protocol
-----------------------------------------------------------------------------------------

/-- A `/mode` command that asks for live mode. -/
def Invocation.RequestsLive (invocation : Invocation) : Prop :=
  invocation.command = .mode
  ∧ ∃ first rest, invocation.args = first :: rest
    ∧ requestedMode (toLowerCase first) = some (.mode .live)

/-- The latest live-mode request of an operator in a history, newest command first, that no
emergency stop has followed.
-/
inductive LatestLiveRequest (operator : String) : List Invocation → Invocation → Prop where
  | here {request : Invocation} {earlier : List Invocation}
      (requests : request.RequestsLive) (own : request.ctx.operator = operator)
      : LatestLiveRequest operator (request :: earlier) request
  | later {request command : Invocation} {earlier : List Invocation}
      (notStop : command.command ≠ .emergencystop)
      (other : ¬ (command.RequestsLive ∧ command.ctx.operator = operator))
      (latest : LatestLiveRequest operator earlier request)
      : LatestLiveRequest operator (command :: earlier) request

/-- A `/mode confirm` with the token issued to its operator's latest live-mode request, at
most sixty seconds later.
-/
def Invocation.ConfirmsLive (history : List Invocation) (invocation : Invocation) : Prop :=
  invocation.command = .mode
  ∧ ∃ first rest, invocation.args = first :: rest ∧ toLowerCase first = "confirm"
    ∧ ∃ request, LatestLiveRequest invocation.ctx.operator history request
      ∧ toUpperCase (trim (rest.headD "")) = generateToken request.random
      ∧ invocation.now ≤ request.now + 60000

/-- The command makes the mode live in a place where it was not. -/
def Invocation.EntersLive (state : CommandState) (invocation : Invocation) : Prop :=
  ∃ holder, state.runtime.isLive holder = false
    ∧ (handleCommand state invocation).runtime.isLive holder = true

/-- A command with the commands before it, newest first. -/
def recordCommand (history : List Invocation) (_ : CommandState) (invocation : Invocation)
    : List Invocation :=
  invocation :: history

/-- Commands one after the other, with the history they make. -/
def commandStep : CommandState × List Invocation → Invocation
    → CommandState × List Invocation :=
  watched handleCommand recordCommand

/-- The law: live mode is entered only by a confirmation of the latest request. -/
def EntersLiveConfirmed (state : CommandState × List Invocation) (invocation : Invocation)
    : Prop :=
  invocation.EntersLive state.1 → invocation.ConfirmsLive state.2

/-- A `/config confirm` with a valid token for a change of `system.mode` to `live`. -/
def Invocation.ConfirmsConfigLive (state : CommandState) (invocation : Invocation) : Prop :=
  invocation.command = .config
  ∧ ∃ first rest, invocation.args = first :: rest ∧ toLowerCase first = "confirm"
    ∧ ∃ pending, invocation.ConfigTokenValid state.requests rest pending
      ∧ pending.key = "system.mode" ∧ pending.value = "live"

-----------------------------------------------------------------------------------------
-- Which calls make the system live
-----------------------------------------------------------------------------------------

/-- A call makes a mode live only when it sets the mode, or the key of the mode. -/
theorem DependencyCall.apply_isLive {runtime : Runtime} {call : DependencyCall}
    {holder : ModeHolder} (live : (call.apply runtime).isLive holder = true)
    : runtime.isLive holder = true ∨ call = .setSystemMode (.mode .live)
      ∨ (holder = .config ∧ call = .setConfigValue "system.mode" "live") := by
  cases call with
  | setSystemMode mode =>
      rcases Runtime.setSystemMode_isLive live with before | rfl
      · exact .inl before
      · exact .inr (.inl rfl)
  | setConfigValue key value =>
      rcases Runtime.setConfigValue_isLive live with before | ⟨inConfig, rfl, rfl⟩
      · exact .inl before
      · exact .inr (.inr ⟨inConfig, rfl⟩)
  | pauseSystem | resumeSystem | stopSystem => cases holder <;> exact .inl live
  | _ => exact .inl live

/-- Calls in order make a mode live only when one of them does, by list induction. -/
theorem applyAll_isLive {runtime : Runtime} {calls : List DependencyCall}
    {holder : ModeHolder}
    (live : (calls.foldl DependencyCall.apply runtime).isLive holder = true)
    : runtime.isLive holder = true ∨ .setSystemMode (.mode .live) ∈ calls
      ∨ (holder = .config ∧ .setConfigValue "system.mode" "live" ∈ calls) := by
  induction calls generalizing runtime with
  | nil => exact .inl live
  | cons call rest ih =>
      rcases ih live with first | byMode | ⟨inConfig, byConfig⟩
      · rcases DependencyCall.apply_isLive first with before | rfl | ⟨inConfig, rfl⟩
        · exact .inl before
        · exact .inr (.inl List.mem_cons_self)
        · exact .inr (.inr ⟨inConfig, List.mem_cons_self⟩)
      · exact .inr (.inl (List.mem_cons_of_mem _ byMode))
      · exact .inr (.inr ⟨inConfig, List.mem_cons_of_mem _ byConfig⟩)

/-- Only a `/mode confirm` with a valid token calls for live mode. -/
theorem setsLive_of_handler {state : CommandState} {invocation : Invocation}
    (member : .setSystemMode (.mode .live) ∈ (handler state invocation).calls)
    : invocation.command = .mode
      ∧ ∃ first rest, invocation.args = first :: rest ∧ toLowerCase first = "confirm"
        ∧ invocation.LiveTokenValid state.requests rest := by
  cases command : invocation.command
  case mode =>
    rw [handler, command] at member
    obtain ⟨first, rest, args, ⟨confirm, -, valid⟩ | ⟨-, mode, notLive, -, call⟩⟩ :=
      mem_handleMode.mp member
    · exact ⟨rfl, first, rest, args, confirm, valid⟩
    · exact absurd (DependencyCall.setSystemMode.inj call).symm notLive
  case config =>
    rw [handler, command] at member
    obtain ⟨_, _, -, -, _, -, contradiction⟩ := mem_handleConfig.mp member
    cases contradiction
  all_goals simp [handler, command, handlePause, handleEmergencyStop] at member

/-- Only a `/config confirm` with a valid token calls for a change of the configuration. -/
theorem setsConfig_of_handler {state : CommandState} {invocation : Invocation}
    {key value : String}
    (member : .setConfigValue key value ∈ (handler state invocation).calls)
    : invocation.command = .config
      ∧ ∃ first rest, invocation.args = first :: rest ∧ toLowerCase first = "confirm"
        ∧ ∃ pending, invocation.ConfigTokenValid state.requests rest pending
          ∧ pending.key = key ∧ pending.value = value := by
  cases command : invocation.command
  case mode =>
    rw [handler, command] at member
    obtain ⟨_, _, -, ⟨-, contradiction, -⟩ | ⟨-, _, -, -, contradiction⟩⟩ :=
      mem_handleMode.mp member
    · cases contradiction
    · cases contradiction
  case config =>
    rw [handler, command] at member
    obtain ⟨first, rest, args, confirm, pending, valid, call⟩ := mem_handleConfig.mp member
    obtain ⟨key, value⟩ := DependencyCall.setConfigValue.inj call
    exact ⟨rfl, first, rest, args, confirm, pending, valid, key.symm, value.symm⟩
  all_goals simp [handler, command, handlePause, handleEmergencyStop] at member

/-- Only a confirmation enters live mode: of the operator's pending request, or of a pending
change of the key of the mode, where the configuration is not live.
-/
theorem Invocation.EntersLive.confirmation {state : CommandState} {invocation : Invocation}
    (enters : invocation.EntersLive state)
    : (invocation.command = .mode
        ∧ ∃ first rest, invocation.args = first :: rest ∧ toLowerCase first = "confirm"
          ∧ invocation.LiveTokenValid state.requests rest)
      ∨ (state.runtime.isLive .config = false ∧ invocation.ConfirmsConfigLive state) := by
  obtain ⟨holder, before, after⟩ := enters
  rcases applyAll_isLive after with live | byMode | ⟨rfl, byConfig⟩
  · rw [before] at live
    cases live
  · exact .inl (setsLive_of_handler byMode)
  · exact .inr ⟨before, setsConfig_of_handler byConfig⟩

-----------------------------------------------------------------------------------------
-- What the pending requests stem from
-----------------------------------------------------------------------------------------

/-- Every pending live-mode request is the latest one of its operator, with its token and
its time to live.
-/
def LiveRequestsIssued (state : CommandState × List Invocation) : Prop :=
  ∀ operator pending,
    state.1.requests.pendingLiveConfirmations.get operator = some pending
    → ∃ request, LatestLiveRequest operator state.2 request
      ∧ pending.token = generateToken request.random
      ∧ pending.expiresAt = request.now + 60000

/-- A confirmation adds no live-mode request. -/
theorem handleLiveConfirm_keeps {requests : PendingRequests} {invocation : Invocation}
    {args : List String} {operator : String} {pending : PendingLiveConfirmation}
    (found : (handleLiveConfirm requests invocation args).requests.pendingLiveConfirmations.get
      operator = some pending)
    : requests.pendingLiveConfirmations.get operator = some pending := by
  unfold handleLiveConfirm at found
  simp only at found
  split at found
  · exact found
  split at found
  · exact found
  split at found
  · exact Map.get_of_get_delete found
  split at found
  · exact found
  · exact Map.get_of_get_delete found

/-- A configuration command leaves the live-mode requests. -/
theorem handleConfig_keeps {requests : PendingRequests} {config : Value}
    {invocation : Invocation}
    : (handleConfig requests config invocation).requests.pendingLiveConfirmations
      = requests.pendingLiveConfirmations := by
  unfold handleConfig
  cases invocation.args with
  | nil => rfl
  | cons first rest =>
      simp only
      split
      · rfl
      split
      · unfold handleConfigSet
        split
        · split <;> rfl
        · rfl
      split
      · unfold handleConfigConfirm
        split
        · rfl
        simp only
        split
        · rfl
        split
        · rfl
        split <;> rfl
      · rfl

theorem handleLogin_keeps {requests : PendingRequests} {invocation : Invocation}
    : (handleLogin requests invocation).requests.pendingLiveConfirmations
        = requests.pendingLiveConfirmations
      ∧ (handleLoginCancel requests invocation).requests.pendingLiveConfirmations
        = requests.pendingLiveConfirmations := by
  unfold handleLogin handleLoginCancel
  constructor <;> split <;> rfl

/-- `/mode` adds a live-mode request when it is one, and no other entry. -/
theorem handleMode_liveRequests {requests : PendingRequests} {invocation : Invocation}
    (command : invocation.command = .mode)
    : let after := (handleMode requests invocation).requests.pendingLiveConfirmations
      (invocation.RequestsLive
        ∧ after = requests.pendingLiveConfirmations.set invocation.ctx.operator
          { token := generateToken invocation.random, expiresAt := invocation.now + 60000 })
      ∨ (¬ invocation.RequestsLive
        ∧ ∀ operator pending, after.get operator = some pending
          → requests.pendingLiveConfirmations.get operator = some pending) := by
  unfold handleMode
  cases given : invocation.args with
  | nil =>
      right
      refine ⟨?_, fun operator pending found => found⟩
      rintro ⟨-, first, rest, args, -⟩
      cases given.symm.trans args
  | cons first rest =>
      have requestsLive : invocation.RequestsLive
          ↔ requestedMode (toLowerCase first) = some (.mode .live) := by
        simp [Invocation.RequestsLive, command, given]
      rw [requestsLive]
      by_cases confirm : toLowerCase first = "confirm"
      · right
        have none : requestedMode "confirm" = none := by decide +kernel
        refine ⟨by simp [confirm, none], fun operator pending found => ?_⟩
        simp only [confirm, if_true] at found
        exact handleLiveConfirm_keeps found
      simp only [confirm, if_false]
      cases requestedMode (toLowerCase first) with
      | none => exact .inr ⟨by simp, fun _ _ found => found⟩
      | some mode =>
          cases mode with
          | inherited => exact .inr ⟨by simp, fun _ _ found => found⟩
          | mode mode =>
              cases mode
              case live => exact .inl ⟨rfl, rfl⟩
              all_goals exact .inr ⟨by simp, fun _ _ found => found⟩

/-- Only `/mode` and an emergency stop touch the live-mode requests. -/
theorem handler_keeps {state : CommandState} {invocation : Invocation}
    (notMode : invocation.command ≠ .mode) (notStop : invocation.command ≠ .emergencystop)
    : (handler state invocation).requests.pendingLiveConfirmations
      = state.requests.pendingLiveConfirmations := by
  cases command : invocation.command with
  | mode => exact absurd command notMode
  | emergencystop => exact absurd command notStop
  | config => simp [handler, command, handleConfig_keeps]
  | login => simp [handler, command, handleLogin_keeps]
  | loginCancel => simp [handler, command, handleLogin_keeps]
  | _ => simp [handler, command, handlePause]

/-- What a command makes of the live-mode requests: an emergency stop forgets them, a
request adds its own, and no other command adds any.
-/
theorem handler_liveRequests (state : CommandState) (invocation : Invocation)
    : let after := (handler state invocation).requests.pendingLiveConfirmations
      (invocation.command = .emergencystop ∧ after = ∅)
      ∨ (invocation.RequestsLive
        ∧ after = state.requests.pendingLiveConfirmations.set invocation.ctx.operator
          { token := generateToken invocation.random, expiresAt := invocation.now + 60000 })
      ∨ (invocation.command ≠ .emergencystop ∧ ¬ invocation.RequestsLive
        ∧ ∀ operator pending, after.get operator = some pending
          → state.requests.pendingLiveConfirmations.get operator = some pending) := by
  by_cases stop : invocation.command = .emergencystop
  · left
    simp [handler, stop, handleEmergencyStop]
  right
  by_cases mode : invocation.command = .mode
  · simp only [handler, mode]
    exact (handleMode_liveRequests mode).imp_right fun kept => ⟨by simp, kept⟩
  · right
    refine ⟨stop, fun requests => mode requests.1, fun operator pending found => ?_⟩
    rwa [handler_keeps mode stop] at found

/-- Every command keeps the requests issued. -/
theorem LiveRequestsIssued.step {state : CommandState × List Invocation}
    (issued : LiveRequestsIssued state) (invocation : Invocation)
    : LiveRequestsIssued (commandStep state invocation) := by
  intro operator pending found
  have after : (handler state.1 invocation).requests.pendingLiveConfirmations.get operator
      = some pending := found
  show ∃ request, LatestLiveRequest operator (invocation :: state.2) request ∧ _
  rcases handler_liveRequests state.1 invocation with
    ⟨-, empty⟩ | ⟨requests, set⟩ | ⟨notStop, silent, kept⟩
  · rw [empty] at after
    cases after
  · rw [set] at after
    by_cases own : operator = invocation.ctx.operator
    · subst own
      rw [Map.get_set_self, Option.some.injEq] at after
      subst after
      exact ⟨invocation, .here requests rfl, rfl, rfl⟩
    · rw [Map.get_set_of_ne _ _ own] at after
      obtain ⟨request, latest, token, expiry⟩ := issued operator pending after
      have notStop : invocation.command ≠ .emergencystop := by rw [requests.1]; decide
      exact ⟨request, .later notStop (fun same => own same.2.symm) latest, token, expiry⟩
  · obtain ⟨request, latest, token, expiry⟩ := issued operator pending (kept _ _ after)
    exact ⟨request, .later notStop (fun same => silent same.1) latest, token, expiry⟩

/-- A valid token confirms the latest live-mode request. -/
theorem confirmsLive_of_tokenValid {state : CommandState × List Invocation}
    (issued : LiveRequestsIssued state) {invocation : Invocation} {first : String}
    {rest : List String} (command : invocation.command = .mode)
    (args : invocation.args = first :: rest) (confirm : toLowerCase first = "confirm")
    (valid : invocation.LiveTokenValid state.1.requests rest)
    : invocation.ConfirmsLive state.2 := by
  obtain ⟨pending, found, same, -, inTime⟩ := valid
  obtain ⟨request, latest, token, expiry⟩ := issued _ _ found
  refine ⟨command, first, rest, args, confirm, request, latest, ?_, ?_⟩
  · rw [same, token]
  · rw [← expiry]
    exact inTime

/-- In every run of commands from a fresh start that makes the mode live by no confirmed
configuration change, live mode is entered only by a confirmation of its operator's latest
request.
-/
theorem live_entered_confirmed (runtime : Runtime) (invocations : List Invocation)
    (unconfigured : Always commandStep
      (fun state invocation =>
        state.1.runtime.isLive .config = false → ¬ invocation.ConfirmsConfigLive state.1)
      ({ runtime }, []) invocations)
    : Always commandStep EntersLiveConfirmed ({ runtime }, []) invocations := by
  have initial : LiveRequestsIssued ({ runtime }, []) := fun _ _ found => by cases found
  refine Always.of_invariant (fun state invocation issued lawful => ?_) unconfigured initial
  refine ⟨fun enters => ?_, issued.step invocation⟩
  rcases enters.confirmation with byToken | ⟨notLive, byConfig⟩
  · obtain ⟨command, first, rest, args, confirm, valid⟩ := byToken
    exact confirmsLive_of_tokenValid issued command args confirm valid
  · exact absurd byConfig (lawful notLive)

/-- A runtime in dry-run mode, with the part of its configuration that names the mode. -/
def dryRunRuntime : Runtime where
  currentMode := .dryRun
  config := .object [("system", .object [("mode", .string "dry-run")])]

/-- A command of operator 42 whose random bytes are all zero. -/
def operatorCommand (now : Int) (command : BotCommand) (args : List String) : Invocation where
  now := now
  ctx := { fromId := some 42, chat := some ⟨42, .private⟩, operatorId := some "42" }
  command := command
  args := args
  random := fun _ => 0

/-- A request and its confirmation sixty seconds later enter live mode. -/
theorem live_entered_by_token
    : let invocations := [operatorCommand 0 .mode ["live"],
        operatorCommand 60000 .mode ["confirm", "00000000"]]
      let after := (run handleCommand { runtime := dryRunRuntime } invocations).runtime
      (after.isLive .currentMode = true ∧ after.isLive .config = true)
      ∧ Always commandStep EntersLiveConfirmed ({ runtime := dryRunRuntime }, [])
        invocations := by
  refine ⟨by decide +kernel, live_entered_confirmed _ _ (Always.of_forall_mem ?_)⟩
  intro invocation member state _ byConfig
  simp only [List.mem_cons, List.not_mem_nil, or_false] at member
  rcases member with rfl | rfl
  · cases byConfig.1
  · cases byConfig.1

/-- A confirmed configuration change enters live mode with no live-mode request at all. -/
theorem live_entered_by_config
    : ¬ Always commandStep EntersLiveConfirmed ({ runtime := dryRunRuntime }, [])
        [operatorCommand 0 .config ["set", "system.mode", "live"],
          operatorCommand 1000 .config ["confirm", "AAAAAAAA"]] := by
  rintro ⟨-, confirmed, -⟩
  have enters : (operatorCommand 1000 .config ["confirm", "AAAAAAAA"]).EntersLive
      (handleCommand { runtime := dryRunRuntime }
        (operatorCommand 0 .config ["set", "system.mode", "live"])) :=
    ⟨.config, by decide +kernel, by decide +kernel⟩
  cases (confirmed enters).1

end CrashWave.Telegram
