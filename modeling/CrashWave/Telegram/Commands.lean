import CrashWave.App.Composition
import CrashWave.JavaScript.Map

/-! Telegram updates, the operator context a handler receives, the commands, and the dependencies a
handler calls; and the command handlers: control, configuration and login. A handler answers with
the pending requests it leaves and with the dependencies it calls, in order; the texts it replies
with are left out.
-/

namespace CrashWave.Telegram

open CrashWave.App JavaScript

/-- The kind of a chat. -/
inductive ChatType where
  | «private»
  | group
  | supergroup
  | channel
  deriving DecidableEq

/-- A chat. -/
structure Chat where
  id : Int
  type : ChatType
  deriving DecidableEq

/-- What the middlewares read of an update: the sender, the chat and the text of a message,
each of them if there is one.
-/
structure Update where
  fromId : Option Int
  chat : Option Chat
  text : Option String
  deriving DecidableEq

/-- The context a handler receives. -/
structure OperatorContext where
  fromId : Option Int
  chat : Option Chat
  operatorId : Option String := none
  isAuthenticated : Bool := false
  isAdmin : Bool := false
  deriving DecidableEq

/-- The bot commands. -/
inductive BotCommand where
  | status
  | balance
  | daily
  | session
  | pnl
  | entries
  | health
  | lastround
  | pause
  | resume
  | stop
  | emergencystop
  | mode
  | sheath
  | unsheath
  | config
  | analytics
  | login
  | loginCancel
  | start
  | menu
  | help
  deriving DecidableEq

/-- A command as it is typed, without the slash. -/
def BotCommand.text : BotCommand → String
  | .status => "status"
  | .balance => "balance"
  | .daily => "daily"
  | .session => "session"
  | .pnl => "pnl"
  | .entries => "entries"
  | .health => "health"
  | .lastround => "lastround"
  | .pause => "pause"
  | .resume => "resume"
  | .stop => "stop"
  | .emergencystop => "emergencystop"
  | .mode => "mode"
  | .sheath => "sheath"
  | .unsheath => "unsheath"
  | .config => "config"
  | .analytics => "analytics"
  | .login => "login"
  | .loginCancel => "login_cancel"
  | .start => "start"
  | .menu => "menu"
  | .help => "help"

/-- A call of an injected dependency that acts on the system. -/
inductive DependencyCall where
  | setSystemMode (mode : RequestedMode)
  | setConfigValue (key value : String)
  | pauseSystem (reason : String)
  | resumeSystem
  | stopSystem
  | sheathSystem
  | unsheathSystem
  | loginWithCredentials (email password : String)
  deriving DecidableEq

/-- A live-mode request that waits for its token. -/
structure PendingLiveConfirmation where
  token : String
  expiresAt : Int
  deriving DecidableEq

/-- A configuration change that waits for its token. -/
structure PendingConfigConfirmation where
  key : String
  value : String
  operatorId : String
  expiresAt : Int
  deriving DecidableEq

/-- What a login conversation waits for. -/
inductive LoginStep where
  | email
  | password
  deriving DecidableEq

/-- A login conversation. -/
structure PendingLogin where
  step : LoginStep
  email : Option String := none
  deriving DecidableEq

/-- The requests that the command handlers keep between calls. -/
structure PendingRequests where
  pendingLiveConfirmations : Map String PendingLiveConfirmation := ∅
  pendingConfirmations : Map String PendingConfigConfirmation := ∅
  pendingLogins : Map Int PendingLogin := ∅

/-- The pending requests, with the runtime that the dependencies of the handlers write. -/
structure CommandState where
  requests : PendingRequests := {}
  runtime : Runtime

/-- One call of a command handler: its context and arguments, and the time and the random
bytes it reads.
-/
structure Invocation where
  now : Int
  ctx : OperatorContext
  command : BotCommand
  args : List String
  random : Nat → UInt8

-----------------------------------------------------------------------------------------
-- Handlers
-----------------------------------------------------------------------------------------

/-- What a handler leaves: its pending requests, and its calls in order. -/
structure HandlerResult where
  requests : PendingRequests
  calls : List DependencyCall := []

-----------------------------------------------------------------------------------------
-- Control commands
-----------------------------------------------------------------------------------------

/-- `LIVE_CONFIRM_TTL_MS`. -/
def liveConfirmTtlMs : Int := 60000

/-- The operator a live-mode request belongs to. -/
def OperatorContext.operator (ctx : OperatorContext) : String :=
  match ctx.fromId with
  | some id => toString id
  | none => ctx.operatorId.getD "unknown"

/-- A byte in hexadecimal. -/
def hexByte (byte : UInt8) : List Char :=
  [Nat.digitChar (byte.toNat / 16), Nat.digitChar (byte.toNat % 16)]

/-- A live-mode token: four random bytes in upper-case hexadecimal. -/
def generateToken (random : Nat → UInt8) : String :=
  let hex := (List.range 4).flatMap fun index => hexByte (random index)
  toUpperCase (String.ofList (hex.take 8))

/-- The reason given with a command, or a default. -/
def reasonOr (default : String) (args : List String) : String :=
  let reason := trim (joinSpaces args)
  if reason = "" then default else reason

/-- The short names of the modes. -/
def modeMap : List (String × SystemMode) :=
  [("observe", .observeOnly), ("dryrun", .dryRun), ("dry", .dryRun), ("live", .live),
    ("maintenance", .maintenance), ("maint", .maintenance)]

/-- `modeMap[sub]`, or else `sub` itself when it names a mode. The lookup also finds the
members that the map inherits.
-/
def requestedMode (sub : String) : Option RequestedMode :=
  match modeMap.lookup sub with
  | some mode => some (.mode mode)
  | none =>
      if sub = "__proto__" ∨ sub ∈ Value.inheritedMethods then some .inherited
      else (validModes.find? fun mode => mode.text = sub).map .mode

/-- `/mode confirm`: calls `setSystemMode` when the token is the pending one of the operator
and has not expired.
-/
def handleLiveConfirm (requests : PendingRequests) (invocation : Invocation)
    (args : List String) : HandlerResult :=
  let operatorId := invocation.ctx.operator
  let provided := toUpperCase (trim (args.headD ""))
  if provided = "" then { requests }
  else
    match requests.pendingLiveConfirmations.get operatorId with
    | none => { requests }
    | some pending =>
        let removed := { requests with
          pendingLiveConfirmations := requests.pendingLiveConfirmations.delete operatorId }
        if pending.expiresAt < invocation.now then { requests := removed }
        else if provided ≠ pending.token then { requests }
        else { requests := removed, calls := [.setSystemMode (.mode .live)] }

/-- `/mode`: a live-mode request is only recorded, with a new token. -/
def handleMode (requests : PendingRequests) (invocation : Invocation) : HandlerResult :=
  match invocation.args with
  | [] => { requests }
  | first :: rest =>
      let sub := toLowerCase first
      if sub = "confirm" then handleLiveConfirm requests invocation rest
      else
        match requestedMode sub with
        | none => { requests }
        | some (.mode .live) =>
            let pending : PendingLiveConfirmation :=
              { token := generateToken invocation.random
                expiresAt := invocation.now + liveConfirmTtlMs }
            { requests := { requests with
                pendingLiveConfirmations :=
                  requests.pendingLiveConfirmations.set invocation.ctx.operator pending } }
        | some mode => { requests, calls := [.setSystemMode mode] }

/-- `/pause`. -/
def handlePause (requests : PendingRequests) (invocation : Invocation) : HandlerResult :=
  { requests, calls := [.pauseSystem (reasonOr "Operator requested pause" invocation.args)] }

/-- `/emergencystop`: forgets the live-mode requests, then pauses and stops. -/
def handleEmergencyStop (requests : PendingRequests) (invocation : Invocation)
    : HandlerResult :=
  let reason := reasonOr "EMERGENCY STOP triggered by operator" invocation.args
  { requests := { requests with pendingLiveConfirmations := ∅ }
    calls := [.pauseSystem reason, .stopSystem] }

-----------------------------------------------------------------------------------------
-- Configuration commands
-----------------------------------------------------------------------------------------

/-- `CONFIRMATION_TTL_MS`. -/
def confirmationTtlMs : Int := 5 * 60 * 1000

/-- The operator a configuration change belongs to. -/
def OperatorContext.configOperator (ctx : OperatorContext) : String :=
  (ctx.fromId.map toString).getD "unknown"

/-- The characters of a configuration token. -/
def tokenChars : List Char := "ABCDEFGHJKLMNPQRSTUVWXYZ23456789".toList

/-- A configuration token: one character for each of eight random bytes. -/
def generateConfigToken (random : Nat → UInt8) : String :=
  String.ofList ((List.range 8).flatMap fun index =>
    (tokenChars[(random index).toNat % tokenChars.length]?).toList)

/-- `/config set`: records a change to a key that exists, and forgets the expired ones. -/
def handleConfigSet (requests : PendingRequests) (config : Value) (invocation : Invocation)
    (args : List String) : HandlerResult :=
  match args with
  | key :: first :: rest =>
      match getConfigValue config key with
      | none => { requests }
      | some _ =>
          let pending : PendingConfigConfirmation :=
            { key
              value := joinSpaces (first :: rest)
              operatorId := invocation.ctx.configOperator
              expiresAt := invocation.now + confirmationTtlMs }
          let recorded :=
            requests.pendingConfirmations.set (generateConfigToken invocation.random) pending
          { requests := { requests with
              pendingConfirmations :=
                recorded.filter fun _ other => !decide (other.expiresAt < invocation.now) } }
  | _ => { requests }

/-- `/config confirm`: applies the change of a token that has not expired, for the operator
who requested it.
-/
def handleConfigConfirm (requests : PendingRequests) (invocation : Invocation)
    (args : List String) : HandlerResult :=
  match args with
  | [] => { requests }
  | first :: _ =>
      let token := toUpperCase first
      match requests.pendingConfirmations.get token with
      | none => { requests }
      | some pending =>
          let removed := { requests with
            pendingConfirmations := requests.pendingConfirmations.delete token }
          if pending.expiresAt < invocation.now then { requests := removed }
          else if pending.operatorId ≠ invocation.ctx.configOperator then { requests }
          else { requests := removed, calls := [.setConfigValue pending.key pending.value] }

/-- `/config`. -/
def handleConfig (requests : PendingRequests) (config : Value) (invocation : Invocation)
    : HandlerResult :=
  match invocation.args with
  | [] => { requests }
  | first :: rest =>
      let subcommand := toLowerCase first
      if subcommand = "" ∨ subcommand = "show" then { requests }
      else if subcommand = "set" then handleConfigSet requests config invocation rest
      else if subcommand = "confirm" then handleConfigConfirm requests invocation rest
      else { requests }

-----------------------------------------------------------------------------------------
-- Login commands
-----------------------------------------------------------------------------------------

/-- A chat id that counts as true. -/
def OperatorContext.chatId (ctx : OperatorContext) : Option Int :=
  (ctx.chat.map Chat.id).filter (· ≠ 0)

/-- `/login`: waits for the email in this chat. -/
def handleLogin (requests : PendingRequests) (invocation : Invocation) : HandlerResult :=
  match invocation.ctx.chatId with
  | none => { requests }
  | some chatId =>
      { requests := { requests with
          pendingLogins := requests.pendingLogins.set chatId { step := .email } } }

/-- `/login_cancel`. -/
def handleLoginCancel (requests : PendingRequests) (invocation : Invocation) : HandlerResult :=
  match invocation.ctx.chatId with
  | none => { requests }
  | some chatId =>
      { requests := { requests with
          pendingLogins := requests.pendingLogins.delete chatId } }

/-- A text in a chat with a login conversation: the email first, then the password, which
is handed on unless the reply before it fails.
-/
def handleLoginConversationText (requests : PendingRequests) (ctx : OperatorContext)
    (text : String) (replies : Bool) : HandlerResult :=
  match ctx.chatId with
  | none => { requests }
  | some chatId =>
      match requests.pendingLogins.get chatId with
      | none => { requests }
      | some { step := .email, .. } =>
          { requests := { requests with
              pendingLogins := requests.pendingLogins.set chatId
                { step := .password, email := some (trim text) } } }
      | some { step := .password, email } =>
          let removed := { requests with pendingLogins := requests.pendingLogins.delete chatId }
          match email with
          | none => { requests := removed }
          | some email =>
              if email = "" ∨ replies = false then { requests := removed }
              else { requests := removed, calls := [.loginWithCredentials email text] }

-----------------------------------------------------------------------------------------
-- All commands
-----------------------------------------------------------------------------------------

/-- The handler of each command. The views of the state call no dependency that acts. -/
def handler (state : CommandState) (invocation : Invocation) : HandlerResult :=
  let requests := state.requests
  match invocation.command with
  | .pause => handlePause requests invocation
  | .resume => { requests, calls := [.resumeSystem] }
  | .stop => { requests, calls := [.stopSystem] }
  | .sheath => { requests, calls := [.sheathSystem] }
  | .unsheath => { requests, calls := [.unsheathSystem] }
  | .emergencystop => handleEmergencyStop requests invocation
  | .mode => handleMode requests invocation
  | .config => handleConfig requests state.runtime.config invocation
  | .login => handleLogin requests invocation
  | .loginCancel => handleLoginCancel requests invocation
  | _ => { requests }

/-- What a dependency makes of the runtime. -/
def DependencyCall.apply (runtime : Runtime) : DependencyCall → Runtime
  | .setSystemMode mode => runtime.setSystemMode mode
  | .setConfigValue key value => runtime.setConfigValue key value
  | .pauseSystem reason => runtime.pauseSystem reason
  | .resumeSystem => runtime.resumeSystem
  | .stopSystem => runtime.stopSystem
  | _ => runtime

/-- The state after a handler: its pending requests, and the runtime after its calls. -/
def CommandState.after (state : CommandState) (result : HandlerResult) : CommandState where
  requests := result.requests
  runtime := result.calls.foldl DependencyCall.apply state.runtime

/-- One command. -/
def handleCommand (state : CommandState) (invocation : Invocation) : CommandState :=
  state.after (handler state invocation)

-----------------------------------------------------------------------------------------
-- The calls of a handler
-----------------------------------------------------------------------------------------

/-- The arguments begin with the operator's pending live-mode token, which is still valid. -/
def Invocation.LiveTokenValid (requests : PendingRequests) (invocation : Invocation)
    (args : List String) : Prop :=
  ∃ pending, requests.pendingLiveConfirmations.get invocation.ctx.operator = some pending
    ∧ toUpperCase (trim (args.headD "")) = pending.token ∧ pending.token ≠ ""
    ∧ invocation.now ≤ pending.expiresAt

/-- The arguments begin with the token of a pending change of this operator's, which is
still valid.
-/
def Invocation.ConfigTokenValid (requests : PendingRequests) (invocation : Invocation)
    (args : List String) (pending : PendingConfigConfirmation) : Prop :=
  ∃ token rest, args = token :: rest
    ∧ requests.pendingConfirmations.get (toUpperCase token) = some pending
    ∧ pending.operatorId = invocation.ctx.configOperator
    ∧ invocation.now ≤ pending.expiresAt

variable {requests : PendingRequests} {invocation : Invocation} {call : DependencyCall}

/-- `/mode confirm` sets live mode exactly on a valid token. -/
theorem mem_handleLiveConfirm {args : List String}
    : call ∈ (handleLiveConfirm requests invocation args).calls
      ↔ call = .setSystemMode (.mode .live) ∧ invocation.LiveTokenValid requests args := by
  unfold handleLiveConfirm Invocation.LiveTokenValid
  generalize toUpperCase (trim (args.headD "")) = provided
  by_cases missing : provided = ""
  · subst missing
    simp only [if_true, List.not_mem_nil, false_iff]
    rintro ⟨-, _, -, same, nonempty, -⟩
    exact nonempty same.symm
  cases found : requests.pendingLiveConfirmations.get invocation.ctx.operator with
  | none => simp [missing, found]
  | some pending =>
      by_cases expired : pending.expiresAt < invocation.now
      · simp [missing, found, expired]
      by_cases same : provided = pending.token
      · subst same
        simpa [missing, found, expired] using fun _ => not_lt.mp expired
      · simp [missing, found, expired, same]

/-- `/mode` sets the mode it names, and live mode on a valid token only. -/
theorem mem_handleMode
    : call ∈ (handleMode requests invocation).calls
      ↔ ∃ first rest, invocation.args = first :: rest
        ∧ ((toLowerCase first = "confirm" ∧ call = .setSystemMode (.mode .live)
            ∧ invocation.LiveTokenValid requests rest)
          ∨ (toLowerCase first ≠ "confirm" ∧ ∃ mode ≠ .mode .live,
            requestedMode (toLowerCase first) = some mode ∧ call = .setSystemMode mode)) := by
  unfold handleMode
  cases invocation.args with
  | nil => simp
  | cons first rest =>
      by_cases confirm : toLowerCase first = "confirm"
      · simp [confirm, mem_handleLiveConfirm]
      cases requested : requestedMode (toLowerCase first) with
      | none => simp [confirm, requested]
      | some mode =>
          cases mode with
          | inherited => simp [confirm, requested]
          | mode mode => cases mode <;> simp [confirm, requested]

/-- `/config confirm` applies exactly the change of a valid token. -/
theorem mem_handleConfigConfirm {args : List String}
    : call ∈ (handleConfigConfirm requests invocation args).calls
      ↔ ∃ pending, invocation.ConfigTokenValid requests args pending
        ∧ call = .setConfigValue pending.key pending.value := by
  unfold handleConfigConfirm Invocation.ConfigTokenValid
  cases args with
  | nil => simp
  | cons token rest =>
      cases found : requests.pendingConfirmations.get (toUpperCase token) with
      | none => simp [found]
      | some pending =>
          by_cases expired : pending.expiresAt < invocation.now
          · simp [found, expired]
          by_cases own : pending.operatorId = invocation.ctx.configOperator
          · simpa [found, expired, own] using fun _ => not_lt.mp expired
          · simp [found, expired, own]

@[simp] theorem handleConfigSet_calls (config : Value) (args : List String)
    : (handleConfigSet requests config invocation args).calls = [] := by
  unfold handleConfigSet
  split
  · split <;> rfl
  · rfl

/-- `/config` acts by a confirmation only. -/
theorem mem_handleConfig {config : Value}
    : call ∈ (handleConfig requests config invocation).calls
      ↔ ∃ first rest, invocation.args = first :: rest ∧ toLowerCase first = "confirm"
        ∧ ∃ pending, invocation.ConfigTokenValid requests rest pending
          ∧ call = .setConfigValue pending.key pending.value := by
  unfold handleConfig
  cases invocation.args with
  | nil => simp
  | cons first rest =>
      by_cases shown : toLowerCase first = "" ∨ toLowerCase first = "show"
      · have other : toLowerCase first ≠ "confirm" := by
          rcases shown with equal | equal <;> simp [equal]
        simp [shown, other]
      by_cases set : toLowerCase first = "set"
      · simp [set]
      by_cases confirm : toLowerCase first = "confirm"
      · simp [confirm, mem_handleConfigConfirm]
      · simp [shown, set, confirm]

@[simp] theorem handleLogin_calls : (handleLogin requests invocation).calls = [] := by
  unfold handleLogin
  split <;> rfl

@[simp] theorem handleLoginCancel_calls
    : (handleLoginCancel requests invocation).calls = [] := by
  unfold handleLoginCancel
  split <;> rfl

end CrashWave.Telegram
