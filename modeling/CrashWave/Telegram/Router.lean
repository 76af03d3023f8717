import CrashWave.Telegram.Commands

/-! The way of an update through the gateway: the identity middleware, the message limit,
and the router with its command limit, its parser and the login conversation.
-/

namespace CrashWave.Telegram

open JavaScript

-----------------------------------------------------------------------------------------
-- Identity
-----------------------------------------------------------------------------------------

/-- The options of the identity middleware. -/
structure AuthOptions where
  adminUserIds : List Int
  enforcePrivateChat : Bool
  allowedUserIds : Option (List Int) := none

/-- The administrators: the listed ones, or else the allowed users. -/
def AuthOptions.adminIds (options : AuthOptions) : List Int :=
  if options.adminUserIds ≠ [] then options.adminUserIds
  else options.allowedUserIds.getD []

/-- The identity that is attached to an update. -/
def AuthOptions.identity (options : AuthOptions) (id : Int) (chat : Option Chat)
    : OperatorContext where
  fromId := some id
  chat := chat
  operatorId := some (toString id)
  isAuthenticated := true
  isAdmin := id ∈ options.adminIds

/-- The identity middleware: the context of an accepted update. -/
def authMiddleware (options : AuthOptions) (update : Update) : Option OperatorContext :=
  if options.enforcePrivateChat ∧ update.chat.map Chat.type ≠ some .private then none
  else
    match update.fromId with
    | none => none
    | some id => if id ≤ 0 then none else some (options.identity id update.chat)

/-- `requireAdmin`, which no handler calls. -/
def requireAdmin (ctx : OperatorContext) : Bool := ctx.isAdmin

-----------------------------------------------------------------------------------------
-- Limits
-----------------------------------------------------------------------------------------

/-- The messages of a user in the current minute of the gateway. -/
structure MessageWindow where
  n : Nat
  reset : Int
  deriving DecidableEq

/-- Counts a message, and tells whether it is within the limit. -/
def countMessage (maxPerMin : Nat) (userMsgCounts : Map Int MessageWindow) (uid now : Int)
    : Bool × Map Int MessageWindow :=
  let fresh : MessageWindow := { n := 0, reset := now + 60000 }
  let window : MessageWindow :=
    match userMsgCounts.get uid with
    | none => fresh
    | some window => if window.reset < now then fresh else window
  let counted := { window with n := window.n + 1 }
  (decide (counted.n ≤ maxPerMin), userMsgCounts.set uid counted)

/-- The commands of a user in the current minute of the router. -/
structure CommandWindow where
  count : Nat
  windowStart : Int
  deriving DecidableEq

/-- `rateLimitPerMinute` of the router. -/
def rateLimitPerMinute : Nat := 30

/-- Counts a command, and tells whether it is within the limit. -/
def checkRateLimit (commandCounts : Map Int CommandWindow) (userId now : Int)
    : Bool × Map Int CommandWindow :=
  let opened := commandCounts.set userId { count := 1, windowStart := now }
  match commandCounts.get userId with
  | none => (true, opened)
  | some entry =>
      if 60000 < now - entry.windowStart then (true, opened)
      else if rateLimitPerMinute ≤ entry.count then (false, commandCounts)
      else (true, commandCounts.set userId { entry with count := entry.count + 1 })

-----------------------------------------------------------------------------------------
-- Parsing
-----------------------------------------------------------------------------------------

/-- The commands the router knows. -/
def knownCommands : List BotCommand :=
  [.status, .balance, .daily, .session, .pnl, .entries, .health, .lastround, .pause,
    .resume, .stop, .emergencystop, .mode, .sheath, .unsheath, .config, .analytics, .login,
    .loginCancel, .start, .menu, .help]

/-- The text after a mention of the bot, if there is one. -/
def skipMention : List Char → List Char
  | '@' :: mention =>
      if mention.takeWhile isWord = [] then '@' :: mention else mention.dropWhile isWord
  | other => other

/-- A known command and its arguments. The expression of the source is read greedily: giving
back characters never helps, since what is left must hold no line terminator.
-/
def parseCommand (text : String) : Option (BotCommand × List String) :=
  match text.toList with
  | '/' :: rest =>
      let name := rest.takeWhile isWord
      let argsText := (skipMention (rest.dropWhile isWord)).dropWhile isSpace
      if name = [] ∨ argsText.any isLineTerminator then none
      else
        (knownCommands.find? fun command =>
          command.text = toLowerCase (String.ofList name)).map fun command =>
            (command, splitSpaces (trimChars argsText))
  | _ => none

-----------------------------------------------------------------------------------------
-- The gateway
-----------------------------------------------------------------------------------------

/-- What the gateway keeps between updates. -/
structure GatewayState where
  commands : CommandState
  commandCounts : Map Int CommandWindow := ∅
  userMsgCounts : Map Int MessageWindow := ∅

/-- An update as it is handled: with the time, the random bytes that are drawn, and whether
replies reach Telegram.
-/
structure Delivery where
  update : Update
  now : Int
  random : Nat → UInt8
  replies : Bool

/-- The gateway after a handler, with the calls that were made. -/
def GatewayState.after (state : GatewayState) (result : HandlerResult)
    : GatewayState × List DependencyCall :=
  ({ state with commands := state.commands.after result }, result.calls)

/-- The call of a handler that a parsed command makes. -/
def Delivery.invocation (delivery : Delivery) (ctx : OperatorContext)
    (parsed : BotCommand × List String) : Invocation where
  now := delivery.now
  ctx := ctx
  command := parsed.1
  args := parsed.2
  random := delivery.random

/-- The router: a login conversation for a plain text, or a command within its limit. -/
def routerMiddleware (state : GatewayState) (ctx : OperatorContext) (delivery : Delivery)
    : GatewayState × List DependencyCall :=
  match delivery.update.text with
  | none => (state, [])
  | some text =>
      if text = "" then (state, [])
      else if text.toList.head? ≠ some '/' then
        state.after
          (handleLoginConversationText state.commands.requests ctx text delivery.replies)
      else
        let userId := ctx.fromId.getD 0
        let (within, counts) :=
          if userId = 0 then (true, state.commandCounts)
          else checkRateLimit state.commandCounts userId delivery.now
        let counted := { state with commandCounts := counts }
        if within = false then (counted, [])
        else
          match parseCommand text with
          | none => (counted, [])
          | some parsed =>
              counted.after (handler counted.commands (delivery.invocation ctx parsed))

/-- The options that the gateway hands to the identity middleware. -/
def gatewayAuthOptions (allowedUserIds : List Int) : AuthOptions where
  adminUserIds := allowedUserIds
  enforcePrivateChat := true
  allowedUserIds := some allowedUserIds

/-- The gateway: identity, message limit, router. -/
def handleUpdate (allowedUserIds : List Int) (maxPerMin : Nat) (state : GatewayState)
    (delivery : Delivery) : GatewayState × List DependencyCall :=
  match authMiddleware (gatewayAuthOptions allowedUserIds) delivery.update with
  | none => (state, [])
  | some ctx =>
      match ctx.fromId with
      | none => routerMiddleware state ctx delivery
      | some uid =>
          let (within, counts) :=
            countMessage maxPerMin state.userMsgCounts uid delivery.now
          let counted := { state with userMsgCounts := counts }
          if within then routerMiddleware counted ctx delivery else (counted, [])

end CrashWave.Telegram
