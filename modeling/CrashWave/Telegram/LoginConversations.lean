import CrashWave.Runs.Basic
import CrashWave.Telegram.Authorization
import Mathlib.Data.List.Induction

/-! Login conversations over runs of the gateway: the one of a chat follows the messages of that
chat alone, and logs in once for each `/login`.
-/

namespace CrashWave.Telegram

open JavaScript Runs

-----------------------------------------------------------------------------------------
-- What gets through
-----------------------------------------------------------------------------------------

section

variable (allowedUserIds : List Int) (maxPerMin : Nat) (state : GatewayState) (delivery : Delivery)

/-- The context of an update that is within the limit of its user. -/
def letThrough : Option OperatorContext :=
  (authMiddleware (gatewayAuthOptions allowedUserIds) delivery.update).filter fun ctx =>
    match ctx.fromId with
    | none => true
    | some uid => (countMessage maxPerMin state.userMsgCounts uid delivery.now).1

/-- Whether a text is a command within the limit of its user. -/
def commandWithin (ctx : OperatorContext) : Bool :=
  ctx.fromId.getD 0 = 0 || (checkRateLimit state.commandCounts (ctx.fromId.getD 0) delivery.now).1

/-- What a message means for the login conversation of its chat. -/
inductive LoginMove where
  | begins
  | cancels
  | answers (text : String)
  deriving DecidableEq

def commandMove : BotCommand → Option LoginMove
  | .login => some .begins
  | .loginCancel => some .cancels
  | _ => none

/-- What an update that gets through means for it. -/
def updateMove (ctx : OperatorContext) : Option LoginMove :=
  match delivery.update.text with
  | none => none
  | some text =>
      if text = "" then none
      else if text.toList.head? ≠ some '/' then some (.answers text)
      else if commandWithin state delivery ctx then
        (parseCommand text).bind fun parsed => commandMove parsed.1
      else none

/-- What an update means for the login conversation of its chat, with this chat. -/
def loginMove : Option (Int × LoginMove) :=
  (letThrough allowedUserIds maxPerMin state delivery).bind fun ctx =>
    ctx.chatId.bind fun chatId => (updateMove state delivery ctx).map fun move => (chatId, move)

end

/-- The conversation of one chat: what it waits for after a message. -/
def talk : Option PendingLogin → LoginMove → Option PendingLogin
  | _, .begins => some { step := .email }
  | _, .cancels => none
  | none, .answers _ => none
  | some { step := .email, .. }, .answers text =>
      some { step := .password, email := some (trim text) }
  | some { step := .password, .. }, .answers _ => none

variable {allowedUserIds : List Int} {maxPerMin : Nat} {state : GatewayState} {delivery : Delivery}

/-- The login conversations after the router, and its calls to log in. -/
structure Follows (state after : GatewayState) (calls : List DependencyCall) (replies : Bool)
    (move : Option (Int × LoginMove)) : Prop where
  talks : ∀ chat, after.commands.requests.pendingLogins.get chat
    = match move with
      | none => state.commands.requests.pendingLogins.get chat
      | some (chatId, move) =>
          if chat = chatId then talk (state.commands.requests.pendingLogins.get chat) move
          else state.commands.requests.pendingLogins.get chat
  logins : ∀ email password, .loginWithCredentials email password ∈ calls
    ↔ ∃ chatId, move = some (chatId, .answers password) ∧ replies = true ∧ email ≠ ""
      ∧ state.commands.requests.pendingLogins.get chatId
        = some { step := .password, email := some email }

/-- Where nothing is said, nothing follows. -/
theorem Follows.of_same {after : GatewayState} {calls : List DependencyCall} {replies : Bool}
    (same : after.commands.requests.pendingLogins = state.commands.requests.pendingLogins)
    (silent : ∀ email password, .loginWithCredentials email password ∉ calls)
    : Follows state after calls replies none where
  talks chat := by rw [same]
  logins email password := iff_of_false (silent email password) (by simp)

/-- A message that makes no login moves the conversation of its chat. -/
theorem Follows.of_move {after : GatewayState} {calls : List DependencyCall} {replies : Bool}
    {chatId : Int} {move : LoginMove}
    (own : after.commands.requests.pendingLogins.get chatId
      = talk (state.commands.requests.pendingLogins.get chatId) move)
    (others : ∀ chat ≠ chatId, after.commands.requests.pendingLogins.get chat
      = state.commands.requests.pendingLogins.get chat)
    (logins : ∀ email password, .loginWithCredentials email password ∈ calls
      ↔ move = .answers password ∧ replies = true ∧ email ≠ ""
        ∧ state.commands.requests.pendingLogins.get chatId
          = some { step := .password, email := some email })
    : Follows state after calls replies (some (chatId, move)) where
  talks chat := by
    dsimp only
    by_cases same : chat = chatId
    · rw [if_pos same, same, own]
    · rw [if_neg same, others chat same]
  logins email password := by
    rw [logins]
    constructor
    · intro login
      exact ⟨chatId, by rw [login.1], login.2⟩
    · intro login
      obtain ⟨other, same, rest⟩ := login
      cases same
      exact ⟨rfl, rest⟩

/-- A text that is no command moves the conversation of its chat. -/
theorem follows_text (state : GatewayState) (ctx : OperatorContext) (text : String) (replies : Bool)
    : Follows state
        (state.after (handleLoginConversationText state.commands.requests ctx text replies)).1
        (handleLoginConversationText state.commands.requests ctx text replies).calls replies
        (ctx.chatId.map fun chatId => (chatId, .answers text)) := by
  unfold handleLoginConversationText
  cases ctx.chatId with
  | none => exact .of_same rfl fun _ _ => List.not_mem_nil
  | some chatId =>
      dsimp only [Option.map_some]
      cases waits : state.commands.requests.pendingLogins.get chatId with
      | none =>
          refine .of_move ?_ (fun _ _ => rfl) ?_
          · simp [waits, GatewayState.after, CommandState.after, talk]
          · simp [waits]
      | some conversation =>
          obtain ⟨step, email⟩ := conversation
          cases step with
          | email =>
              refine .of_move ?_ (fun chat other => Map.get_set_of_ne _ _ other) ?_
              · simp [waits, GatewayState.after, CommandState.after, talk]
              · simp [waits]
          | password =>
              have gone : ∀ chat ≠ chatId,
                  (state.commands.requests.pendingLogins.delete chatId).get chat
                    = state.commands.requests.pendingLogins.get chat :=
                fun _ other => Map.get_delete_of_ne _ other
              cases email with
              | none =>
                  refine .of_move ?_ gone ?_
                  · simp [waits, GatewayState.after, CommandState.after, talk]
                  · simp [waits]
              | some email =>
                  by_cases refused : email = "" ∨ replies = false
                  · simp only [if_pos refused]
                    refine .of_move ?_ gone ?_
                    · simp [waits, GatewayState.after, CommandState.after, talk]
                    · intro other password
                      refine iff_of_false List.not_mem_nil ?_
                      rintro ⟨-, replied, known, same⟩
                      cases waits.symm.trans same
                      rcases refused with empty | unreplied
                      · exact known empty
                      · rw [replied] at unreplied
                        cases unreplied
                  · simp only [if_neg refused]
                    refine .of_move ?_ gone ?_
                    · simp [waits, GatewayState.after, CommandState.after, talk]
                    · intro other password
                      rw [waits]
                      simp only [List.mem_singleton, DependencyCall.loginWithCredentials.injEq,
                        Option.some.injEq, PendingLogin.mk.injEq, LoginMove.answers.injEq, true_and]
                      rw [not_or, Bool.not_eq_false] at refused
                      constructor
                      · rintro ⟨rfl, rfl⟩
                        exact ⟨rfl, refused.2, refused.1, rfl⟩
                      · rintro ⟨rfl, -, -, rfl⟩
                        exact ⟨rfl, rfl⟩

theorem handleMode_logins (requests : PendingRequests) (invocation : Invocation)
    : (handleMode requests invocation).requests.pendingLogins = requests.pendingLogins := by
  unfold handleMode handleLiveConfirm
  split
  · rfl
  · dsimp only
    split
    · split
      · rfl
      · split
        · rfl
        · split
          · rfl
          · split <;> rfl
    · split <;> rfl

theorem handleConfig_logins (requests : PendingRequests) (config : Value) (invocation : Invocation)
    : (handleConfig requests config invocation).requests.pendingLogins
      = requests.pendingLogins := by
  unfold handleConfig handleConfigSet handleConfigConfirm
  split
  · rfl
  · dsimp only
    split
    · rfl
    · split
      · split
        · split <;> rfl
        · rfl
      · split
        · split
          · rfl
          · split
            · rfl
            · split
              · rfl
              · split <;> rfl
        · rfl

/-- Only `/login` and `/login_cancel` touch a login conversation, and no command logs in. -/
theorem follows_handler (commands : CommandState) (invocation : Invocation) (replies : Bool)
    (same : commands = state.commands) {after : GatewayState}
    (isAfter : after.commands = commands.after (handler commands invocation))
    : Follows state after (handler commands invocation).calls replies
        ((invocation.ctx.chatId.bind fun chatId =>
          (commandMove invocation.command).map fun move => (chatId, move))) := by
  subst same
  have none : ∀ email password,
      .loginWithCredentials email password ∉ (handler state.commands invocation).calls := by
    intro email password
    cases command : invocation.command with
    | mode => simp [handler, command, mem_handleMode]
    | config => simp [handler, command, mem_handleConfig]
    | _ => simp [handler, command, handlePause, handleEmergencyStop]
  have logins : after.commands.requests.pendingLogins
      = (handler state.commands invocation).requests.pendingLogins := by
    rw [isAfter]
    rfl
  cases command : invocation.command
  case login =>
    simp only [handler, command, handleLogin] at logins none ⊢
    cases inChat : invocation.ctx.chatId with
    | none =>
        simp only [inChat] at logins none ⊢
        exact .of_same logins none
    | some chatId =>
        simp only [inChat] at logins none ⊢
        refine .of_move ?_ (fun chat other => ?_) fun email password => ?_
        · rw [logins, Map.get_set_self]
          rfl
        · rw [logins, Map.get_set_of_ne _ _ other]
        · simp
  case loginCancel =>
    simp only [handler, command, handleLoginCancel] at logins none ⊢
    cases inChat : invocation.ctx.chatId with
    | none =>
        simp only [inChat] at logins none ⊢
        exact .of_same logins none
    | some chatId =>
        simp only [inChat] at logins none ⊢
        refine .of_move ?_ (fun chat other => ?_) fun email password => ?_
        · rw [logins, Map.get_delete_self]
          rfl
        · rw [logins, Map.get_delete_of_ne _ other]
        · simp
  case mode =>
    have kept := handleMode_logins state.commands.requests invocation
    simp only [handler, command] at logins none ⊢
    simpa [commandMove] using Follows.of_same (logins.trans kept) none
  case config =>
    have kept :=
      handleConfig_logins state.commands.requests state.commands.runtime.config invocation
    simp only [handler, command] at logins none ⊢
    simpa [commandMove] using Follows.of_same (logins.trans kept) none
  all_goals
    simp only [handler, command, handlePause, handleEmergencyStop] at logins none ⊢
    simpa [commandMove] using Follows.of_same logins none

/-- The router does what its message means for the conversation of the chat. -/
theorem follows_router (state : GatewayState) (delivery : Delivery) (ctx : OperatorContext)
    : Follows state (routerMiddleware state ctx delivery).1 (routerMiddleware state ctx delivery).2
        delivery.replies
        (ctx.chatId.bind fun chatId =>
          (updateMove state delivery ctx).map fun move => (chatId, move)) := by
  have nothing : ∀ after : GatewayState, after.commands = state.commands →
      Follows state after [] delivery.replies (ctx.chatId.bind fun _ => none) := by
    intro after same
    rw [Option.bind_fun_none]
    exact .of_same (by rw [same]) fun _ _ => List.not_mem_nil
  unfold routerMiddleware updateMove
  cases delivery.update.text with
  | none => exact nothing state rfl
  | some text =>
      dsimp only
      by_cases empty : text = ""
      · rw [if_pos empty, if_pos empty]
        exact nothing state rfl
      · rw [if_neg empty, if_neg empty]
        by_cases plain : text.toList.head? ≠ some '/'
        · rw [if_pos plain, if_pos plain]
          have follows := follows_text state ctx text delivery.replies
          cases inChat : ctx.chatId <;> rw [inChat] at follows <;> exact follows
        · rw [if_neg plain, if_neg plain]
          have limited : (if ctx.fromId.getD 0 = 0 then (true, state.commandCounts)
              else checkRateLimit state.commandCounts (ctx.fromId.getD 0) delivery.now).1
              = commandWithin state delivery ctx := by
            unfold commandWithin
            split
            · next zero => simp [zero]
            · next other => simp [other]
          generalize (if ctx.fromId.getD 0 = 0 then (true, state.commandCounts)
            else checkRateLimit state.commandCounts (ctx.fromId.getD 0) delivery.now) = counted
            at limited ⊢
          obtain ⟨within, counts⟩ := counted
          dsimp only at limited ⊢
          subst limited
          by_cases within : commandWithin state delivery ctx = true
          · rw [if_neg (by simp [within]), if_pos within]
            cases parseCommand text with
            | none => exact nothing _ rfl
            | some parsed =>
                exact follows_handler state.commands (delivery.invocation ctx parsed)
                  delivery.replies rfl rfl
          · rw [Bool.not_eq_true] at within
            rw [if_pos within, within]
            exact nothing _ rfl

/-- An update does what its message means for the conversation of its chat. -/
theorem follows_update (allowedUserIds : List Int) (maxPerMin : Nat) (state : GatewayState)
    (delivery : Delivery)
    : Follows state (handleUpdate allowedUserIds maxPerMin state delivery).1
        (handleUpdate allowedUserIds maxPerMin state delivery).2 delivery.replies
        (loginMove allowedUserIds maxPerMin state delivery) := by
  have nothing : ∀ after : GatewayState, after.commands = state.commands →
      Follows state after [] delivery.replies none := by
    intro after same
    exact .of_same (by rw [same]) fun _ _ => List.not_mem_nil
  unfold handleUpdate loginMove letThrough
  cases authMiddleware (gatewayAuthOptions allowedUserIds) delivery.update with
  | none => exact nothing state rfl
  | some ctx =>
      dsimp only
      cases sender : ctx.fromId with
      | none =>
          simp only [Option.filter, sender, if_true, Option.bind_some]
          exact follows_router state delivery ctx
      | some uid =>
          cases counted : countMessage maxPerMin state.userMsgCounts uid delivery.now with
          | mk within counts =>
              cases within with
              | false =>
                  simp only [Option.filter, sender, counted]
                  exact nothing _ rfl
              | true =>
                  simp only [Option.filter, sender, counted, if_true, Option.bind_some]
                  obtain ⟨talks, logins⟩ :=
                    follows_router { state with userMsgCounts := counts } delivery ctx
                  exact ⟨talks, logins⟩

-----------------------------------------------------------------------------------------
-- Login conversations
-----------------------------------------------------------------------------------------

/-- The gateway after one more update. -/
def nextUpdate (allowedUserIds : List Int) (maxPerMin : Nat) (state : GatewayState)
    (delivery : Delivery) : GatewayState :=
  (handleUpdate allowedUserIds maxPerMin state delivery).1

/-- What the updates of a run mean for the login conversation of a chat, in this order. -/
def chatMoves (allowedUserIds : List Int) (maxPerMin : Nat) (chat : Int)
    : GatewayState → List Delivery → List LoginMove
  | _, [] => []
  | state, delivery :: rest =>
      ((loginMove allowedUserIds maxPerMin state delivery).filter (·.1 = chat)).toList.map (·.2)
        ++ chatMoves allowedUserIds maxPerMin chat
          (nextUpdate allowedUserIds maxPerMin state delivery) rest

/-- What a chat waits for follows from what was said there, by induction on the updates. -/
theorem get_pendingLogins_run (chat : Int) (state : GatewayState) (deliveries : List Delivery)
    : (run (nextUpdate allowedUserIds maxPerMin) state
          deliveries).commands.requests.pendingLogins.get chat
      = (chatMoves allowedUserIds maxPerMin chat state deliveries).foldl talk
          (state.commands.requests.pendingLogins.get chat) := by
  induction deliveries generalizing state with
  | nil => rfl
  | cons delivery rest ih =>
      have talks := (follows_update allowedUserIds maxPerMin state delivery).talks chat
      rw [run_cons, ih, chatMoves, List.foldl_append, nextUpdate, talks]
      cases loginMove allowedUserIds maxPerMin state delivery with
      | none => rfl
      | some move =>
          by_cases same : chat = move.1
          · simp [Option.filter, same]
          · simp [Option.filter, same, Ne.symm same]

/-- A chat waits for an email exactly after `/login`. -/
theorem talk_eq_email_iff {moves : List LoginMove}
    : (∃ email, moves.foldl talk none = some { step := .email, email })
      ↔ ∃ earlier, moves = earlier ++ [.begins] := by
  cases moves using List.reverseRecOn with
  | nil => simp
  | append_singleton earlier last _ =>
      rw [List.foldl_append, List.foldl_cons, List.foldl_nil]
      simp only [List.append_singleton_inj]
      generalize earlier.foldl talk none = waits
      cases last with
      | begins => exact iff_of_true ⟨none, rfl⟩ ⟨earlier, rfl, rfl⟩
      | cancels => simp [talk]
      | answers text =>
          refine iff_of_false ?_ (by simp)
          rcases waits with none | ⟨step, email⟩
          · simp [talk]
          · cases step <;> simp [talk]

/-- A chat waits for a password exactly after `/login` and an email. -/
theorem talk_eq_password_iff {moves : List LoginMove} {email : Option String}
    : moves.foldl talk none = some { step := .password, email }
      ↔ ∃ earlier text, moves = earlier ++ [.begins] ++ [.answers text]
        ∧ email = some (trim text) := by
  cases moves using List.reverseRecOn with
  | nil => simp
  | append_singleton earlier last _ =>
      rw [List.foldl_append, List.foldl_cons, List.foldl_nil]
      simp only [List.append_singleton_inj]
      cases last with
      | begins => simp [talk]
      | cancels => simp [talk]
      | answers text =>
          have begun := @talk_eq_email_iff earlier
          generalize earlier.foldl talk none = waits at begun ⊢
          simp only [LoginMove.answers.injEq]
          rcases waits with none | ⟨step, asked⟩
          · refine iff_of_false (by simp [talk]) ?_
            rintro ⟨first, -, ⟨isFirst, -⟩, -⟩
            simpa using begun.mpr ⟨first, isFirst⟩
          · cases step with
            | email =>
                obtain ⟨first, isFirst⟩ := begun.mp ⟨asked, rfl⟩
                constructor
                · intro same
                  cases same
                  exact ⟨first, text, ⟨isFirst, rfl⟩, rfl⟩
                · rintro ⟨-, -, ⟨-, rfl⟩, rfl⟩
                  rfl
            | password =>
                refine iff_of_false (by simp [talk]) ?_
                rintro ⟨first, -, ⟨isFirst, -⟩, -⟩
                simpa using begun.mpr ⟨first, isFirst⟩

/-- In every run of the gateway, a login is tried exactly when the last messages of a chat that mean
something for its login conversation are `/login`, a text that trims to the email, and the password,
and the reply before it gets through: messages of other chats never mix in, and a new `/login` is
needed for each try.
-/
theorem login_follows_conversation (allowedUserIds : List Int) (maxPerMin : Nat)
    (runtime : App.Runtime) (before : List Delivery) (delivery : Delivery)
    (email password : String)
    : let state := run (nextUpdate allowedUserIds maxPerMin) { commands := { runtime } } before
      .loginWithCredentials email password
          ∈ (handleUpdate allowedUserIds maxPerMin state delivery).2
        ↔ ∃ chat earlier text,
          chatMoves allowedUserIds maxPerMin chat { commands := { runtime } } before
              = earlier ++ [.begins] ++ [.answers text]
            ∧ loginMove allowedUserIds maxPerMin state delivery = some (chat, .answers password)
            ∧ email = trim text ∧ email ≠ "" ∧ delivery.replies = true := by
  intro state
  rw [(follows_update allowedUserIds maxPerMin state delivery).logins email password]
  constructor
  · rintro ⟨chat, moves, replied, known, waits⟩
    rw [get_pendingLogins_run] at waits
    obtain ⟨earlier, text, said, same⟩ := talk_eq_password_iff.mp waits
    exact ⟨chat, earlier, text, said, moves, Option.some.inj same, known, replied⟩
  · rintro ⟨chat, earlier, text, said, moves, same, known, replied⟩
    refine ⟨chat, moves, replied, known, ?_⟩
    rw [get_pendingLogins_run]
    exact talk_eq_password_iff.mpr ⟨earlier, text, said, congrArg some same⟩

end CrashWave.Telegram
