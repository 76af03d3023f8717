import CrashWave.Telegram.Router

/-! Which updates act on the system, for senders inside and outside the allow-list. -/

namespace CrashWave.Telegram

open JavaScript

/-- The dependencies reserved to allowed users: all but `unsheathSystem`. -/
def DependencyCall.guarded : DependencyCall → Bool
  | .unsheathSystem => false
  | _ => true

/-- The sender of an update is on the allow-list. -/
def Update.SenderAllowed (allowedUserIds : List Int) (update : Update) : Prop :=
  ∃ id ∈ allowedUserIds, update.fromId = some id

/-- An update from anyone else makes no guarded call. -/
def Authorized (allowedUserIds : List Int) (maxPerMin : Nat) (state : GatewayState)
    (delivery : Delivery) : Prop :=
  ¬ delivery.update.SenderAllowed allowedUserIds
  → ∀ call ∈ (handleUpdate allowedUserIds maxPerMin state delivery).2, call.guarded = false

/-- The commands that act on the system, with the arguments that make them act. -/
def Invocation.Acts (requests : PendingRequests) (invocation : Invocation) : Prop :=
  match invocation.command with
  | .pause | .resume | .stop | .sheath | .emergencystop => True
  | .mode =>
      ∃ first rest, invocation.args = first :: rest
        ∧ ((toLowerCase first = "confirm" ∧ invocation.LiveTokenValid requests rest)
          ∨ (toLowerCase first ≠ "confirm" ∧ ∃ mode ≠ .mode .live,
            requestedMode (toLowerCase first) = some mode))
  | .config =>
      ∃ first rest, invocation.args = first :: rest ∧ toLowerCase first = "confirm"
        ∧ ∃ pending, invocation.ConfigTokenValid requests rest pending
  | _ => False

/-- The chat waits for a password, its email is known, and replies get through. -/
def AwaitsPassword (requests : PendingRequests) (chat : Chat) (replies : Bool) : Prop :=
  chat.id ≠ 0 ∧ replies = true
  ∧ ∃ email, requests.pendingLogins.get chat.id
      = some { step := .password, email := some email }
    ∧ email ≠ ""

/-- How many messages of a user the current minute of the gateway holds. -/
def messagesInWindow (userMsgCounts : Map Int MessageWindow) (uid now : Int) : Nat :=
  match userMsgCounts.get uid with
  | none => 0
  | some window => if window.reset < now then 0 else window.n

/-- How many commands of a user the current minute of the router holds. -/
def commandsInWindow (commandCounts : Map Int CommandWindow) (userId now : Int) : Nat :=
  match commandCounts.get userId with
  | none => 0
  | some entry => if 60000 < now - entry.windowStart then 0 else entry.count

/-- The update acts on the system: it comes from a user in a private chat who is within the
limits, and it is an acting command or the password of a login conversation.
-/
def ActsOnSystem (maxPerMin : Nat) (state : GatewayState) (delivery : Delivery) : Prop :=
  ∃ id chat text, delivery.update.fromId = some id ∧ 0 < id
    ∧ delivery.update.chat = some chat ∧ chat.type = .private
    ∧ delivery.update.text = some text ∧ text ≠ ""
    ∧ messagesInWindow state.userMsgCounts id delivery.now < maxPerMin
    ∧ ((text.toList.head? ≠ some '/'
        ∧ AwaitsPassword state.commands.requests chat delivery.replies)
      ∨ (text.toList.head? = some '/'
        ∧ commandsInWindow state.commandCounts id delivery.now < rateLimitPerMinute
        ∧ ∃ parsed, parseCommand text = some parsed
          ∧ (delivery.invocation { fromId := some id, chat := some chat } parsed).Acts
            state.commands.requests))

/-- Some of the calls is guarded. -/
def SomeGuarded (calls : List DependencyCall) : Prop := ∃ call ∈ calls, call.guarded = true

theorem not_someGuarded_nil : ¬ SomeGuarded [] :=
  fun ⟨_, member, _⟩ => List.not_mem_nil member

/-- A handler makes a guarded call exactly on an acting command. -/
theorem handler_acts (state : CommandState) (invocation : Invocation)
    : SomeGuarded (handler state invocation).calls ↔ invocation.Acts state.requests := by
  unfold SomeGuarded Invocation.Acts
  cases command : invocation.command
  case mode =>
    simp only [handler, command, mem_handleMode]
    constructor
    · rintro ⟨_, ⟨first, rest, args, acts⟩, -⟩
      rcases acts with ⟨confirm, -, valid⟩ | ⟨other, mode, notLive, named, -⟩
      · exact ⟨first, rest, args, .inl ⟨confirm, valid⟩⟩
      · exact ⟨first, rest, args, .inr ⟨other, mode, notLive, named⟩⟩
    · rintro ⟨first, rest, args, ⟨confirm, valid⟩ | ⟨other, mode, notLive, named⟩⟩
      · exact ⟨_, ⟨first, rest, args, .inl ⟨confirm, rfl, valid⟩⟩, rfl⟩
      · exact ⟨_, ⟨first, rest, args, .inr ⟨other, mode, notLive, named, rfl⟩⟩, rfl⟩
  case config =>
    simp only [handler, command, mem_handleConfig]
    constructor
    · rintro ⟨_, ⟨first, rest, args, confirm, pending, valid, -⟩, -⟩
      exact ⟨first, rest, args, confirm, pending, valid⟩
    · rintro ⟨first, rest, args, confirm, pending, valid⟩
      exact ⟨_, ⟨first, rest, args, confirm, pending, valid, rfl⟩, rfl⟩
  all_goals
    simp [handler, command, handlePause, handleEmergencyStop, DependencyCall.guarded]

/-- A plain text makes a guarded call exactly as an awaited password. -/
theorem loginText_acts {requests : PendingRequests} {ctx : OperatorContext} {chat : Chat}
    (text : String) (replies : Bool) (inChat : ctx.chat = some chat)
    : SomeGuarded (handleLoginConversationText requests ctx text replies).calls
      ↔ AwaitsPassword requests chat replies := by
  unfold SomeGuarded handleLoginConversationText AwaitsPassword
  by_cases zero : chat.id = 0
  · have noChatId : ctx.chatId = none := by
      simp [OperatorContext.chatId, inChat, zero, Option.filter]
    simp [noChatId, zero]
  have chatId : ctx.chatId = some chat.id := by
    simp [OperatorContext.chatId, inChat, zero, Option.filter]
  simp only [chatId]
  cases requests.pendingLogins.get chat.id with
  | none => simp
  | some conversation =>
      obtain ⟨step, email⟩ := conversation
      cases step with
      | email => simp
      | password =>
          cases email with
          | none => simp
          | some email =>
              by_cases empty : email = ""
              · simp [empty]
              · cases replies <;> simp [empty, zero, DependencyCall.guarded]

/-- A message is within the limit exactly when its user's minute has room for it. -/
theorem countMessage_within (maxPerMin : Nat) (userMsgCounts : Map Int MessageWindow)
    (uid now : Int)
    : (countMessage maxPerMin userMsgCounts uid now).1 = true
      ↔ messagesInWindow userMsgCounts uid now < maxPerMin := by
  unfold countMessage messagesInWindow
  cases userMsgCounts.get uid with
  | none => simp [Nat.succ_le_iff]
  | some window =>
      by_cases elapsed : window.reset < now
      · simp only [elapsed, if_true, decide_eq_true_eq]
        omega
      · simp only [elapsed, if_false, decide_eq_true_eq]
        omega

/-- A command is within the limit exactly when its user's minute has room for it. -/
theorem checkRateLimit_within (commandCounts : Map Int CommandWindow) (userId now : Int)
    : (checkRateLimit commandCounts userId now).1 = true
      ↔ commandsInWindow commandCounts userId now < rateLimitPerMinute := by
  unfold checkRateLimit commandsInWindow
  cases commandCounts.get userId with
  | none => simp [rateLimitPerMinute]
  | some entry =>
      by_cases elapsed : 60000 < now - entry.windowStart
      · simp [elapsed, rateLimitPerMinute]
      · by_cases full : rateLimitPerMinute ≤ entry.count
        · simp [elapsed, full]
        · simp [elapsed, full, not_le.mp full]

/-- The identity middleware accepts exactly the users in private chats. -/
theorem authMiddleware_eq_some {options : AuthOptions} {update : Update}
    {ctx : OperatorContext} (enforced : options.enforcePrivateChat = true)
    : authMiddleware options update = some ctx
      ↔ ∃ id chat, update.fromId = some id ∧ 0 < id ∧ update.chat = some chat
        ∧ chat.type = .private ∧ options.identity id (some chat) = ctx := by
  unfold authMiddleware
  cases update.chat with
  | none => simp [enforced]
  | some chat =>
      by_cases inPrivate : chat.type = .private
      · cases update.fromId with
        | none => simp [inPrivate]
        | some id =>
            by_cases invalid : id ≤ 0
            · simp [inPrivate, invalid, not_lt.mpr invalid]
            · simp [inPrivate, invalid, not_le.mp invalid]
      · simp [enforced, inPrivate]

/-- The router makes a guarded call exactly on an awaited password, and on an acting command
within its limit.
-/
theorem routerMiddleware_acts (state : GatewayState) {ctx : OperatorContext}
    (delivery : Delivery) {id : Int} {chat : Chat} (valid : 0 < id)
    (sender : ctx.fromId = some id) (inChat : ctx.chat = some chat)
    : SomeGuarded (routerMiddleware state ctx delivery).2
      ↔ ∃ text, delivery.update.text = some text ∧ text ≠ ""
        ∧ ((text.toList.head? ≠ some '/'
            ∧ AwaitsPassword state.commands.requests chat delivery.replies)
          ∨ (text.toList.head? = some '/'
            ∧ commandsInWindow state.commandCounts id delivery.now < rateLimitPerMinute
            ∧ ∃ parsed, parseCommand text = some parsed
              ∧ (delivery.invocation ctx parsed).Acts state.commands.requests)) := by
  unfold routerMiddleware
  cases delivery.update.text with
  | none => simp [not_someGuarded_nil]
  | some text =>
      by_cases empty : text = ""
      · simp [empty, not_someGuarded_nil]
      by_cases plain : text.toList.head? = some '/'
      · have nonzero : id ≠ 0 := valid.ne'
        rw [← checkRateLimit_within]
        cases limited : checkRateLimit state.commandCounts id delivery.now with
        | mk within counts =>
            cases within with
            | false => simp [empty, plain, sender, nonzero, limited, not_someGuarded_nil]
            | true =>
                cases parsed : parseCommand text with
                | none => simp [empty, plain, sender, nonzero, limited, parsed, not_someGuarded_nil]
                | some command =>
                    have acts : ∀ counted : CommandState,
                        SomeGuarded (handler counted (delivery.invocation ctx command)).calls
                          ↔ (delivery.invocation ctx command).Acts counted.requests :=
                      fun counted => handler_acts counted _
                    simp only [ne_eq, empty, not_false_eq_true, if_false, plain,
                      not_true_eq_false, sender, Option.getD_some, nonzero, limited,
                      Bool.true_eq_false, parsed, GatewayState.after, acts,
                      Option.some.injEq, exists_eq_left', true_and, false_and, false_or]
      · simp [empty, plain, GatewayState.after, loginText_acts _ _ inChat]

/-- An update makes a guarded call exactly when it acts on the system. -/
theorem handleUpdate_acts (allowedUserIds : List Int) (maxPerMin : Nat)
    (state : GatewayState) (delivery : Delivery)
    : SomeGuarded (handleUpdate allowedUserIds maxPerMin state delivery).2
      ↔ ActsOnSystem maxPerMin state delivery := by
  unfold handleUpdate ActsOnSystem
  simp only
  cases accepted : authMiddleware _ delivery.update with
  | none =>
      refine iff_of_false not_someGuarded_nil ?_
      rintro ⟨id, chat, text, sender, valid, inChat, inPrivate, -⟩
      have identified : authMiddleware (gatewayAuthOptions allowedUserIds) delivery.update
          = some _ :=
        (authMiddleware_eq_some rfl).mpr ⟨id, chat, sender, valid, inChat, inPrivate, rfl⟩
      rw [accepted] at identified
      cases identified
  | some ctx =>
      obtain ⟨id, chat, sender, valid, inChat, inPrivate, rfl⟩ :=
        (authMiddleware_eq_some rfl).mp accepted
      simp only [AuthOptions.identity]
      constructor
      · intro some
        by_cases within : (countMessage maxPerMin state.userMsgCounts id delivery.now).1 = true
        · rw [if_pos within] at some
          obtain ⟨text, found, nonempty, acts⟩ :=
            (routerMiddleware_acts _ delivery valid rfl rfl).mp some
          exact ⟨id, chat, text, sender, valid, inChat, inPrivate, found, nonempty,
            (countMessage_within _ _ _ _).mp within, acts⟩
        · rw [if_neg within] at some
          exact absurd some not_someGuarded_nil
      · rintro ⟨_, _, text, sender', -, inChat', -, found, nonempty, room, acts⟩
        obtain rfl := Option.some.inj (sender.symm.trans sender')
        obtain rfl := Option.some.inj (inChat.symm.trans inChat')
        rw [if_pos ((countMessage_within _ _ _ _).mpr room)]
        exact (routerMiddleware_acts _ delivery valid rfl rfl).mpr
          ⟨text, found, nonempty, acts⟩

/-- Handling an update respects the allow-list exactly when its sender is on it or the update
does not act on the system.
-/
theorem authorized_iff (allowedUserIds : List Int) (maxPerMin : Nat) (state : GatewayState)
    (delivery : Delivery)
    : Authorized allowedUserIds maxPerMin state delivery
      ↔ delivery.update.SenderAllowed allowedUserIds
        ∨ ¬ ActsOnSystem maxPerMin state delivery := by
  rw [← handleUpdate_acts allowedUserIds]
  unfold Authorized SomeGuarded
  constructor
  · intro authorized
    by_cases allowed : delivery.update.SenderAllowed allowedUserIds
    · exact .inl allowed
    · right
      rintro ⟨call, member, guarded⟩
      rw [authorized allowed call member] at guarded
      cases guarded
  · rintro (allowed | silent) stranger call member
    · exact absurd allowed stranger
    · by_contra guarded
      exact silent ⟨call, member, by simpa using guarded⟩

/-- With user 1 as the only allowed one, a `/pause` of user 42 pauses the system. -/
theorem stranger_pauses
    : let runtime : App.Runtime := { currentMode := .live, config := .object [] }
      let delivery : Delivery :=
        { update := { fromId := some 42, chat := some ⟨42, .private⟩, text := some "/pause" }
          now := 0
          random := fun _ => 0
          replies := true }
      (handleUpdate [1] 30 { commands := { runtime } } delivery).2
          = [.pauseSystem "Operator requested pause"]
        ∧ ¬ Authorized [1] 30 { commands := { runtime } } delivery := by
  intro runtime delivery
  have calls : (handleUpdate [1] 30 { commands := { runtime } } delivery).2
      = [.pauseSystem "Operator requested pause"] := by decide +kernel
  refine ⟨calls, fun authorized => ?_⟩
  have stranger : ¬ delivery.update.SenderAllowed [1] := by
    rintro ⟨id, member, sender⟩
    rw [List.mem_singleton] at member
    subst member
    cases sender
  have silent := authorized stranger (.pauseSystem "Operator requested pause") (by simp [calls])
  cases silent

end CrashWave.Telegram
