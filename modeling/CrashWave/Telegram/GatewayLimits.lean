import CrashWave.Telegram.LoginConversations
import CrashWave.Windows.Basic

/-! The limits of a user over runs of the gateway: they hold in any minute up to a factor of two. -/

namespace CrashWave.Telegram

open JavaScript Runs Windows

variable {allowedUserIds : List Int} {maxPerMin : Nat} {state : GatewayState} {delivery : Delivery}

/-- The messages of a user that the gateway let through, and the commands that the router did. -/
structure Traffic where
  messages : List Int := []
  commands : List Int := []

/-- Whether an update is a command that the router lets through. -/
def isCommand (state : GatewayState) (delivery : Delivery) (ctx : OperatorContext) : Bool :=
  delivery.update.text.any (fun text => text.toList.head? = some '/')
    && commandWithin state delivery ctx

/-- Notes the time of what is let through for a user. -/
def noteTraffic (allowedUserIds : List Int) (maxPerMin : Nat) (uid : Int) (traffic : Traffic)
    (state : GatewayState) (delivery : Delivery) : Traffic :=
  match letThrough allowedUserIds maxPerMin state delivery with
  | none => traffic
  | some ctx =>
      if ctx.fromId = some uid then
        {
          messages := traffic.messages ++ [delivery.now]
          commands :=
            if isCommand state delivery ctx then traffic.commands ++ [delivery.now]
            else traffic.commands
        }
      else traffic

/-- The current window of a user started before, and holds the last of what was let through. -/
structure Limited (limit : Nat) (started : Option (Int × Nat)) (times : List Int) : Prop where
  fresh : started = none → times = []
  paced : ∀ start count, started = some (start, count) → ∃ older last current,
    times = older ++ last ++ current ∧ Paced 60000 limit start older last current
      ∧ current.length = min count limit

/-- Nothing that is let through is more than twice the limit in any minute. -/
theorem Limited.inside_le {limit : Nat} {started : Option (Int × Nat)} {times : List Int}
    (limited : Limited limit started times) (first : Int)
    : inside first 60000 times ≤ 2 * limit := by
  cases begun : started with
  | none =>
      rw [limited.fresh begun]
      exact Nat.zero_le _
  | some window =>
      obtain ⟨older, last, current, rfl, paced, counted⟩ := limited.paced _ _ begun
      refine paced.within ?_ first
      rw [counted]
      exact Nat.min_le_right _ _

/-- A window that is over, or that there is none of, makes way for a new one. -/
theorem Limited.opens {limit : Nat} {started : Option (Int × Nat)} {times : List Int} {now : Int}
    (limited : Limited limit started times)
    (over' : ∀ start count, started = some (start, count) → start + 60000 < now)
    : ∃ older last, times = older ++ last ∧ Paced 60000 limit now older last [] := by
  cases begun : started with
  | none => exact ⟨[], [], limited.fresh begun, .nil _ _ _⟩
  | some window =>
      obtain ⟨start, count⟩ := window
      obtain ⟨older, last, current, rfl, paced, counted⟩ := limited.paced _ _ begun
      refine ⟨older ++ last, current, rfl, paced.turn ?_ (by decide) (over' _ _ begun)⟩
      rw [counted]
      exact Nat.min_le_right _ _

/-- The first time of a new window. -/
theorem Limited.restarts {limit : Nat} {started : Option (Int × Nat)} {times : List Int}
    (limited : Limited limit started times) (now : Int)
    (over' : ∀ start count, started = some (start, count) → start + 60000 < now)
    : Limited limit (some (now, 1)) (if 0 < limit then times ++ [now] else times) where
  fresh none := by cases none
  paced start count same := by
    cases same
    obtain ⟨older, last, rfl, paced⟩ := limited.opens over'
    split
    · next positive =>
        refine ⟨older, last, [now], rfl, paced.concat (le_refl _) (by omega), ?_⟩
        rw [List.length_singleton]
        omega
    · next zero =>
        refine ⟨older, last, [], (List.append_nil _).symm, paced, ?_⟩
        rw [List.length_nil]
        omega

/-- One more time in a window that is not over. -/
theorem Limited.counts {limit : Nat} {start : Int} {count : Nat} {times : List Int} {now : Int}
    (limited : Limited limit (some (start, count)) times) (count' : Nat) (begun : start ≤ now)
    (open' : now ≤ start + 60000) (counted : count < limit → count' = count + 1)
    (full : limit ≤ count → limit ≤ count')
    : Limited limit (some (start, count')) (if count < limit then times ++ [now] else times) where
  fresh none := by cases none
  paced start' count'' same := by
    cases same
    obtain ⟨older, last, current, rfl, paced, length⟩ := limited.paced _ _ rfl
    split
    · next room =>
        refine ⟨older, last, current ++ [now], by simp, paced.concat begun open', ?_⟩
        rw [List.length_append, length, List.length_singleton, counted room]
        omega
    · next none =>
        refine ⟨older, last, current, rfl, paced, ?_⟩
        have stays := full (not_lt.mp none)
        omega

/-- A message is counted. -/
theorem limited_countMessage {maxPerMin : Nat} {counts : Map Int MessageWindow} {uid now : Int}
    {times : List Int}
    (limited : Limited maxPerMin
      ((counts.get uid).map fun window => (window.reset - 60000, window.n)) times)
    (begun : ∀ window, counts.get uid = some window → window.reset - 60000 ≤ now)
    : Limited maxPerMin
        (((countMessage maxPerMin counts uid now).2.get uid).map fun window =>
          (window.reset - 60000, window.n))
        (if (countMessage maxPerMin counts uid now).1 then times ++ [now] else times) := by
  unfold countMessage
  cases found : counts.get uid with
  | none =>
      rw [found] at limited
      have restarted := limited.restarts now (by simp)
      simpa [Nat.succ_le_iff] using restarted
  | some window =>
      rw [found] at limited
      by_cases elapsed : window.reset < now
      · have restarted := limited.restarts now (by simp; omega)
        simpa [elapsed, Nat.succ_le_iff] using restarted
      · have counted := limited.counts (window.n + 1) (begun window found) (by omega)
          (fun _ => rfl) (by omega)
        simpa [elapsed, Nat.succ_le_iff] using counted

/-- A command is counted. -/
theorem limited_checkRateLimit {counts : Map Int CommandWindow} {uid now : Int} {times : List Int}
    (limited : Limited rateLimitPerMinute
      ((counts.get uid).map fun entry => (entry.windowStart, entry.count)) times)
    (begun : ∀ entry, counts.get uid = some entry → entry.windowStart ≤ now)
    : Limited rateLimitPerMinute
        (((checkRateLimit counts uid now).2.get uid).map fun entry =>
          (entry.windowStart, entry.count))
        (if (checkRateLimit counts uid now).1 then times ++ [now] else times) := by
  unfold checkRateLimit
  cases found : counts.get uid with
  | none =>
      rw [found] at limited
      have restarted := limited.restarts now (by simp)
      simpa [rateLimitPerMinute] using restarted
  | some entry =>
      rw [found] at limited
      by_cases elapsed : 60000 < now - entry.windowStart
      · have restarted := limited.restarts now (by simp; omega)
        simpa [elapsed, rateLimitPerMinute] using restarted
      · by_cases full : rateLimitPerMinute ≤ entry.count
        · have counted := limited.counts entry.count (begun entry found) (by omega)
            (fun room => absurd full (not_le.mpr room)) (fun _ => full)
          rw [if_neg (not_lt.mpr full)] at counted
          simpa [elapsed, full, found] using counted
        · have counted := limited.counts (entry.count + 1) (begun entry found) (by omega)
            (fun _ => rfl) (by omega)
          simpa [elapsed, full, not_le.mp full] using counted

/-- The router counts commands only, and only those of their user. -/
theorem counts_router (state : GatewayState) (delivery : Delivery) {ctx : OperatorContext}
    {id : Int} (sender : ctx.fromId = some id) (valid : 0 < id)
    : (routerMiddleware state ctx delivery).1.userMsgCounts = state.userMsgCounts
      ∧ (routerMiddleware state ctx delivery).1.commandCounts
        = if delivery.update.text.any (fun text => text.toList.head? = some '/') then
            (checkRateLimit state.commandCounts id delivery.now).2
          else state.commandCounts := by
  unfold routerMiddleware
  cases delivery.update.text with
  | none => exact ⟨rfl, rfl⟩
  | some text =>
      by_cases empty : text = ""
      · subst empty
        exact ⟨rfl, rfl⟩
      · by_cases plain : text.toList.head? = some '/'
        · have nonzero : id ≠ 0 := valid.ne'
          simp only [empty, if_false, plain, ne_eq, not_true_eq_false, sender, Option.getD_some,
            nonzero, Option.any_some, decide_true, if_true]
          cases limited : checkRateLimit state.commandCounts id delivery.now with
          | mk within counts =>
              cases within with
              | false => exact ⟨rfl, rfl⟩
              | true =>
                  cases parseCommand text with
                  | none => exact ⟨rfl, rfl⟩
                  | some parsed => exact ⟨rfl, rfl⟩
        · simp only [empty, if_false, plain, ne_eq, not_false_eq_true, if_true, Option.any_some,
            decide_false]
          exact ⟨rfl, rfl⟩

/-- Both limits of a user, with what was let through. -/
structure InLimits (maxPerMin : Nat) (uid : Int) (state : GatewayState) (traffic : Traffic)
    : Prop where
  messages : Limited maxPerMin
    ((state.userMsgCounts.get uid).map fun window => (window.reset - 60000, window.n))
    traffic.messages
  commands : Limited rateLimitPerMinute
    ((state.commandCounts.get uid).map fun entry => (entry.windowStart, entry.count))
    traffic.commands

/-- The windows of a user have started by a time. -/
structure Begun (uid now : Int) (state : GatewayState) : Prop where
  messages : ∀ window, state.userMsgCounts.get uid = some window → window.reset - 60000 ≤ now
  commands : ∀ entry, state.commandCounts.get uid = some entry → entry.windowStart ≤ now

/-- What an update leaves of the counts, and whether it gets through. -/
inductive Counted (allowedUserIds : List Int) (maxPerMin : Nat) (state : GatewayState)
    (delivery : Delivery) (after : GatewayState) : Prop
  | ignored : after = state →
      letThrough allowedUserIds maxPerMin state delivery = none →
      Counted allowedUserIds maxPerMin state delivery after
  | refused (id : Int) :
      after.userMsgCounts = (countMessage maxPerMin state.userMsgCounts id delivery.now).2 →
      after.commandCounts = state.commandCounts →
      (countMessage maxPerMin state.userMsgCounts id delivery.now).1 = false →
      letThrough allowedUserIds maxPerMin state delivery = none →
      Counted allowedUserIds maxPerMin state delivery after
  | through (id : Int) (ctx : OperatorContext) : 0 < id → ctx.fromId = some id →
      after.userMsgCounts = (countMessage maxPerMin state.userMsgCounts id delivery.now).2 →
      (countMessage maxPerMin state.userMsgCounts id delivery.now).1 = true →
      letThrough allowedUserIds maxPerMin state delivery = some ctx →
      (after.commandCounts = if delivery.update.text.any (fun text => text.toList.head? = some '/')
        then (checkRateLimit state.commandCounts id delivery.now).2 else state.commandCounts) →
      Counted allowedUserIds maxPerMin state delivery after

theorem counted_update (allowedUserIds : List Int) (maxPerMin : Nat) (state : GatewayState)
    (delivery : Delivery)
    : Counted allowedUserIds maxPerMin state delivery
        (nextUpdate allowedUserIds maxPerMin state delivery) := by
  unfold nextUpdate handleUpdate
  cases accepted : authMiddleware (gatewayAuthOptions allowedUserIds) delivery.update with
  | none => exact .ignored rfl (by simp [letThrough, accepted])
  | some ctx =>
      obtain ⟨id, chat, -, valid, -, -, rfl⟩ := (authMiddleware_eq_some rfl).mp accepted
      simp only [AuthOptions.identity]
      cases within : (countMessage maxPerMin state.userMsgCounts id delivery.now).1 with
      | false =>
          refine .refused id rfl rfl within ?_
          simp [letThrough, accepted, AuthOptions.identity, within, Option.filter]
      | true =>
          have sender : ((gatewayAuthOptions allowedUserIds).identity id (some chat)).fromId
              = some id := rfl
          have counts := counts_router
            { state with
              userMsgCounts := (countMessage maxPerMin state.userMsgCounts id delivery.now).2 }
            delivery sender valid
          refine .through id _ valid sender counts.1 within ?_ counts.2
          simp [letThrough, accepted, AuthOptions.identity, within, Option.filter]

/-- A count of one user leaves the windows of the others. -/
theorem get_countMessage_of_ne {uid id : Int} (other : uid ≠ id) (maxPerMin : Nat)
    (counts : Map Int MessageWindow) (now : Int)
    : (countMessage maxPerMin counts id now).2.get uid = counts.get uid :=
  Map.get_set_of_ne _ _ other

theorem get_checkRateLimit_of_ne {uid id : Int} (other : uid ≠ id)
    (counts : Map Int CommandWindow) (now : Int)
    : (checkRateLimit counts id now).2.get uid = counts.get uid := by
  unfold checkRateLimit
  split
  · exact Map.get_set_of_ne _ _ other
  · dsimp only
    split
    · exact Map.get_set_of_ne _ _ other
    · split
      · rfl
      · exact Map.get_set_of_ne _ _ other

theorem InLimits.next {uid : Int} {traffic : Traffic}
    (limits : InLimits maxPerMin uid state traffic) (begun : Begun uid delivery.now state)
    : InLimits maxPerMin uid (nextUpdate allowedUserIds maxPerMin state delivery)
        (noteTraffic allowedUserIds maxPerMin uid traffic state delivery) := by
  have counted := counted_update allowedUserIds maxPerMin state delivery
  generalize nextUpdate allowedUserIds maxPerMin state delivery = after at counted
  unfold noteTraffic
  cases counted with
  | ignored same none =>
      rw [none, same]
      exact limits
  | refused id messages commands within none =>
      rw [none]
      refine ⟨?_, by rw [commands]; exact limits.commands⟩
      rw [messages]
      by_cases own : uid = id
      · subst own
        have counted := limited_countMessage limits.messages begun.messages
        rwa [within, if_neg Bool.false_ne_true] at counted
      · rw [get_countMessage_of_ne own]
        exact limits.messages
  | through id ctx valid sender messages within through commands =>
      rw [through]
      by_cases own : uid = id
      · subst own
        simp only [sender, if_true]
        refine ⟨?_, ?_⟩
        · have counted := limited_countMessage limits.messages begun.messages
          rw [within, if_pos rfl] at counted
          rw [messages]
          exact counted
        · rw [commands, isCommand, commandWithin, sender]
          by_cases command :
              delivery.update.text.any (fun text => text.toList.head? = some '/') = true
          · have counted := limited_checkRateLimit limits.commands begun.commands
            simpa [command, valid.ne'] using counted
          · simpa [command] using limits.commands
      · have other : ctx.fromId ≠ some uid := by
          rw [sender]
          exact fun same => own (Option.some.inj same).symm
        simp only [if_neg other]
        refine ⟨?_, ?_⟩
        · rw [messages, get_countMessage_of_ne own]
          exact limits.messages
        · rw [commands]
          split
          · rw [get_checkRateLimit_of_ne own]
            exact limits.commands
          · exact limits.commands

theorem Begun.next {uid later : Int} (begun : Begun uid later state) (order : delivery.now ≤ later)
    : Begun uid later (nextUpdate allowedUserIds maxPerMin state delivery) := by
  have messageCounted : ∀ id window,
      (countMessage maxPerMin state.userMsgCounts id delivery.now).2.get uid = some window →
        window.reset - 60000 ≤ later := by
    intro id window found
    by_cases own : uid = id
    · subst own
      unfold countMessage at found
      rw [Map.get_set_self] at found
      cases found
      cases known : state.userMsgCounts.get uid with
      | none =>
          dsimp only
          omega
      | some held =>
          have before := begun.messages held known
          dsimp only
          split
          · dsimp only
            omega
          · exact before
    · rw [get_countMessage_of_ne own] at found
      exact begun.messages window found
  have commandCounted : ∀ id entry,
      (checkRateLimit state.commandCounts id delivery.now).2.get uid = some entry →
        entry.windowStart ≤ later := by
    intro id entry found
    by_cases own : uid = id
    · subst own
      unfold checkRateLimit at found
      cases known : state.commandCounts.get uid with
      | none =>
          rw [known] at found
          dsimp only at found
          rw [Map.get_set_self] at found
          cases found
          exact order
      | some held =>
          have before := begun.commands held known
          rw [known] at found
          dsimp only at found
          split at found
          · rw [Map.get_set_self] at found
            cases found
            exact order
          · split at found
            · exact begun.commands entry found
            · rw [Map.get_set_self] at found
              cases found
              exact before
    · rw [get_checkRateLimit_of_ne own] at found
      exact begun.commands entry found
  have counted := counted_update allowedUserIds maxPerMin state delivery
  generalize nextUpdate allowedUserIds maxPerMin state delivery = after at counted
  cases counted with
  | ignored same =>
      rw [same]
      exact begun
  | refused id messages commands =>
      refine ⟨fun window found => ?_, fun entry found => ?_⟩
      · rw [messages] at found
        exact messageCounted id window found
      · rw [commands] at found
        exact begun.commands entry found
  | through id ctx _ _ messages _ _ commands =>
      refine ⟨fun window found => ?_, fun entry found => ?_⟩
      · rw [messages] at found
        exact messageCounted id window found
      · rw [commands] at found
        split at found
        · exact commandCounted id entry found
        · exact begun.commands entry found

/-- The gateway with what it lets through for a user. -/
def trafficStep (allowedUserIds : List Int) (maxPerMin : Nat) (uid : Int)
    : GatewayState × Traffic → Delivery → GatewayState × Traffic :=
  watched (nextUpdate allowedUserIds maxPerMin) (noteTraffic allowedUserIds maxPerMin uid)

/-- Both limits hold along a run whose clock does not go back, by induction on the updates. -/
theorem inLimits_run (allowedUserIds : List Int) {uid : Int} {traffic : Traffic}
    {deliveries : List Delivery} (limits : InLimits maxPerMin uid state traffic)
    (begun : ∀ delivery ∈ deliveries, Begun uid delivery.now state)
    (ordered : deliveries.Pairwise fun earlier later => earlier.now ≤ later.now)
    : InLimits maxPerMin uid
        (run (trafficStep allowedUserIds maxPerMin uid) (state, traffic) deliveries).1
        (run (trafficStep allowedUserIds maxPerMin uid) (state, traffic) deliveries).2 := by
  induction deliveries generalizing state traffic with
  | nil => exact limits
  | cons delivery rest ih =>
      obtain ⟨first, ordered⟩ := List.pairwise_cons.mp ordered
      refine ih (limits.next (begun delivery List.mem_cons_self)) (fun later among => ?_) ordered
      exact (begun later (List.mem_cons_of_mem _ among)).next (first later among)

/-- In every run of the gateway in which the clock does not go back, no more than twice the limit of
a user's messages gets through to the router in any minute, and no more than sixty commands get
through it.
-/
theorem traffic_within_limits (allowedUserIds : List Int) (maxPerMin : Nat) (runtime : App.Runtime)
    {deliveries : List Delivery}
    (ordered : deliveries.Pairwise fun earlier later => earlier.now ≤ later.now) (uid first : Int)
    : let traffic := (run (trafficStep allowedUserIds maxPerMin uid)
        ({ commands := { runtime } }, {}) deliveries).2
      inside first 60000 traffic.messages ≤ 2 * maxPerMin
        ∧ inside first 60000 traffic.commands ≤ 60 := by
  have empty : ∀ limit, Limited limit none [] := fun limit =>
    ⟨fun _ => rfl, fun _ _ none => by cases none⟩
  have limits : InLimits maxPerMin uid { commands := { runtime } } {} := ⟨empty _, empty _⟩
  have begun : ∀ delivery ∈ deliveries, Begun uid delivery.now { commands := { runtime } } := by
    intro delivery _
    refine ⟨fun window found => ?_, fun entry found => ?_⟩ <;> cases found
  have later := inLimits_run allowedUserIds limits begun ordered
  exact ⟨later.messages.inside_le first, later.commands.inside_le first⟩

/-- Two commands of one user, a minute apart. -/
theorem traffic_within_two_commands
    : let runtime : App.Runtime := { currentMode := .live, config := .object [] }
      let status (now : Int) : Delivery :=
        {
          update := { fromId := some 42, chat := some ⟨42, .private⟩, text := some "/status" }
          now
          random := fun _ => 0
          replies := true
        }
      let traffic := (run (trafficStep [42] 30 42) ({ commands := { runtime } }, {})
        [status 0, status 60000]).2
      inside 0 60000 traffic.messages ≤ 2 * 30 ∧ inside 0 60000 traffic.commands ≤ 60 := by
  intro runtime status
  exact traffic_within_limits [42] 30 runtime (by simp [status]) 42 0

end CrashWave.Telegram
