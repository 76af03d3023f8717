import CrashWave.Game.Types
import CrashWave.JavaScript.Datum

/-! The interceptor of the game's WebSocket messages, and which messages it reports as the crash
of a round. The type of a message is searched for the words of an event, and every declared type
holds the word `crash`.
-/

namespace CrashWave.Game

open JavaScript

namespace WsMessageTypes

def roundStart : String := "crash:round:start"
def roundUpdate : String := "crash:round:update"
def roundCrash : String := "crash:round:crash"
def roundEnd : String := "crash:round:end"
def tick : String := "crash:tick"
def stateChange : String := "crash:state"
def playerBet : String := "crash:player:bet"
def playerCashOut : String := "crash:player:cashout"
def balanceUpdate : String := "crash:balance"

/-- `Object.values(WS_MESSAGE_TYPES)`. -/
def values : List String :=
  [roundStart, roundUpdate, roundCrash, roundEnd, tick, stateChange, playerBet, playerCashOut,
    balanceUpdate]

end WsMessageTypes

/-- `PHASE_MAPPINGS`. -/
def phaseMappings : List (String × RoundPhase) :=
  [("idle", .idle), ("starting", .starting), ("run", .running), ("running", .running),
    ("active", .running), ("crash", .crashed), ("crashed", .crashed), ("end", .crashed),
    ("ended", .crashed), ("unknown", .unknown)]

-----------------------------------------------------------------------------------------
-- What is read of a message
-----------------------------------------------------------------------------------------

/-- The text of a value that is one. -/
def textOf : Option Datum → Option String
  | some (.scalar (.string text)) => some text
  | _ => none

/-- The first candidate that is a text of four characters or more. -/
def extractRoundId (payload : Datum) : Option String :=
  ["roundId", "round_id", "id", "gameId", "game_id", "hash"].findSome? fun name =>
    (textOf (payload.child name)).filter fun text => 4 ≤ utf16Length text

/-- The first candidate that is a multiplier, or a text that begins with one. -/
def extractMultiplier (payload : Datum) : Option Number :=
  ["multiplier", "currentMultiplier", "current_multiplier", "value", "crashPoint",
    "crash_point"].findSome? fun name =>
    let candidate :=
      match payload.child name with
      | some (.scalar (.number value)) => some value
      | some (.scalar (.string text)) => some (parseFloat text)
      | _ => none
    candidate.filter fun value => 1 ≤ value ∧ value < 100000

/-- The phase of a payload. The two lower-case names that every object inherits find something
that is no phase.
-/
def extractPhase (payload : Datum) : Option RoundPhase :=
  if payload.isObject then
    let stated :=
      (((textOf (payload.child "phase")).or (textOf (payload.child "state"))).or
        (textOf (payload.child "status"))).getD "unknown"
    let phase := toLowerCase stated
    if phase ∈ ["constructor", "__proto__"] then none
    else some ((phaseMappings.lookup phase).getD .unknown)
  else some .unknown

/-- `(message.type || message.event || '').toString()`, or nothing where that throws. -/
def messageType (numberText : Number → String) (message : Datum) : Option String :=
  match Datum.orElse (message.child "type") (message.child "event") with
  | some value => if value.truthy then value.toText numberText else some ""
  | none => some ""

/-- `message.payload || message`. -/
def messagePayload (message : Datum) : Datum :=
  ((message.child "payload").filter Datum.truthy).getD message

-----------------------------------------------------------------------------------------
-- The interceptor
-----------------------------------------------------------------------------------------

/-- `WSInterceptor`, with the types that it was configured with. -/
structure WsInterceptor where
  messageTypes : List String := WsMessageTypes.values
  started : Bool := false
  lastEventAt : Option String := none
  errorCount : Nat := 0
  consecutiveErrors : Nat := 0
  messageCount : Nat := 0
  latencyHistory : List Number := []
  currentRoundId : Option String := none

/-- A message as the page hands it over, with the time when it is handled. -/
structure WsDetail where
  message : Datum
  latencyMs : Number
  timestamp : String

namespace WsInterceptor

/-- Counts a message and its latency, of which the last hundred are kept. -/
def recordMessage (interceptor : WsInterceptor) (latencyMs : Number) : WsInterceptor :=
  let history := interceptor.latencyHistory ++ [latencyMs]
  { interceptor with
    latencyHistory := if 100 < history.length then history.tail else history
    messageCount := interceptor.messageCount + 1 }

def handleError (interceptor : WsInterceptor) : WsInterceptor :=
  { interceptor with
    errorCount := interceptor.errorCount + 1
    consecutiveErrors := interceptor.consecutiveErrors + 1 }

/-- A type is relevant when it holds a configured one, or a configured one holds it. -/
def isRelevantType (interceptor : WsInterceptor) (msgType : String) : Bool :=
  interceptor.messageTypes.any fun declared =>
    includes msgType declared || includes declared msgType

/-- Remembers the round of a payload that names one. -/
def rememberRound (interceptor : WsInterceptor) (payload : Datum) : WsInterceptor :=
  { interceptor with
    currentRoundId := (extractRoundId payload).or interceptor.currentRoundId }

def emit (interceptor : WsInterceptor) (event : NormalizedGameEvent)
    : WsInterceptor × List NormalizedGameEvent :=
  ({ interceptor with lastEventAt := some event.timestamp }, [event])

def processMessage (interceptor : WsInterceptor) (msgType : String) (detail : WsDetail)
    : WsInterceptor × List NormalizedGameEvent :=
  let payload := messagePayload detail.message
  let remembered := interceptor.rememberRound payload
  let multiplier := extractMultiplier payload
  let event (type : GameEventType) (phase : Option RoundPhase) : NormalizedGameEvent :=
    { type
      roundId := remembered.currentRoundId
      multiplier
      crashPoint := none
      phase
      source := "websocket"
      confidence := .high
      timestamp := detail.timestamp
      latencyMs := detail.latencyMs }
  if includes msgType "start" || includes msgType "round:start" then
    remembered.emit
      { event .roundStarted (some .running) with multiplier := some (multiplier.getD 1) }
  else if includes msgType "tick" || includes msgType "update" then
    if multiplier.isSome then remembered.emit (event .multiplierTick (some .running))
    else (remembered, [])
  else if includes msgType "crash" || includes msgType "end" then
    remembered.emit
      { event .roundCrashed (some .crashed) with
        crashPoint := multiplier
        confidence := if multiplier.isSome then .high else .medium }
  else if includes msgType "state" || includes msgType "phase" then
    interceptor.emit
      { event .gameStateChange (extractPhase payload) with
        roundId := interceptor.currentRoundId
        multiplier := none }
  else (interceptor, [])

/-- A message, and the events that are emitted for it. One whose type has no text throws and is
counted as an error.
-/
def handleWsMessage (numberText : Number → String) (interceptor : WsInterceptor)
    (detail : WsDetail) : WsInterceptor × List NormalizedGameEvent :=
  if interceptor.started then
    let recorded := interceptor.recordMessage detail.latencyMs
    if detail.message.isObject then
      match messageType numberText detail.message with
      | none => (recorded.handleError, [])
      | some msgType =>
          if recorded.isRelevantType msgType then
            let (handled, emitted) := recorded.processMessage msgType detail
            ({ handled with consecutiveErrors := 0 }, emitted)
          else (recorded, [])
    else (recorded, [])
  else (interceptor, [])

end WsInterceptor

-----------------------------------------------------------------------------------------
-- Which messages are reported as a crash
-----------------------------------------------------------------------------------------

/-- The declared types that end a round. -/
def WsMessageTypes.roundEnds : List String := [WsMessageTypes.roundCrash, WsMessageTypes.roundEnd]

/-- The declared types of the other kinds, and that of a message without one. -/
def WsMessageTypes.quiet : List String :=
  [WsMessageTypes.playerBet, WsMessageTypes.playerCashOut, WsMessageTypes.balanceUpdate,
    WsMessageTypes.stateChange, ""]

/-- The type is searched for its words as far as those of a crash, and holds one of these. -/
def readsAsCrash (msgType : String) : Bool :=
  !(includes msgType "start" || (includes msgType "tick" || includes msgType "update"))
    && (includes msgType "crash" || includes msgType "end")

variable {numberText : Number → String} {interceptor : WsInterceptor} {detail : WsDetail}

/-- A message reports a crash. -/
def ReportsCrash (numberText : Number → String) (interceptor : WsInterceptor)
    (detail : WsDetail) : Prop :=
  ∃ event ∈ (interceptor.handleWsMessage numberText detail).2, event.type = .roundCrashed

/-- The word of a start is part of the longer one that is searched for after it. -/
theorem includes_start (msgType : String)
    : (includes msgType "start" || includes msgType "round:start")
      = includes msgType "start" := by
  by_cases longer : includes msgType "round:start" = true
  · have part : "start".toList <:+: "round:start".toList := by decide
    have whole : "round:start".toList <:+: msgType.toList := of_decide_eq_true longer
    have shorter : includes msgType "start" = true := decide_eq_true (part.trans whole)
    rw [shorter, Bool.true_or]
  · rw [Bool.not_eq_true] at longer
    rw [longer, Bool.or_false]

/-- What is made of a message is a crash exactly when its type reads as one. -/
theorem processMessage_roundCrashed_iff (msgType : String)
    : (∃ event ∈ (interceptor.processMessage msgType detail).2, event.type = .roundCrashed)
      ↔ readsAsCrash msgType = true := by
  simp only [WsInterceptor.processMessage, readsAsCrash, includes_start, WsInterceptor.emit]
  cases includes msgType "start" with
  | true => simp
  | false =>
      cases includes msgType "tick" || includes msgType "update" with
      | true =>
          cases (extractMultiplier (messagePayload detail.message)).isSome <;> simp
      | false =>
          cases includes msgType "crash" || includes msgType "end" with
          | true => simp
          | false => cases includes msgType "state" || includes msgType "phase" <;> simp

theorem isRelevantType_recordMessage (latencyMs : Number) (msgType : String)
    : (interceptor.recordMessage latencyMs).isRelevantType msgType
      = interceptor.isRelevantType msgType := rfl

/-- The type of a message, where it has a text that is relevant to the interceptor. -/
def RelevantType (numberText : Number → String) (interceptor : WsInterceptor)
    (message : Datum) (msgType : String) : Prop :=
  message.isObject = true ∧ messageType numberText message = some msgType
    ∧ interceptor.isRelevantType msgType = true

/-- A message reports a crash exactly when the interceptor is started and the type of the message
is relevant and reads as one.
-/
theorem reportsCrash_iff
    : ReportsCrash numberText interceptor detail
      ↔ interceptor.started = true
        ∧ ∃ msgType, RelevantType numberText interceptor detail.message msgType
          ∧ readsAsCrash msgType = true := by
  unfold ReportsCrash WsInterceptor.handleWsMessage
  cases interceptor.started with
  | false => simp
  | true =>
      rw [if_pos rfl]
      dsimp only
      split
      · next object =>
          cases typed : messageType numberText detail.message with
          | none => simp [RelevantType, typed]
          | some msgType =>
              simp only [RelevantType, object, typed, Option.some.injEq, true_and]
              by_cases relevant
                  : (interceptor.recordMessage detail.latencyMs).isRelevantType msgType = true
              · rw [if_pos relevant]
                rw [isRelevantType_recordMessage] at relevant
                simpa [relevant] using processMessage_roundCrashed_iff msgType
              · rw [if_neg relevant]
                rw [isRelevantType_recordMessage] at relevant
                simp [relevant]
      · next scalar => simp [RelevantType, scalar]

/-- A crash is reported for the declared ends of a round only, and for no message of another kind
and none without a type.
-/
structure CrashesAsDeclared (numberText : Number → String) (interceptor : WsInterceptor)
    (detail : WsDetail) : Prop where
  declared : ReportsCrash numberText interceptor detail
    → ∃ msgType ∈ WsMessageTypes.roundEnds, messageType numberText detail.message = some msgType
  quiet : ∀ msgType ∈ WsMessageTypes.quiet,
    messageType numberText detail.message = some msgType
    → ¬ ReportsCrash numberText interceptor detail

/-- The types of the other kinds end no round. -/
theorem not_roundEnd_of_quiet {msgType : String} (quiet : msgType ∈ WsMessageTypes.quiet)
    : msgType ∉ WsMessageTypes.roundEnds := by
  revert msgType
  decide

/-- A message without a type or an event reports nothing. -/
theorem not_reportsCrash_of_untyped
    (untyped : messageType numberText detail.message = some "")
    : ¬ ReportsCrash numberText interceptor detail := by
  rw [reportsCrash_iff]
  rintro ⟨-, msgType, ⟨-, typed, -⟩, reads⟩
  obtain rfl : msgType = "" := Option.some.inj (typed.symm.trans untyped)
  exact absurd reads (by decide)

/-- The crashes are reported as declared exactly when the interceptor is stopped, or the type of
the message is no relevant text, ends a round, or does not read as a crash.
-/
theorem crashesAsDeclared_iff (numberText : Number → String) (interceptor : WsInterceptor)
    (detail : WsDetail)
    : CrashesAsDeclared numberText interceptor detail
      ↔ (interceptor.started = true
        → ∀ msgType, RelevantType numberText interceptor detail.message msgType
          → msgType ∈ WsMessageTypes.roundEnds ∨ readsAsCrash msgType = false) := by
  constructor
  · rintro ⟨declared, -⟩ started msgType relevant
    by_contra misread
    simp only [not_or, Bool.not_eq_false] at misread
    obtain ⟨other, ends, typed⟩ :=
      declared (reportsCrash_iff.mpr ⟨started, msgType, relevant, misread.2⟩)
    obtain rfl := Option.some.inj (typed.symm.trans relevant.2.1)
    exact misread.1 ends
  · intro clear
    have declared : ReportsCrash numberText interceptor detail
        → ∃ msgType ∈ WsMessageTypes.roundEnds,
          messageType numberText detail.message = some msgType := by
      intro reports
      obtain ⟨started, msgType, relevant, reads⟩ := reportsCrash_iff.mp reports
      rcases clear started msgType relevant with ends | other
      · exact ⟨msgType, ends, relevant.2.1⟩
      · rw [other] at reads
        cases reads
    refine ⟨declared, fun msgType quiet typed reports => ?_⟩
    obtain ⟨other, ends, ownType⟩ := declared reports
    obtain rfl := Option.some.inj (ownType.symm.trans typed)
    exact not_roundEnd_of_quiet quiet ends

/-- A message of a type, with nothing else. -/
def typedMessage (msgType : String) : WsDetail where
  message := .object [("type", .scalar (.string msgType))]
  latencyMs := 5
  timestamp := "2026-01-01T00:00:00.000Z"

/-- With the declared types, every message of the player, the cash-out, the balance and the state
is reported as a crash.
-/
theorem player_bet_reported
    : (∀ msgType ∈ [WsMessageTypes.playerBet, WsMessageTypes.playerCashOut,
          WsMessageTypes.balanceUpdate, WsMessageTypes.stateChange],
        (({ started := true } : WsInterceptor).handleWsMessage (fun _ => "")
          (typedMessage msgType)).2.map (·.type) = [.roundCrashed])
      ∧ ¬ CrashesAsDeclared (fun _ => "") { started := true }
          (typedMessage WsMessageTypes.playerBet) := by
  have reported : ∀ msgType ∈ [WsMessageTypes.playerBet, WsMessageTypes.playerCashOut,
        WsMessageTypes.balanceUpdate, WsMessageTypes.stateChange],
      (({ started := true } : WsInterceptor).handleWsMessage (fun _ => "")
        (typedMessage msgType)).2.map (·.type) = [.roundCrashed] := by
    decide +kernel
  refine ⟨reported, fun law => ?_⟩
  have crash := reported WsMessageTypes.playerBet List.mem_cons_self
  apply law.quiet WsMessageTypes.playerBet (by decide) rfl
  obtain ⟨event, only⟩ := List.map_eq_singleton_iff.mp crash
  exact ⟨event, by rw [only.1]; exact List.mem_singleton_self event, only.2⟩

end CrashWave.Game
