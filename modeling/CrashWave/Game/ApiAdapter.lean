import CrashWave.Game.WsInterceptor
import CrashWave.Runs.Basic
import Mathlib.Data.List.Nodup

/-! The adapter that reads the rounds off the answers of the HTTP API, which it polls for and
intercepts. An answer is handled part by part; while a part waits for the listeners, the parts of
other answers are handled.
-/

namespace CrashWave.Game

open JavaScript

namespace APIAdapter

/-- The phases that are read as running. -/
def runningPhases : List String := ["running", "active", "inprogress"]

/-- The words of an address that is intercepted. -/
def interceptedWords : List String := ["crash", "round", "game", "history"]

-----------------------------------------------------------------------------------------
-- What is read of an answer
-----------------------------------------------------------------------------------------

/-- The candidates are those of a WebSocket message. -/
def extractRoundId (data : Datum) : Option String := Game.extractRoundId data

def inRange (value : Number) : Bool := 1 ≤ value ∧ value < 100000

/-- The number of a field that holds one, and else the first candidate that is a multiplier or a
text that begins with one.
-/
def extractMultiplier (data : Datum) (fieldName : String) : Option Number :=
  let named :=
    match data.child fieldName with
    | some (.scalar (.number value)) => some value
    | _ => none
  (named.filter inRange).or
    (["multiplier", "crashPoint", "crash_point", "value", "result"].findSome? fun name =>
      let candidate :=
        match data.child name with
        | some (.scalar (.number value)) => some value
        | some (.scalar (.string text)) => some (parseFloat text)
        | _ => none
      candidate.filter inRange)

/-- The phase of a current round is that of its own, or its state. -/
def isRunning (round : Datum) : Bool :=
  toLowerCase (((textOf (round.child "phase")).or (textOf (round.child "state"))).getD "unknown")
    ∈ runningPhases

/-- What is handled of an answer in one go: an item of the history, or the current round. -/
inductive ResponsePart where
  | historyItem (round : Option Datum)
  | currentRound (round : Datum)

/-- Reading a field of an item that is missing or `null` throws. -/
def ResponsePart.throws : ResponsePart → Bool
  | .historyItem none | .historyItem (some (.scalar .null)) => true
  | .historyItem (some _) | .currentRound _ => false

/-- The parts of an answer in the order in which `processNetworkResponse` handles them. -/
def responseParts (data : Datum) : List ResponsePart :=
  if data.isObject then
    let rounds :=
      match data.child "rounds" with
      | some (.array elements _) => elements.map .historyItem
      | _ => []
    let round := (Datum.orElse (data.child "round") (data.child "data")).filter Datum.truthy
    let current :=
      (Datum.orElse (data.child "currentRound") (data.child "current_round")).filter Datum.truthy
    rounds ++ round.toList.map (fun item => .historyItem (some item))
      ++ current.toList.map .currentRound
  else []

-----------------------------------------------------------------------------------------
-- The adapter
-----------------------------------------------------------------------------------------

/-- Who awaits the handling of an answer. -/
inductive Awaiter where
  | interception
  | poll
  deriving DecidableEq

/-- A call of `processNetworkResponse` that waits for the listeners, with the parts ahead. -/
structure ResponseCall where
  awaiter : Awaiter
  timestamp : String
  ahead : List ResponsePart

structure NetworkResponse where
  url : String
  data : Datum
  timestamp : Int

end APIAdapter

open APIAdapter

/-- `APIAdapter`, with the calls that wait and all events that it has emitted. -/
structure APIAdapter where
  started : Bool := false
  lastEventAt : Option String := none
  errorCount : Nat := 0
  consecutiveErrors : Nat := 0
  latencyHistory : List Number := []
  knownRoundIds : List String := []
  currentRoundId : Option String := none
  networkResponses : List NetworkResponse := []
  calls : List ResponseCall := []
  emitted : List NormalizedGameEvent := []

namespace APIAdapter

/-- Appends to a list of which the last hundred are kept. -/
def pushHundred {α : Type} (history : List α) (entry : α) : List α :=
  let pushed := history ++ [entry]
  if 100 < pushed.length then pushed.tail else pushed

def recordLatency (adapter : APIAdapter) (latencyMs : Number) : APIAdapter :=
  { adapter with latencyHistory := pushHundred adapter.latencyHistory latencyMs }

def handleError (adapter : APIAdapter) : APIAdapter :=
  { adapter with
    errorCount := adapter.errorCount + 1
    consecutiveErrors := adapter.consecutiveErrors + 1 }

/-- `emit` up to its first listener. -/
def emit (adapter : APIAdapter) (event : NormalizedGameEvent) : APIAdapter :=
  { adapter with
    lastEventAt := some event.timestamp
    emitted := adapter.emitted ++ [event] }

/-- The event of a round that is told as crashed. -/
def crashEvent (roundId : String) (crashPoint : Number) (timestamp : String)
    : NormalizedGameEvent where
  type := .roundCrashed
  roundId := some roundId
  multiplier := some crashPoint
  crashPoint := some crashPoint
  phase := some .crashed
  source := "api"
  confidence := .high
  timestamp
  latencyMs := 0

/-- The event of the multiplier of a running round. -/
def tickEvent (roundId : Option String) (multiplier : Number) (timestamp : String)
    : NormalizedGameEvent where
  type := .multiplierTick
  roundId
  multiplier := some multiplier
  crashPoint := none
  phase := some .running
  source := "api"
  confidence := .medium
  timestamp
  latencyMs := 0

/-- An item with an id and a multiplier is told as a crash if its round is not known. -/
def processRoundHistoryItem (adapter : APIAdapter) (round : Datum) (timestamp : String)
    : APIAdapter :=
  match extractRoundId round, extractMultiplier round "crashPoint" with
  | some roundId, some crashPoint =>
      if roundId ∈ adapter.knownRoundIds then adapter
      else
        { adapter with knownRoundIds := adapter.knownRoundIds ++ [roundId] }.emit
          (crashEvent roundId crashPoint timestamp)
  | _, _ => adapter

def processCurrentRound (adapter : APIAdapter) (round : Datum) (timestamp : String)
    : APIAdapter :=
  let roundId := extractRoundId round
  let named := { adapter with currentRoundId := roundId.or adapter.currentRoundId }
  match extractMultiplier round "multiplier" with
  | some multiplier =>
      if isRunning round then
        named.emit (tickEvent (roundId.or named.currentRoundId) multiplier timestamp)
      else named
  | none => named

/-- A part that does not throw. -/
def processPart (adapter : APIAdapter) (timestamp : String) : ResponsePart → APIAdapter
  | .historyItem (some round) => adapter.processRoundHistoryItem round timestamp
  | .historyItem none => adapter
  | .currentRound round => adapter.processCurrentRound round timestamp

/-- A call goes on: it handles its next part and waits, or it ends. A poll that ends well forgets
the errors before it, one that throws counts; an interception swallows what is thrown.
-/
def proceed (adapter : APIAdapter) (call : ResponseCall) : APIAdapter :=
  match call.ahead, call.awaiter with
  | [], .poll => { adapter with consecutiveErrors := 0 }
  | [], .interception => adapter
  | part :: ahead, awaiter =>
      if part.throws then
        match awaiter with
        | .poll => adapter.handleError
        | .interception => adapter
      else
        let handled := adapter.processPart call.timestamp part
        { handled with calls := handled.calls ++ [{ call with ahead }] }

/-- `processNetworkResponse` up to where it waits first: behind its first part, or at once where
there is none or it throws.
-/
def processNetworkResponse (adapter : APIAdapter) (awaiter : Awaiter) (data : Datum)
    (timestamp : String) : APIAdapter :=
  let call : ResponseCall := { awaiter, timestamp, ahead := responseParts data }
  if call.ahead.head?.any fun part => !part.throws then adapter.proceed call
  else { adapter with calls := adapter.calls ++ [call] }

/-- What happens to the adapter: it is started or stopped, a request of the page is intercepted,
the page has answered a poll or failed, and a call goes on.
-/
inductive APIInput where
  | start
  | stop
  | intercepted (url : String) (body : Option Datum) (time : Int) (timestamp : String)
  | polled (latencyMs : Number) (history : Option Datum) (timestamp : String)
  | pollFailed
  | resume (index : Nat)

/-- The adapter after what happens. -/
def next (adapter : APIAdapter) : APIInput → APIAdapter
  | .start => { adapter with started := true }
  | .stop => { adapter with started := false }
  | .intercepted url body time timestamp =>
      match body.filter Datum.truthy with
      | some data =>
          if interceptedWords.any (includes url) then
            { adapter with
              networkResponses :=
                pushHundred adapter.networkResponses { url, data, timestamp := time }
            }.processNetworkResponse .interception data timestamp
          else adapter
      | none => adapter
  | .polled latencyMs history timestamp =>
      let recorded := adapter.recordLatency latencyMs
      match history.filter Datum.truthy with
      | some data => recorded.processNetworkResponse .poll data timestamp
      | none => { recorded with consecutiveErrors := 0 }
  | .pollFailed => adapter.handleError
  | .resume index =>
      match adapter.calls[index]? with
      | some call => { adapter with calls := adapter.calls.eraseIdx index }.proceed call
      | none => adapter

-----------------------------------------------------------------------------------------
-- What is told of the answers
-----------------------------------------------------------------------------------------

/-- The answer that an input brings. -/
def response : APIInput → Option Datum
  | .intercepted url body _ _ =>
      if interceptedWords.any (includes url) then body.filter Datum.truthy else none
  | .polled _ history _ => history.filter Datum.truthy
  | .start | .stop | .pollFailed | .resume _ => none

/-- The parts before the first that throws. -/
def readable (parts : List ResponsePart) : List ResponsePart :=
  parts.takeWhile fun part => !part.throws

/-- A part shows a round as crashed. -/
def ShowsCrash (part : ResponsePart) (roundId : String) (crashPoint : Number) : Prop :=
  ∃ round, part = .historyItem (some round) ∧ extractRoundId round = some roundId
    ∧ extractMultiplier round "crashPoint" = some crashPoint

/-- A part shows the multiplier of a running round, and names no other round. -/
def ShowsTick (part : ResponsePart) (roundId : Option String) (multiplier : Number) : Prop :=
  ∃ round, part = .currentRound round ∧ isRunning round = true
    ∧ (∀ named, extractRoundId round = some named → roundId = some named)
    ∧ extractMultiplier round "multiplier" = some multiplier

/-- An event is of one of the parts. -/
inductive TellsOf (parts : List ResponsePart) : NormalizedGameEvent → Prop
  | crash {part : ResponsePart} {roundId : String} {crashPoint : Number} {timestamp : String}
      (among : part ∈ parts) (shows : ShowsCrash part roundId crashPoint)
      : TellsOf parts (crashEvent roundId crashPoint timestamp)
  | tick {part : ResponsePart} {roundId : Option String} {multiplier : Number}
      {timestamp : String} (among : part ∈ parts) (shows : ShowsTick part roundId multiplier)
      : TellsOf parts (tickEvent roundId multiplier timestamp)

/-- The crashes among events. -/
def crashes (events : List NormalizedGameEvent) : List NormalizedGameEvent :=
  events.filter fun event => event.type = .roundCrashed

/-- How often the calls go on until all have ended. -/
def work (adapter : APIAdapter) : Nat := (adapter.calls.map fun call => call.ahead.length + 1).sum

/-- The crashes told are those of the known rounds, one of each, and all that is told is of the
parts that were brought.
-/
structure Known (brought : List ResponsePart) (adapter : APIAdapter) : Prop where
  known : (crashes adapter.emitted).map (·.roundId) = adapter.knownRoundIds.map some
  nodup : adapter.knownRoundIds.Nodup
  told : ∀ event ∈ adapter.emitted, TellsOf brought event

/-- What waits is of the parts that were brought, and a round that one of them shows as crashed is
known unless that part waits.
-/
structure Told (brought : List ResponsePart) (adapter : APIAdapter) : Prop
    extends Known brought adapter where
  waiting : ∀ call ∈ adapter.calls, ∀ part ∈ readable call.ahead, part ∈ brought
  covered : ∀ part ∈ brought, ∀ roundId crashPoint, ShowsCrash part roundId crashPoint
    → roundId ∈ adapter.knownRoundIds ∨ ∃ call ∈ adapter.calls, part ∈ readable call.ahead

variable {adapter : APIAdapter} {brought : List ResponsePart} {call : ResponseCall}
  {part : ResponsePart} {ahead : List ResponsePart}

theorem extractMultiplier_inRange {data : Datum} {fieldName : String} {value : Number}
    (read : extractMultiplier data fieldName = some value)
    : 1 ≤ value ∧ value < 100000 := by
  rcases Option.or_eq_some_iff.mp read with named | ⟨-, candidate⟩
  · exact of_decide_eq_true (Option.filter_eq_some_iff.mp named).2
  · obtain ⟨name, -, found⟩ := List.exists_of_findSome?_eq_some candidate
    exact of_decide_eq_true (Option.filter_eq_some_iff.mp found).2

theorem readable_cons (runs : part.throws = false)
    : readable (part :: ahead) = part :: readable ahead :=
  List.takeWhile_cons_of_pos (by simp [runs])

theorem readable_of_throws (throws : part.throws = true) : readable (part :: ahead) = [] :=
  List.takeWhile_cons_of_neg (by simp [throws])

@[simp] theorem crashes_append (earlier newer : List NormalizedGameEvent)
    : crashes (earlier ++ newer) = crashes earlier ++ crashes newer :=
  List.filter_append ..

/-- A part tells a crash of a round that is not known, or the multiplier of a running round, or
nothing; a round that it shows as crashed is known behind it.
-/
theorem processPart_cases (adapter : APIAdapter) (timestamp : String) (part : ResponsePart)
    : let handled := adapter.processPart timestamp part
      handled.calls = adapter.calls
      ∧ ((handled.knownRoundIds = adapter.knownRoundIds ∧ handled.emitted = adapter.emitted
          ∧ ∀ roundId crashPoint, ShowsCrash part roundId crashPoint
            → roundId ∈ adapter.knownRoundIds)
        ∨ (∃ roundId crashPoint, ShowsCrash part roundId crashPoint
          ∧ roundId ∉ adapter.knownRoundIds
          ∧ handled.knownRoundIds = adapter.knownRoundIds ++ [roundId]
          ∧ handled.emitted = adapter.emitted ++ [crashEvent roundId crashPoint timestamp])
        ∨ ∃ roundId multiplier, ShowsTick part roundId multiplier
          ∧ handled.knownRoundIds = adapter.knownRoundIds
          ∧ handled.emitted = adapter.emitted ++ [tickEvent roundId multiplier timestamp]) := by
  rcases part with (_ | round) | round
  · exact ⟨rfl, .inl ⟨rfl, rfl, fun _ _ ⟨_, same, _⟩ => nomatch same⟩⟩
  · simp only [processPart, processRoundHistoryItem]
    split
    · next roundId crashPoint named shown =>
        split
        · next known =>
            refine ⟨rfl, .inl ⟨rfl, rfl, ?_⟩⟩
            rintro other point ⟨_, same, namedOther, -⟩
            cases same
            rw [← Option.some.inj (named.symm.trans namedOther)]
            exact known
        · next fresh =>
            exact ⟨rfl, .inr (.inl
              ⟨roundId, crashPoint, ⟨round, rfl, named, shown⟩, fresh, rfl, rfl⟩)⟩
    · next unread =>
        refine ⟨rfl, .inl ⟨rfl, rfl, ?_⟩⟩
        rintro roundId point ⟨_, same, named, shown⟩
        cases same
        exact absurd shown (unread roundId point named)
  · have shows (roundId : String) (crashPoint : Number)
        : ¬ ShowsCrash (.currentRound round) roundId crashPoint :=
      fun ⟨_, same, _⟩ => nomatch same
    simp only [processPart, processCurrentRound]
    split
    · next multiplier shown =>
        split
        · next running =>
            refine ⟨rfl, .inr (.inr ⟨_, multiplier, ⟨round, rfl, running, ?_, shown⟩, rfl, rfl⟩)⟩
            intro named found
            rw [found, Option.some_or]
        · exact ⟨rfl, .inl ⟨rfl, rfl, fun _ _ crash => absurd crash (shows _ _)⟩⟩
    · exact ⟨rfl, .inl ⟨rfl, rfl, fun _ _ crash => absurd crash (shows _ _)⟩⟩

-----------------------------------------------------------------------------------------
-- What a step keeps
-----------------------------------------------------------------------------------------

theorem Told.initial : Told [] {} where
  known := rfl
  nodup := List.nodup_nil
  told _ among := nomatch among
  waiting _ among := nomatch among
  covered _ among := nomatch among

/-- The order in which calls wait does not matter. -/
theorem Told.reorder {calls : List ResponseCall} (told : Told brought adapter)
    (same : ∀ call, call ∈ calls ↔ call ∈ adapter.calls)
    : Told brought { adapter with calls } where
  known := told.known
  nodup := told.nodup
  told := told.told
  waiting call among := told.waiting call ((same call).mp among)
  covered part among roundId crashPoint shows := by
    rcases told.covered part among roundId crashPoint shows with known | ⟨call, waits, within⟩
    · exact .inl known
    · exact .inr ⟨call, (same call).mpr waits, within⟩

/-- A call of which nothing is read any more may end. -/
theorem Told.ended (told : Told brought { adapter with calls := call :: adapter.calls })
    (done : readable call.ahead = []) : Told brought adapter where
  known := told.known
  nodup := told.nodup
  told := told.told
  waiting other among := told.waiting other (List.mem_cons_of_mem _ among)
  covered part among roundId crashPoint shows := by
    rcases told.covered part among roundId crashPoint shows with known | ⟨other, waits, within⟩
    · exact .inl known
    · rcases List.mem_cons.mp waits with rfl | rest
      · rw [done] at within
        cases within
      · exact .inr ⟨other, rest, within⟩

/-- Behind a part the known rounds are still those that are told, and all that it shows. -/
theorem Known.processed (known : Known brought adapter) (timestamp : String)
    (among : part ∈ brought)
    : let handled := adapter.processPart timestamp part
      Known brought handled
      ∧ (∀ roundId ∈ adapter.knownRoundIds, roundId ∈ handled.knownRoundIds)
      ∧ ∀ roundId crashPoint, ShowsCrash part roundId crashPoint
        → roundId ∈ handled.knownRoundIds := by
  have tells {newer : NormalizedGameEvent} (tells : TellsOf brought newer)
      : ∀ event ∈ adapter.emitted ++ [newer], TellsOf brought event := by
    intro event member
    rcases List.mem_append.mp member with before | new
    · exact known.told event before
    · rw [List.mem_singleton.mp new]
      exact tells
  obtain ⟨-, cases⟩ := processPart_cases adapter timestamp part
  rcases cases with ⟨rounds, emitted, quiet⟩
    | ⟨roundId, crashPoint, shows, fresh, rounds, emitted⟩
    | ⟨roundId, multiplier, shows, rounds, emitted⟩
  · dsimp only
    rw [rounds]
    refine ⟨⟨?_, ?_, ?_⟩, fun _ among => among, quiet⟩
    · rw [rounds, emitted]
      exact known.known
    · rw [rounds]
      exact known.nodup
    · rw [emitted]
      exact known.told
  · dsimp only
    rw [rounds]
    refine ⟨⟨?_, ?_, ?_⟩, fun _ among => List.mem_append_left _ among, ?_⟩
    · rw [rounds, emitted, crashes_append, List.map_append, List.map_append, known.known]
      rfl
    · rw [rounds, List.nodup_append]
      refine ⟨known.nodup, List.nodup_singleton roundId, ?_⟩
      rintro other among _ new rfl
      rw [List.mem_singleton.mp new] at among
      exact fresh among
    · rw [emitted]
      exact tells (.crash among shows)
    · rintro other point ⟨round, rfl, named, -⟩
      obtain ⟨_, same, ownName, -⟩ := shows
      cases same
      rw [Option.some.inj (named.symm.trans ownName)]
      exact List.mem_append_right _ (List.mem_singleton_self roundId)
  · dsimp only
    rw [rounds]
    refine ⟨⟨?_, ?_, ?_⟩, fun _ among => among, ?_⟩
    · rw [rounds, emitted, crashes_append, List.map_append, known.known]
      exact List.append_nil _
    · rw [rounds]
      exact known.nodup
    · rw [emitted]
      exact tells (.tick among shows)
    · rintro other point ⟨round, rfl, -⟩
      obtain ⟨_, same, -⟩ := shows
      cases same

/-- A call goes on behind its next part. -/
theorem Told.processed (told : Told brought { adapter with calls := call :: adapter.calls })
    (next : call.ahead = part :: ahead) (runs : part.throws = false)
    : let handled := adapter.processPart call.timestamp part
      Told brought { handled with calls := handled.calls ++ [{ call with ahead }] } := by
  have reads : readable call.ahead = part :: readable ahead := by rw [next, readable_cons runs]
  have own : ∀ item ∈ part :: readable ahead, item ∈ brought := by
    rw [← reads]
    exact told.waiting call List.mem_cons_self
  have known : Known brought adapter := ⟨told.known, told.nodup, told.told⟩
  obtain ⟨handled, kept, shown⟩ :=
    known.processed call.timestamp (own part List.mem_cons_self)
  have calls : (adapter.processPart call.timestamp part).calls = adapter.calls :=
    (processPart_cases adapter call.timestamp part).1
  refine ⟨⟨handled.known, handled.nodup, handled.told⟩, ?_, ?_⟩
  · intro other waits item within
    dsimp only at waits
    rw [calls] at waits
    rcases List.mem_append.mp waits with before | new
    · exact told.waiting other (List.mem_cons_of_mem _ before) item within
    · rw [List.mem_singleton.mp new] at within
      exact own item (List.mem_cons_of_mem _ within)
  · intro item member roundId crashPoint shows
    dsimp only
    rw [calls]
    rcases told.covered item member roundId crashPoint shows with known | ⟨other, waits, within⟩
    · exact .inl (kept roundId known)
    · rcases List.mem_cons.mp waits with rfl | rest
      · rw [reads] at within
        rcases List.mem_cons.mp within with rfl | later
        · exact .inl (shown roundId crashPoint shows)
        · exact .inr ⟨_, List.mem_append_right _ (List.mem_singleton_self _), later⟩
      · exact .inr ⟨other, List.mem_append_left _ rest, within⟩

/-- Wherever a call goes on to. -/
theorem Told.proceed (told : Told brought { adapter with calls := call :: adapter.calls })
    : Told brought (adapter.proceed call) := by
  unfold APIAdapter.proceed
  split
  · next nothing _ =>
      have ended := told.ended (by rw [nothing]; rfl)
      exact ⟨⟨ended.known, ended.nodup, ended.told⟩, ended.waiting, ended.covered⟩
  · next nothing _ => exact told.ended (by rw [nothing]; rfl)
  · next part ahead next =>
      split
      · next throws =>
          have ended := told.ended (by rw [next, readable_of_throws throws])
          split
          · exact ⟨⟨ended.known, ended.nodup, ended.told⟩, ended.waiting, ended.covered⟩
          · exact ended
      · next runs => exact told.processed next (Bool.not_eq_true _ ▸ runs)

/-- A call that begins waits with all that is read of its answer. -/
theorem Told.begun (told : Told brought adapter) (call : ResponseCall)
    : Told (brought ++ readable call.ahead) { adapter with calls := call :: adapter.calls } where
  known := told.known
  nodup := told.nodup
  told event among := by
    cases told.told event among with
    | crash before shows => exact .crash (List.mem_append_left _ before) shows
    | tick before shows => exact .tick (List.mem_append_left _ before) shows
  waiting other waits part within := by
    rcases List.mem_cons.mp waits with rfl | before
    · exact List.mem_append_right _ within
    · exact List.mem_append_left _ (told.waiting other before part within)
  covered part among roundId crashPoint shows := by
    rcases List.mem_append.mp among with before | new
    · rcases told.covered part before roundId crashPoint shows with known | ⟨other, waits, within⟩
      · exact .inl known
      · exact .inr ⟨other, List.mem_cons_of_mem _ waits, within⟩
    · exact .inr ⟨call, List.mem_cons_self, new⟩

/-- An answer is handled as far as it goes at once. -/
theorem Told.processNetworkResponse (told : Told brought adapter) (awaiter : Awaiter)
    (data : Datum) (timestamp : String)
    : Told (brought ++ readable (responseParts data))
        (adapter.processNetworkResponse awaiter data timestamp) := by
  have begun := told.begun { awaiter, timestamp, ahead := responseParts data }
  rw [APIAdapter.processNetworkResponse]
  split
  · exact begun.proceed
  · apply begun.reorder
    intro call
    rw [List.mem_append, List.mem_singleton, List.mem_cons, or_comm]

/-- The parts that an input brings. -/
def parts (input : APIInput) : List ResponsePart :=
  ((response input).map fun data => readable (responseParts data)).getD []

/-- What happens brings its parts. -/
theorem Told.next (told : Told brought adapter) (input : APIInput)
    : Told (brought ++ parts input) (adapter.next input) := by
  have known {adapter' : APIAdapter} (rounds : adapter'.knownRoundIds = adapter.knownRoundIds)
      (emitted : adapter'.emitted = adapter.emitted) (calls : adapter'.calls = adapter.calls)
      : Told brought adapter' := by
    refine ⟨⟨?_, ?_, ?_⟩, ?_, ?_⟩
    · rw [rounds, emitted]
      exact told.known
    · rw [rounds]
      exact told.nodup
    · rw [emitted]
      exact told.told
    · rw [calls]
      exact told.waiting
    · rw [rounds, calls]
      exact told.covered
  cases input with
  | start | stop | pollFailed =>
      rw [parts, response, Option.map_none, Option.getD_none, List.append_nil]
      exact known rfl rfl rfl
  | intercepted url body time timestamp =>
      rw [parts, response, APIAdapter.next]
      cases body.filter Datum.truthy with
      | none =>
          rw [ite_self, Option.map_none, Option.getD_none, List.append_nil]
          exact told
      | some data =>
          dsimp only
          split
          · rw [Option.map_some, Option.getD_some]
            apply Told.processNetworkResponse
            exact known rfl rfl rfl
          · rw [Option.map_none, Option.getD_none, List.append_nil]
            exact told
  | polled latencyMs history timestamp =>
      rw [parts, response, APIAdapter.next]
      cases history.filter Datum.truthy with
      | none =>
          rw [Option.map_none, Option.getD_none, List.append_nil]
          exact known rfl rfl rfl
      | some data =>
          rw [Option.map_some, Option.getD_some]
          apply Told.processNetworkResponse
          exact known rfl rfl rfl
  | resume index =>
      rw [parts, response, Option.map_none, Option.getD_none, List.append_nil, APIAdapter.next]
      split
      · next call found =>
          obtain ⟨inside, rfl⟩ := List.getElem?_eq_some_iff.mp found
          apply Told.proceed
          apply told.reorder
          intro other
          exact (List.getElem_cons_eraseIdx_perm inside).mem_iff
      · exact told

/-- Along a run, by induction at its end. -/
theorem told_run (inputs : List APIInput)
    : Told (inputs.flatMap parts) (Runs.run APIAdapter.next {} inputs) := by
  induction inputs using List.reverseRecOn with
  | nil => exact .initial
  | append_singleton before input ih =>
      rw [Runs.run_append, List.flatMap_append, List.flatMap_singleton]
      exact ih.next input

-----------------------------------------------------------------------------------------
-- Each round's crash is told once
-----------------------------------------------------------------------------------------

theorem work_append (adapter : APIAdapter) (call : ResponseCall)
    : work { adapter with calls := adapter.calls ++ [call] }
      = adapter.work + (call.ahead.length + 1) := by
  simp [work]

/-- A call that goes on is one step nearer to its end. -/
theorem work_proceed (adapter : APIAdapter) (call : ResponseCall)
    : (adapter.proceed call).work ≤ adapter.work + call.ahead.length := by
  unfold proceed
  split
  · exact Nat.le_add_right _ _
  · exact Nat.le_add_right _ _
  · next part ahead next =>
      split
      · split <;> exact Nat.le_add_right _ _
      · dsimp only
        rw [work_append, work, (processPart_cases adapter call.timestamp part).1, next]
        exact le_rfl

/-- Calls that go on one behind the other come to their ends. -/
theorem calls_end (adapter : APIAdapter) {count : Nat} (enough : adapter.work ≤ count)
    : (Runs.run next adapter (List.replicate count (.resume 0))).calls = [] := by
  induction count generalizing adapter with
  | zero =>
      rw [work, Nat.le_zero] at enough
      cases waits : adapter.calls with
      | nil => exact waits
      | cons call rest => simp [waits] at enough
  | succ count ih =>
      rw [List.replicate_succ, Runs.run_cons]
      apply ih
      rw [next]
      cases waits : adapter.calls with
      | nil => simp [work, waits]
      | cons call rest =>
          have less := work_proceed { adapter with calls := rest } call
          simp only [work, waits, List.map_cons, List.sum_cons] at enough
          simp only [List.getElem?_cons_zero, List.eraseIdx_zero, List.tail_cons]
          refine less.trans ?_
          simp only [work]
          omega

/-- In every run each round is told as crashed once at most, and the known rounds are those that
are told; what is told was shown by an answer, as a multiplier in range; once no call waits, which
comes about when all go on, the rounds that an answer shows as crashed have all been told.
-/
theorem crashes_told_once (inputs : List APIInput)
    : let adapter := Runs.run next {} inputs
      let brought := inputs.flatMap parts
      (crashes adapter.emitted).map (·.roundId) = adapter.knownRoundIds.map some
      ∧ adapter.knownRoundIds.Nodup
      ∧ (∀ event ∈ adapter.emitted, TellsOf brought event
          ∧ ∃ multiplier, event.multiplier = some multiplier
            ∧ 1 ≤ multiplier ∧ multiplier < 100000)
      ∧ (adapter.calls = [] → ∀ roundId, roundId ∈ adapter.knownRoundIds
          ↔ ∃ part ∈ brought, ∃ crashPoint, ShowsCrash part roundId crashPoint)
      ∧ (Runs.run next adapter (List.replicate adapter.work (.resume 0))).calls = [] := by
  intro adapter brought
  have told : Told brought adapter := told_run inputs
  refine ⟨told.known, told.nodup, ?_, ?_, calls_end adapter le_rfl⟩
  · intro event among
    have tells := told.told event among
    refine ⟨tells, ?_⟩
    cases tells with
    | crash _ shows =>
        obtain ⟨round, -, -, shown⟩ := shows
        exact ⟨_, rfl, extractMultiplier_inRange shown⟩
    | tick _ shows =>
        obtain ⟨round, -, -, -, shown⟩ := shows
        exact ⟨_, rfl, extractMultiplier_inRange shown⟩
  · intro idle roundId
    constructor
    · intro known
      have among : some roundId ∈ (crashes adapter.emitted).map (·.roundId) := by
        rw [told.known]
        exact List.mem_map_of_mem known
      obtain ⟨event, crash, named⟩ := List.mem_map.mp among
      obtain ⟨member, type⟩ := List.mem_filter.mp crash
      cases told.told event member with
      | crash among shows =>
          cases named
          exact ⟨_, among, _, shows⟩
      | tick _ _ => simp [tickEvent] at type
    · rintro ⟨part, among, crashPoint, shows⟩
      rcases told.covered part among roundId crashPoint shows with known | ⟨call, waits, -⟩
      · exact known
      · rw [idle] at waits
        cases waits

/-- A running round that an answer holds as its `round` is told as crashed at its multiplier, and
its crash is not told any more.
-/
example
    : let shown (multiplier : Number) : Datum :=
        .object [("round", .object
          [("id", .scalar (.string "r-17")), ("phase", .scalar (.string "running")),
            ("multiplier", .scalar (.number multiplier))])]
      (Runs.run next {}
        [.polled 5 (some (shown (.finite (3 / 2)))) "t1", .resume 0, .resume 0,
          .polled 5 (some (shown 7)) "t2"]).emitted
        = [crashEvent "r-17" (.finite (3 / 2)) "t1"] := by
  decide +kernel

end APIAdapter

end CrashWave.Game
