import CrashWave.JavaScript.Text
import CrashWave.Polling.Basic

/-! The observer that waits for the confirmation of a bet and of a cash-out. What a wait meets is
a sequence of polls: the clock at the loop, the answers of the authoritative readers, and what
the page shows.
-/

namespace CrashWave.Betting

open JavaScript Polling

/-- An intercepted WebSocket message. -/
structure WsMessageEntry where
  timestamp : Number
  data : String
  deriving DecidableEq

/-- `AuthoritativeBetConfirmation`; its external reference is only logged. -/
structure AuthoritativeBetConfirmation where
  confirmed : Bool
  multiplier : Option Number := none
  deriving DecidableEq

/-- How the promise of a reader ends. -/
inductive ReaderAnswer where
  | rejected
  | answered (confirmation : Option AuthoritativeBetConfirmation)
  deriving DecidableEq

/-- The answer after `catch`. -/
def ReaderAnswer.value : ReaderAnswer → Option AuthoritativeBetConfirmation
  | .rejected => none
  | .answered confirmation => confirmation

/-- What the page shows: the elements of the two selectors, where an error counts as invisible,
and the intercepted messages, where there is an error or none were intercepted. `now` is the
clock that the age of the messages is taken by.
-/
structure PageSignals where
  betPlacedVisible : Bool := false
  cashOutVisible : Bool := false
  cashOutText : Option String := none
  messages : List WsMessageEntry := []
  now : Number := 0
  deriving DecidableEq

/-- One turn of a waiting loop. A reader that is not set is `none`. -/
structure Poll where
  now : Number
  betReader : Option ReaderAnswer := none
  cashOutReader : Option ReaderAnswer := none
  page : PageSignals := {}
  deriving DecidableEq

-----------------------------------------------------------------------------------------
-- Patterns of the messages
-----------------------------------------------------------------------------------------

/-- The longest prefix that `[0-9]*\.?[0-9]*` matches. -/
def decimalPrefix (chars : List Char) : List Char :=
  let whole := chars.takeWhile Char.isDigit
  match chars.dropWhile Char.isDigit with
  | '.' :: fraction => whole ++ '.' :: fraction.takeWhile Char.isDigit
  | _ => whole

/-- `parseFloat` of the first match of `([0-9]+\.?[0-9]*)x?`. -/
def firstDecimal (text : String) : Option Number :=
  match text.toList.dropWhile fun c => !c.isDigit with
  | [] => none
  | chars => some (readDecimal (decimalPrefix chars))

/-- The match of `"name"[:\s]+([0-9]+\.?[0-9]*)` at the head of a text, for a name in lower
case and regardless of the case of the text.
-/
def fieldAtHead (chars : List Char) (name : String) : Option Number :=
  let quoted := '"' :: name.toList ++ ['"']
  if quoted.isPrefixOf (chars.map Char.toLower) then
    let rest := chars.drop quoted.length
    let digits := rest.dropWhile fun c => c = ':' || isSpace c
    match digits with
    | [] => none
    | c :: _ =>
        if digits.length < rest.length && c.isDigit then
          some (readDecimal (decimalPrefix digits))
        else none
  else none

/-- The number of the first field with one of the names. -/
def findField (names : List String) (text : String) : Option Number :=
  text.toList.tails.findSome? fun chars => names.findSome? (fieldAtHead chars)

/-- `id.slice(-8)` of a longer id. -/
def idSuffix (id : String) : List Char := id.toList.drop (id.toList.length - 8)

/-- `data.includes(id) || (suffix.length >= 6 && data.includes(suffix))`. -/
def correlates (data id : String) : Bool :=
  decide (id.toList <:+: data.toList)
  || (decide (6 ≤ (idSuffix id).length) && decide (idSuffix id <:+: data.toList))

/-- The default of `betPlacedWsPattern`. -/
def betPlacedPattern (data : String) : Bool :=
  testIgnoreCase "\"type\":\"bet_placed\"" data || testIgnoreCase "\"event\":\"bet\"" data
  || testIgnoreCase "\"betid\"" data

/-- The default of `cashOutWsPattern`. -/
def cashOutPattern (data : String) : Bool :=
  testIgnoreCase "\"type\":\"cashout\"" data || testIgnoreCase "\"event\":\"cashout\"" data
  || testIgnoreCase "\"cashout\"" data

-----------------------------------------------------------------------------------------
-- The observer
-----------------------------------------------------------------------------------------

/-- The configuration of the observer. Its selectors and its poll interval decide what the page
shows and when the polls are, which are inputs.
-/
structure ConfirmationObserver where
  betPlacedWsPattern : String → Bool := betPlacedPattern
  cashOutWsPattern : String → Bool := cashOutPattern
  defaultTimeoutMs : Number := 5000
  requireAuthoritativeConfirmation : Bool := true

namespace ConfirmationObserver

variable (observer : ConfirmationObserver)

/-- The messages of the last half minute. -/
def recentMessages (page : PageSignals) : List WsMessageEntry :=
  page.messages.filter fun message => page.now - 30000 < message.timestamp

/-- `checkWebSocketForBetPlaced`. -/
def checkWebSocketForBetPlaced (page : PageSignals) (roundId : String) : Bool :=
  (recentMessages page).any fun message =>
    observer.betPlacedWsPattern message.data && correlates message.data roundId

/-- A number that is positive. -/
def positive (multiplier : Option Number) : Option Number :=
  multiplier.filter fun value => 0 < value

/-- What a message says of a cash-out: a multiplier, or else an exit field. -/
def multiplierOf (message : WsMessageEntry) : Option Number :=
  (positive (findField ["multiplier"] message.data)).or
    (positive
      (findField ["exitmultiplier", "cashoutmultiplier", "payoutmultiplier"] message.data))

/-- `checkWebSocketForCashOut`. -/
def checkWebSocketForCashOut (page : PageSignals) (betId roundId : String) : Option Number :=
  (recentMessages page).findSome? fun message =>
    if observer.cashOutWsPattern message.data
        && (correlates message.data betId || correlates message.data roundId) then
      multiplierOf message
    else none

/-- `checkDomForCashOut`, down to the multiplier that a visible confirmation states. -/
def checkDomForCashOut (page : PageSignals) : Option Number :=
  if page.cashOutVisible then page.cashOutText.bind firstDecimal else none

/-- What one turn of `waitForBetPlaced` decides. -/
def decideBetPlaced (roundId : String) (poll : Poll) : Option Bool :=
  if observer.requireAuthoritativeConfirmation then
    match poll.betReader.bind ReaderAnswer.value with
    | some authoritative => if authoritative.confirmed then some true else none
    | none => none
  else if poll.page.betPlacedVisible then some true
  else if observer.checkWebSocketForBetPlaced poll.page roundId then some true
  else none

/-- What one turn of `waitForCashOut` decides. -/
def decideCashOut (betId roundId : String) (poll : Poll) : Option (Option Number) :=
  if observer.requireAuthoritativeConfirmation then
    match poll.cashOutReader.bind ReaderAnswer.value with
    | some authoritative =>
        if authoritative.confirmed then (positive authoritative.multiplier).map some else none
    | none => none
  else
    match positive (checkDomForCashOut poll.page) with
    | some multiplier => some (some multiplier)
    | none =>
        (positive (observer.checkWebSocketForCashOut poll.page betId roundId)).map some

/-- The loop of `waitForBetPlaced`. -/
def betPlacedLoop (roundId : String) (deadline : Number) : Loop Poll Bool where
  waits poll := poll.now < deadline
  decides := observer.decideBetPlaced roundId
  timedOut := false

/-- The loop of `waitForCashOut`. -/
def cashOutLoop (betId roundId : String) (deadline : Number) : Loop Poll (Option Number) where
  waits poll := poll.now < deadline
  decides := observer.decideCashOut betId roundId
  timedOut := none

/-- When a wait that starts at a time gives up. -/
def deadline (startedAt : Number) (timeoutMs : Option Number) : Number :=
  startedAt + timeoutMs.getD observer.defaultTimeoutMs

/-- `waitForBetPlaced`, if it returns within the given number of polls. -/
def waitForBetPlaced (roundId : String) (startedAt : Number) (timeoutMs : Option Number)
    (polls : Nat → Poll) (fuel : Nat) : Option Bool :=
  (observer.betPlacedLoop roundId (observer.deadline startedAt timeoutMs)).run polls fuel 0

/-- `waitForCashOut`, if it returns within the given number of polls. -/
def waitForCashOut (betId roundId : String) (startedAt : Number) (timeoutMs : Option Number)
    (polls : Nat → Poll) (fuel : Nat) : Option (Option Number) :=
  (observer.cashOutLoop betId roundId (observer.deadline startedAt timeoutMs)).run polls fuel 0

end ConfirmationObserver

-----------------------------------------------------------------------------------------
-- What the authoritative mode sees
-----------------------------------------------------------------------------------------

/-- A poll without what the page shows. -/
def Poll.authoritative (poll : Poll) : Number × Option ReaderAnswer × Option ReaderAnswer :=
  (poll.now, poll.betReader, poll.cashOutReader)

variable {observer : ConfirmationObserver} {polls : Nat → Poll} {fuel : Nat}

/-- In authoritative mode no turn of the wait for a bet reads the page. -/
theorem betPlacedLoop_seesOnly (hardened : observer.requireAuthoritativeConfirmation = true)
    (roundId : String) (deadline : Number)
    : (observer.betPlacedLoop roundId deadline).SeesOnly Poll.authoritative := by
  constructor
  · intro one other same
    obtain ⟨now, _, _⟩ := by simpa [Poll.authoritative] using same
    simp [ConfirmationObserver.betPlacedLoop, now]
  · intro one other same
    obtain ⟨_, reader, _⟩ := by simpa [Poll.authoritative] using same
    simp [ConfirmationObserver.betPlacedLoop, ConfirmationObserver.decideBetPlaced, hardened,
      reader]

/-- Nor does one of the wait for a cash-out. -/
theorem cashOutLoop_seesOnly (hardened : observer.requireAuthoritativeConfirmation = true)
    (betId roundId : String) (deadline : Number)
    : (observer.cashOutLoop betId roundId deadline).SeesOnly Poll.authoritative := by
  constructor
  · intro one other same
    obtain ⟨now, _, _⟩ := by simpa [Poll.authoritative] using same
    simp [ConfirmationObserver.cashOutLoop, now]
  · intro one other same
    obtain ⟨_, _, reader⟩ := by simpa [Poll.authoritative] using same
    simp [ConfirmationObserver.cashOutLoop, ConfirmationObserver.decideCashOut, hardened, reader]

/-- A reader answers with a confirmation only by stating it. -/
theorem reader_value_eq_some {reader : Option ReaderAnswer}
    {answer : AuthoritativeBetConfirmation}
    (read : reader.bind ReaderAnswer.value = some answer)
    : reader = some (.answered (some answer)) := by
  obtain ⟨given, rfl, value⟩ := Option.bind_eq_some_iff.mp read
  cases given with
  | rejected => cases value
  | answered confirmation =>
      obtain rfl : confirmation = some answer := value
      rfl

/-- The reader of the poll confirms the bet. -/
def Poll.ConfirmsBet (poll : Poll) : Prop :=
  ∃ answer, poll.betReader = some (.answered (some answer)) ∧ answer.confirmed = true

/-- The reader of the poll confirms the cash-out at a multiplier. -/
def Poll.ConfirmsCashOut (poll : Poll) (multiplier : Number) : Prop :=
  ∃ answer, poll.cashOutReader = some (.answered (some answer)) ∧ answer.confirmed = true
    ∧ answer.multiplier = some multiplier ∧ 0 < multiplier

/-- A bet that a turn confirms was confirmed by the reader of its poll. -/
theorem confirmsBet_of_decided (hardened : observer.requireAuthoritativeConfirmation = true)
    {roundId : String} {poll : Poll} (decided : observer.decideBetPlaced roundId poll = some true)
    : poll.ConfirmsBet := by
  simp only [ConfirmationObserver.decideBetPlaced, hardened, if_true] at decided
  split at decided
  · next answer read =>
      refine ⟨answer, reader_value_eq_some read, ?_⟩
      by_contra unconfirmed
      simp [unconfirmed] at decided
  · cases decided

/-- So was a multiplier that a turn returns. -/
theorem confirmsCashOut_of_decided (hardened : observer.requireAuthoritativeConfirmation = true)
    {betId roundId : String} {poll : Poll} {multiplier : Number}
    (decided : observer.decideCashOut betId roundId poll = some (some multiplier))
    : poll.ConfirmsCashOut multiplier := by
  simp only [ConfirmationObserver.decideCashOut, hardened, if_true] at decided
  split at decided
  · next answer read =>
      split at decided
      · next confirmed =>
          obtain ⟨value, stated, same⟩ := Option.map_eq_some_iff.mp decided
          obtain rfl : value = multiplier := Option.some_inj.mp same
          obtain ⟨given, above⟩ := Option.filter_eq_some_iff.mp stated
          exact ⟨answer, reader_value_eq_some read, confirmed, given, of_decide_eq_true above⟩
      · cases decided
  · cases decided

/-- In authoritative mode two waits that meet the same clock and the same answers of the readers
return the same, whatever the pages show, and what they confirm was confirmed by the reader at
a poll before the deadline.
-/
theorem confirmation_ignores_page (hardened : observer.requireAuthoritativeConfirmation = true)
    {polls others : Nat → Poll}
    (same : ∀ index, (polls index).authoritative = (others index).authoritative)
    (betId roundId : String) (startedAt : Number) (timeoutMs : Option Number) (fuel : Nat)
    : let deadline := observer.deadline startedAt timeoutMs
      let placed := observer.waitForBetPlaced roundId startedAt timeoutMs
      let cashedOut := observer.waitForCashOut betId roundId startedAt timeoutMs
      placed polls fuel = placed others fuel
      ∧ cashedOut polls fuel = cashedOut others fuel
      ∧ (placed polls fuel = some true →
        ∃ index, (polls index).now < deadline ∧ (polls index).ConfirmsBet)
      ∧ ∀ multiplier, cashedOut polls fuel = some (some multiplier) →
        ∃ index, (polls index).now < deadline ∧ (polls index).ConfirmsCashOut multiplier := by
  intro deadline placed cashedOut
  refine ⟨?_, ?_, ?_, ?_⟩
  · exact (betPlacedLoop_seesOnly hardened roundId deadline).run_eq same fuel 0
  · exact (cashOutLoop_seesOnly hardened betId roundId deadline).run_eq same fuel 0
  · intro returned
    obtain ⟨last, _, _, _, ends⟩ := Loop.ends_of_run returned
    rcases ends with ⟨_, timedOut⟩ | ⟨waiting, decided⟩
    · cases timedOut
    · exact ⟨last, of_decide_eq_true waiting, confirmsBet_of_decided hardened decided⟩
  · intro multiplier returned
    obtain ⟨last, _, _, _, ends⟩ := Loop.ends_of_run returned
    rcases ends with ⟨_, timedOut⟩ | ⟨waiting, decided⟩
    · cases timedOut
    · exact ⟨last, of_decide_eq_true waiting, confirmsCashOut_of_decided hardened decided⟩

/-- Both waits return once the clock has reached the deadline. -/
theorem waits_return (observer : ConfirmationObserver) (betId roundId : String)
    (startedAt : Number) (timeoutMs : Option Number) {polls : Nat → Poll} {last : Nat}
    (late : ¬ (polls last).now < observer.deadline startedAt timeoutMs)
    : (∃ result, observer.waitForBetPlaced roundId startedAt timeoutMs polls (last + 1)
        = some result)
      ∧ ∃ result, observer.waitForCashOut betId roundId startedAt timeoutMs polls (last + 1)
        = some result := by
  constructor
  · exact Loop.returns_of_over (decide_eq_false late) 0 (Nat.zero_le last)
  · exact Loop.returns_of_over (decide_eq_false late) 0 (Nat.zero_le last)

/-- Polls every second, of which the third one is confirmed by the readers, with a page. -/
def pollsWith (page : PageSignals) (index : Nat) : Poll where
  now := .finite (1000 * index : Nat)
  betReader :=
    if index < 2 then some .rejected
    else some (.answered (some { confirmed := true, multiplier := some 2 }))
  cashOutReader :=
    if index < 2 then some (.answered none)
    else some (.answered (some { confirmed := true, multiplier := some 2 }))
  page

/-- A page on which everything shows a cash-out at 9. -/
def eagerPage : PageSignals where
  betPlacedVisible := true
  cashOutVisible := true
  cashOutText := some "9.00x"
  messages := [{ timestamp := 0, data := "\x7b\"event\":\"cashout\",\"roundId\":\"r1\"\x7d" }]

/-- Such a page does not change a wait for a cash-out that is confirmed at 2. -/
theorem eager_page_ignored
    : ConfirmationObserver.waitForCashOut {} "b1" "r1" 0 none (pollsWith {}) 5 = some (some 2)
      ∧ ConfirmationObserver.waitForCashOut {} "b1" "r1" 0 none (pollsWith eagerPage) 5
        = some (some 2) := by
  have confirmed : ConfirmationObserver.waitForCashOut {} "b1" "r1" 0 none (pollsWith {}) 5
      = some (some 2) := by decide +kernel
  have hardened : ({} : ConfirmationObserver).requireAuthoritativeConfirmation = true := rfl
  have same (index : Nat)
      : (pollsWith {} index).authoritative = (pollsWith eagerPage index).authoritative := rfl
  have ignores := confirmation_ignores_page hardened same "b1" "r1" 0 none 5
  exact ⟨confirmed, ignores.2.1.symm.trans confirmed⟩

/-- Outside authoritative mode the page confirms. -/
example :
    ConfirmationObserver.waitForCashOut { requireAuthoritativeConfirmation := false } "b1" "r1" 0
      none (pollsWith eagerPage) 1 = some (some 9) := by
  decide +kernel

end CrashWave.Betting
