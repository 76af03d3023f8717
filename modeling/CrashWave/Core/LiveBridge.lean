import CrashWave.Betting.ExecutionModeGate
import CrashWave.JavaScript.Value
import CrashWave.Prediction.EntryDecision

/-! The live bridge, as the segments of its handlers: the checks before a decision is
awaited, the bet that an approved decision asks for, and the cash-out at the crash.
-/

namespace CrashWave.Core

open CrashWave.Betting CrashWave.Prediction JavaScript

/-- `String(config.system?.mode ?? default).toLowerCase()`, where a value that is no text
stands for no mode.
-/
def bridgeMode (config : Value) (default : String) : String :=
  match config.getPath ["system", "mode"] with
  | none | some .null => default
  | some (.string mode) => toLowerCase mode
  | some _ => ""

/-- `Number(config.section?.name ?? default)`, where an object is not a number. -/
def configNumber (config : Value) (path : List String) (default : Number) : Number :=
  match config.getPath path with
  | none | some .null => default
  | some (.number value) => value
  | some (.string text) => toNumber text
  | some (.boolean value) => if value then 1 else 0
  | some _ => .nan

/-- What the bridge knows of its surroundings when a round starts. -/
structure LiveBridgeDeps where
  env : ExecutionEnv
  config : Value
  isAuthenticated : Bool
  isObserving : Bool
  liveBetExecutor : Bool
  liveCashOutExecutor : Bool

/-- A live entry whose decision is awaited. -/
structure LiveEntry where
  roundId : String
  stake : Number
  deriving DecidableEq

/-- The request handed to `placeLiveBet`. -/
structure LiveBetRequest where
  roundId : String
  stake : Number
  target : Number
  deriving DecidableEq

/-- The checks of `onRoundStartedForLive` before the decision. -/
def LiveBridgeDeps.entryOpen (deps : LiveBridgeDeps) : Bool :=
  let mode := bridgeMode deps.config ""
  mode = "live" && isRealExecutionAllowed deps.env false (some mode)
  && deps.isAuthenticated && deps.isObserving && deps.liveBetExecutor

/-- `onRoundStartedForLive` up to the decision. -/
def onRoundStartedForLive (deps : LiveBridgeDeps) (roundId : String) : Option LiveEntry :=
  if deps.entryOpen then
    some
      { roundId
        stake := configNumber deps.config ["betting", "stakePerEntry"] 700 }
  else none

/-- `onRoundStartedForLive` after the decision: the bet it places. -/
def LiveEntry.decided (entry : LiveEntry) (decision : EntryDecisionResult)
    : Option LiveBetRequest :=
  match decision.signal with
  | none => none
  | some signal =>
      if decision.riskResult.approved then
        some { roundId := entry.roundId, stake := entry.stake, target := signal.target }
      else none

/-- The payload of a crash. -/
structure CrashPayload where
  roundId : Option String
  crashPoint : Option Number
  deriving DecidableEq

/-- The round and the crash point of a payload that the bridges accept. -/
def CrashPayload.valid (payload : CrashPayload) : Option (String × Number) :=
  let rid := payload.roundId.getD ""
  let cp := payload.crashPoint.getD 0
  if rid = "" ∨ cp.isFinite = false ∨ cp ≤ 0 then none else some (rid, cp)

/-- `onRoundCrashedForLive`: the open bets it leaves, and the round it requests a cash-out
for.
-/
def onRoundCrashedForLive (deps : LiveBridgeDeps) (openLiveBets : List String)
    (payload : CrashPayload) : List String × Option String :=
  if bridgeMode deps.config "" ≠ "live" then (openLiveBets, none)
  else
    match payload.valid with
    | none => (openLiveBets, none)
    | some (rid, _) =>
        if rid ∈ openLiveBets ∧ deps.liveCashOutExecutor then
          (openLiveBets.filter (· ≠ rid), some rid)
        else (openLiveBets, none)

end CrashWave.Core
