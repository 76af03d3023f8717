import CrashWave.JavaScript.Number
import Mathlib.Tactic.TypeStar

/-! Game and betting types shared by the state machine, the bridges and the executors. -/

namespace CrashWave

/-- The phase of the observed round. -/
inductive RoundPhase where
  | idle
  | starting
  | running
  | crashed
  | unknown
  deriving DecidableEq

/-- `RoundPhase` as the source spells it. -/
def RoundPhase.text : RoundPhase → String
  | .idle => "idle"
  | .starting => "starting"
  | .running => "running"
  | .crashed => "crashed"
  | .unknown => "unknown"

/-- How far an observation can be trusted. -/
inductive ObservationConfidence where
  | high
  | medium
  | low
  deriving DecidableEq

/-- `ObservationConfidence` as the source spells it. -/
def ObservationConfidence.text : ObservationConfidence → String
  | .high => "high"
  | .medium => "medium"
  | .low => "low"

/-- The rank used when two confidences are compared. -/
def ObservationConfidence.level : ObservationConfidence → Nat
  | .low => 1
  | .medium => 2
  | .high => 3

/-- The observed round. Timestamps and the source are kept as they are given. -/
structure RoundState where
  roundId : Option String
  phase : RoundPhase
  currentMultiplier : Option JavaScript.Number
  startedAt : Option String
  crashedAt : Option String
  crashPoint : Option JavaScript.Number
  lastTickAt : Option String
  source : String
  confidence : ObservationConfidence
  deriving DecidableEq

/-- A round that is starting. -/
def RoundState.starting (roundId : String) (confidence : ObservationConfidence) : RoundState where
  roundId := some roundId
  phase := .starting
  currentMultiplier := some 1
  startedAt := none
  crashedAt := none
  crashPoint := none
  lastTickAt := none
  source := "dom"
  confidence

/-- The system mode. -/
inductive SystemMode where
  | observeOnly
  | dryRun
  | live
  | maintenance
  deriving DecidableEq

/-- `SystemMode` as the source spells it. -/
def SystemMode.text : SystemMode → String
  | .observeOnly => "observe-only"
  | .dryRun => "dry-run"
  | .live => "live"
  | .maintenance => "maintenance"

/-- The persisted life of one bet. -/
inductive BetState where
  | pending
  | reserved
  | placed
  | confirmed
  | active
  | cashOutRequested
  | cashedOut
  | lost
  | failed
  | unknown
  | reconciled
  deriving DecidableEq

/-- What an idempotency record remembers of a placement. -/
structure BetPlacementResult where
  success : Bool
  betId : Option String := none
  error : Option String := none
  deriving DecidableEq

end CrashWave
