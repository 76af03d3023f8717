import CrashWave.JavaScript.Number
import CrashWave.Types

/-! The observed round, what the sources show of it, and the events that are made of that. -/

namespace CrashWave.Game

open JavaScript

/-- What a source shows of the game. The WebSocket source calls itself `ws`, which is none of
the names of a source. A frame that leaves its multiplier out has an undefined one, which is not
null and computes like NaN: it is taken for NaN.
-/
structure SourceSnapshot where
  source : String
  roundId : Option String
  multiplier : Option Number
  phase : Option RoundPhase
  crashPoint : Option Number
  timestamp : String
  latencyMs : Number
  deriving DecidableEq

/-- The type of a `NormalizedGameEvent`. -/
inductive GameEventType where
  | roundStarted
  | multiplierTick
  | roundCrashed
  | roundEnded
  | gameStateChange
  | balanceUpdate
  | error
  deriving DecidableEq

/-- `NormalizedGameEvent`. -/
structure NormalizedGameEvent where
  type : GameEventType
  roundId : Option String
  multiplier : Option Number
  crashPoint : Option Number
  phase : Option RoundPhase
  source : String
  confidence : ObservationConfidence
  timestamp : String
  latencyMs : Number
  deriving DecidableEq

/-- A number that counts as true: neither missing nor zero nor NaN. -/
def truthyNumber (value : Option Number) : Option Number :=
  value.filter fun value => value ≠ 0 ∧ value ≠ .nan

/-- A text that counts as true: neither missing nor empty. -/
def truthyText (value : Option String) : Option String :=
  value.filter (· ≠ "")

end CrashWave.Game
