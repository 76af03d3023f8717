import CrashWave.JavaScript.Map
import CrashWave.Types

/-! The in-memory idempotency store. Instants are epoch milliseconds; `now` stands for
`Date.now()`.
-/

namespace CrashWave.Betting

open JavaScript

/-- The status of a reserved key. -/
inductive IdempotencyStatus where
  | pending
  | completed
  | failed
  | unknown
  deriving DecidableEq

/-- One reserved key. -/
structure IdempotencyRecord where
  key : String
  status : IdempotencyStatus
  betId : Option String
  roundId : String
  sessionId : String
  createdAt : Int
  expiresAt : Int
  result : Option BetPlacementResult := none
  deriving DecidableEq

/-- The key of a session and a round. -/
def generateKey (sessionId roundId : String) : String := sessionId ++ ":" ++ roundId

/-- `InMemoryIdempotencyStore`: its map of records. -/
abbrev InMemoryIdempotencyStore := Map String IdempotencyRecord

namespace InMemoryIdempotencyStore

/-- Reserves a key unless there is a record for it; records expire after five minutes. -/
def reserve (store : InMemoryIdempotencyStore) (now : Int)
    (sessionId roundId betId : String) : Bool × InMemoryIdempotencyStore :=
  let key := generateKey sessionId roundId
  if store.has key then
    (false, store)
  else
    (true, store.set key
      { key
        status := .pending
        betId := some betId
        roundId
        sessionId
        createdAt := now
        expiresAt := now + 300000 })

/-- Writes the outcome into the record of a key, if it is still there. -/
def settle (store : InMemoryIdempotencyStore) (sessionId roundId : String)
    (status : IdempotencyStatus) (result : BetPlacementResult)
    : InMemoryIdempotencyStore :=
  store.modify (generateKey sessionId roundId) fun record =>
    { record with status, result := some result }

/-- Marks a key as completed. -/
def complete (store : InMemoryIdempotencyStore) (sessionId roundId : String)
    (result : BetPlacementResult) : InMemoryIdempotencyStore :=
  settle store sessionId roundId .completed result

/-- Marks a key as failed. -/
def fail (store : InMemoryIdempotencyStore) (sessionId roundId reason : String)
    : InMemoryIdempotencyStore :=
  settle store sessionId roundId .failed { success := false, error := some reason }

/-- Marks a key as unknown. -/
def markUnknown (store : InMemoryIdempotencyStore) (sessionId roundId reason : String)
    : InMemoryIdempotencyStore :=
  settle store sessionId roundId .unknown { success := false, error := some reason }

/-- The record of a session and a round. -/
def getRecord (store : InMemoryIdempotencyStore) (sessionId roundId : String)
    : Option IdempotencyRecord :=
  store.get (generateKey sessionId roundId)

/-- Deletes a key. -/
def release (store : InMemoryIdempotencyStore) (sessionId roundId : String)
    : InMemoryIdempotencyStore :=
  store.delete (generateKey sessionId roundId)

/-- The sweep of the cleanup timer: expired records are removed. -/
def cleanup (store : InMemoryIdempotencyStore) (now : Int) : InMemoryIdempotencyStore :=
  store.filter fun _ record => !decide (record.expiresAt < now)

end InMemoryIdempotencyStore

end CrashWave.Betting
