import Mathlib.Data.List.Nodup
import Mathlib.Tactic.TypeStar

/-! Attempts of which the first that takes effect decides, and histories that record an
effect for each key at most once; calls that are repeated while their error asks for it, and
transactions under such calls. Nothing here depends on what is attempted or called: an attempt
of a call is what the world decides about it.
-/

namespace Runs

variable {hits good : Nat → Prop}

/-- Among the attempts from `first` on, the first one that hits is good. -/
def FirstHit (hits good : Nat → Prop) (first count : Nat) : Prop :=
  ∀ attempt, first ≤ attempt → attempt < first + count → hits attempt
    → (∀ earlier, first ≤ earlier → earlier < attempt → ¬ hits earlier)
    → good attempt

/-- Where the first attempt misses, only the later ones count. -/
theorem firstHit_succ {first count : Nat} (misses : ¬ hits first)
    : FirstHit hits good first (count + 1) ↔ FirstHit hits good (first + 1) count := by
  constructor
  · intro decided attempt after within hit none
    refine decided attempt (by omega) (by omega) hit ?_
    intro earlier from' before
    rcases Nat.eq_or_lt_of_le from' with rfl | later
    · exact misses
    · exact none earlier later before
  · intro decided attempt after within hit none
    rcases Nat.eq_or_lt_of_le after with rfl | later
    · exact absurd hit misses
    · refine decided attempt later (by omega) hit ?_
      exact fun earlier from' before => none earlier (by omega) before

/-- Where the first attempt hits, it has to be good. -/
theorem firstHit_of_hits {first count : Nat} (hit : hits first)
    : FirstHit hits good first (count + 1) ↔ good first := by
  constructor
  · intro decided
    exact decided first (Nat.le_refl _) (by omega) hit fun earlier from' before =>
      absurd before (by omega)
  · intro isGood attempt after within again none
    rcases Nat.eq_or_lt_of_le after with rfl | later
    · exact isGood
    · exact absurd hit (none first (Nat.le_refl _) later)

/-- A history without repetition stays so when a new key is added at most once. -/
theorem nodup_append_replicate {κ : Type*} {history : List κ} {key : κ} {times : Nat}
    (distinct : history.Nodup) (fresh : key ∉ history) (once : times ≤ 1)
    : (history ++ List.replicate times key).Nodup := by
  rw [List.nodup_append]
  refine ⟨distinct, List.nodup_replicate.mpr once, ?_⟩
  intro old member new added same
  rw [(List.mem_replicate.mp added).2] at same
  exact fresh (same ▸ member)

-----------------------------------------------------------------------------------------
-- Retries
-----------------------------------------------------------------------------------------

variable {σ κ ε α : Type*} {retryable : ε → Bool} {call : σ → κ → σ × Except ε α}

/-- `withRetry`: the first call and at most `retries` more, each after a retryable error. -/
def withRetry (retryable : ε → Bool) (call : σ → κ → σ × Except ε α)
    : (retries : Nat) → (attempts : Nat → κ) → (state : σ) → σ × Except ε α
  | 0, attempts, state => call state (attempts 0)
  | retries + 1, attempts, state =>
      match call state (attempts 0) with
      | (next, .ok answer) => (next, .ok answer)
      | (next, .error error) =>
          if retryable error then
            withRetry retryable call retries (fun attempt => attempts (attempt + 1)) next
          else (next, .error error)

/-- Where a retryable attempt leaves the state alone, a call with its retries is one of its
attempts, by induction on the retries.
-/
theorem withRetry_eq_attempt
    (clean : ∀ state attempt error, (call state attempt).2 = .error error
      → retryable error = true → (call state attempt).1 = state)
    (retries : Nat) (attempts : Nat → κ) (state : σ)
    : ∃ attempt, withRetry retryable call retries attempts state
      = call state (attempts attempt) := by
  induction retries generalizing attempts with
  | zero => exact ⟨0, rfl⟩
  | succ retries ih =>
      rw [withRetry]
      split
      · next next answer ended => exact ⟨0, ended.symm⟩
      · next next error ended =>
          split
          · next again =>
              obtain rfl : next = state := by
                simpa [ended] using clean state (attempts 0) error (by rw [ended]) again
              obtain ⟨attempt, last⟩ := ih fun attempt => attempts (attempt + 1)
              exact ⟨attempt + 1, last⟩
          · exact ⟨0, ended.symm⟩

/-- How an attempt at a transaction ends: a failure on serialization, another failure, the
commit, or a commit whose answer is lost.
-/
inductive TransactionEnd where
  | serializationFailure
  | fails
  | commits
  | answerLost
  deriving DecidableEq

/-- An error of a transaction: that of serialization, that of a failed or lost call, or what
its body throws.
-/
inductive TransactionError (ε : Type*) where
  | serialization
  | database
  | thrown (error : ε)
  deriving DecidableEq

/-- Only an error of serialization is tried again. -/
def TransactionError.isSerialization : TransactionError ε → Bool
  | .serialization => true
  | _ => false

/-- A transaction: its body either commits as a whole or is rolled back. -/
def transact (body : σ → σ × Except ε α) (state : σ)
    : TransactionEnd → σ × Except (TransactionError ε) α
  | .serializationFailure => (state, .error .serialization)
  | .fails => (state, .error .database)
  | .commits =>
      match body state with
      | (next, .ok answer) => (next, .ok answer)
      | (_, .error error) => (state, .error (.thrown error))
  | .answerLost =>
      match body state with
      | (next, .ok _) => (next, .error .database)
      | (_, .error error) => (state, .error (.thrown error))

/-- What a body leaves: its writes, unless it throws. -/
def bodyState (body : σ → σ × Except ε α) (state : σ) : σ :=
  match body state with
  | (next, .ok _) => next
  | (_, .error _) => state

/-- A transaction with its retries takes effect. -/
def lands : (retries : Nat) → (attempts : Nat → TransactionEnd) → Bool
  | 0, attempts => attempts 0 = .commits ∨ attempts 0 = .answerLost
  | retries + 1, attempts =>
      if attempts 0 = .serializationFailure then lands retries fun attempt => attempts (attempt + 1)
      else attempts 0 = .commits ∨ attempts 0 = .answerLost

/-- One attempt leaves what its body leaves, or nothing. -/
theorem transact_fst (body : σ → σ × Except ε α) (state : σ) (ended : TransactionEnd)
    : (transact body state ended).1
      = if ended = .commits ∨ ended = .answerLost then bodyState body state else state := by
  cases ended with
  | serializationFailure | fails => rfl
  | commits | answerLost =>
      simp only [transact, bodyState, reduceCtorEq, or_false, false_or, if_true]
      split <;> rfl

/-- A transaction with its retries leaves what its body leaves if it takes effect, and nothing
otherwise, by induction on the retries.
-/
theorem withRetry_transact_fst (body : σ → σ × Except ε α) (retries : Nat)
    (attempts : Nat → TransactionEnd) (state : σ)
    : (withRetry TransactionError.isSerialization (transact body) retries attempts state).1
      = if lands retries attempts then bodyState body state else state := by
  induction retries generalizing attempts with
  | zero => simpa [withRetry, lands] using transact_fst body state (attempts 0)
  | succ retries ih =>
      rw [withRetry, lands]
      cases ended : attempts 0 with
      | serializationFailure =>
          simpa [transact, TransactionError.isSerialization] using
            ih fun attempt => attempts (attempt + 1)
      | fails => simp [transact, TransactionError.isSerialization]
      | commits | answerLost =>
          cases ran : body state with
          | mk next result =>
              cases result <;>
                simp [transact, bodyState, ran, TransactionError.isSerialization]

/-- A transaction whose attempts commit is made once, and answers what its body does. -/
theorem withRetry_transact_commits (body : σ → σ × Except ε α) (retries : Nat) (state : σ)
    : withRetry TransactionError.isSerialization (transact body) retries
        (fun _ => .commits) state
      = (bodyState body state, (body state).2.mapError .thrown) := by
  cases ran : body state with
  | mk next result =>
      cases retries <;> cases result <;>
        simp only [withRetry, transact, bodyState, ran, TransactionError.isSerialization] <;> rfl

end Runs
