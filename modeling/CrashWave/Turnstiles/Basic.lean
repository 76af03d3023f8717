import Mathlib.Algebra.Order.Field.Rat
import Mathlib.Data.Rat.Floor
import CrashWave.Runs.Basic

/-! Turnstiles: who asks is let in while there is a place, and queues otherwise; who leaves lets in
the first of the queue, or leaves a place. Nothing here depends on how the places are counted.
-/

namespace Turnstiles

open Runs

variable {σ ι : Type*}

/-- How places are counted: when there is one, and what entering and leaving does to the counter. -/
structure Counter (σ : Type*) where
  isFree : σ → Bool
  take : σ → σ
  give : σ → σ

/-- A turnstile with those who wait for it, the one who asked first at the head. -/
structure Turnstile (σ ι : Type*) where
  counter : σ
  queue : List ι := []
  deriving DecidableEq

namespace Turnstile

/-- Someone asks; the answer says who is let in now. -/
def acquire (rule : Counter σ) (turnstile : Turnstile σ ι) (who : ι)
    : Turnstile σ ι × Option ι :=
  if rule.isFree turnstile.counter then
    ({ turnstile with counter := rule.take turnstile.counter }, some who)
  else ({ turnstile with queue := turnstile.queue ++ [who] }, none)

/-- Someone leaves; the answer says who is let in for that. -/
def release (rule : Counter σ) (turnstile : Turnstile σ ι) : Turnstile σ ι × Option ι :=
  match turnstile.queue with
  | next :: rest => ({ turnstile with queue := rest }, some next)
  | [] => ({ turnstile with counter := rule.give turnstile.counter }, none)

end Turnstile

/-- A call at a turnstile, with who makes it. -/
inductive Call (ι : Type*) where
  | acquire (who : ι)
  | release (who : ι)

/-- A turnstile with those who have asked and those who were let in, in this order, and those who
are in and have not left.
-/
structure Visits (σ ι : Type*) where
  turnstile : Turnstile σ ι
  requested : List ι := []
  granted : List ι := []
  holders : List ι := []

namespace Visits

variable [DecidableEq ι]

def next (rule : Counter σ) (visits : Visits σ ι) : Call ι → Visits σ ι
  | .acquire who =>
      let (turnstile, entered) := visits.turnstile.acquire rule who
      {
        turnstile
        requested := visits.requested ++ [who]
        granted := visits.granted ++ entered.toList
        holders := visits.holders ++ entered.toList
      }
  | .release who =>
      let (turnstile, entered) := visits.turnstile.release rule
      { visits with
        turnstile
        granted := visits.granted ++ entered.toList
        holders := visits.holders.erase who ++ entered.toList }

/-- Only who is in leaves. -/
def LeavesOwn (visits : Visits σ ι) : Call ι → Prop
  | .acquire _ => True
  | .release who => who ∈ visits.holders

instance (visits : Visits σ ι) (call : Call ι) : Decidable (visits.LeavesOwn call) :=
  match call with
  | .acquire _ => .isTrue trivial
  | .release who => inferInstanceAs (Decidable (who ∈ visits.holders))

-----------------------------------------------------------------------------------------
-- Who waits
-----------------------------------------------------------------------------------------

/-- All are let in in the order in which they ask, and nobody waits while there is a place. -/
structure Fair (rule : Counter σ) (visits : Visits σ ι) : Prop where
  ordered : visits.requested = visits.granted ++ visits.turnstile.queue
  awake : rule.isFree visits.turnstile.counter = true → visits.turnstile.queue = []

variable {rule : Counter σ} {visits : Visits σ ι}

omit [DecidableEq ι] in
theorem fair_initial (rule : Counter σ) (counter : σ)
    : Fair rule ({ turnstile := { counter } } : Visits σ ι) where
  ordered := rfl
  awake _ := rfl

/-- Every call keeps that, whoever makes it. -/
theorem Fair.next (fair : Fair rule visits) (call : Call ι)
    : Fair rule (visits.next rule call) := by
  cases call with
  | acquire who =>
      by_cases free : rule.isFree visits.turnstile.counter = true
      · have empty := fair.awake free
        have ordered := fair.ordered
        rw [empty, List.append_nil] at ordered
        refine ⟨?_, fun _ => ?_⟩
        · simp [Visits.next, Turnstile.acquire, free, empty, ordered]
        · simpa [Visits.next, Turnstile.acquire, free] using empty
      · refine ⟨?_, fun after => ?_⟩
        · simp [Visits.next, Turnstile.acquire, free, fair.ordered]
        · simp [Visits.next, Turnstile.acquire, free] at after
  | release who =>
      cases waiting : visits.turnstile.queue with
      | nil =>
          refine ⟨?_, fun _ => ?_⟩
          · simp [Visits.next, Turnstile.release, waiting, fair.ordered]
          · simp [Visits.next, Turnstile.release, waiting]
      | cons first rest =>
          refine ⟨?_, fun after => ?_⟩
          · simp [Visits.next, Turnstile.release, waiting, fair.ordered]
          · have free : rule.isFree visits.turnstile.counter = true := by
              simpa [Visits.next, Turnstile.release, waiting] using after
            rw [fair.awake free] at waiting
            cases waiting

-----------------------------------------------------------------------------------------
-- Who is in
-----------------------------------------------------------------------------------------

/-- The counter says how many places are left of a number of them. -/
structure Measures (rule : Counter σ) (left : σ → ℚ) (places : ℚ) : Prop where
  isFree : ∀ counter, rule.isFree counter = true ↔ 0 < left counter
  take : ∀ counter, rule.isFree counter = true → left (rule.take counter) = left counter - 1
  give : ∀ counter, left counter < places → left (rule.give counter) = left counter + 1

/-- As many places are taken as there are those who are in. -/
structure Counted (left : σ → ℚ) (places : ℚ) (visits : Visits σ ι) : Prop where
  total : left visits.turnstile.counter + visits.holders.length = places
  within : visits.holders = [] ∨ -1 < left visits.turnstile.counter

variable {left : σ → ℚ} {places : ℚ}

omit [DecidableEq ι] in
theorem counted_initial {counter : σ} (all : left counter = places)
    : Counted left places ({ turnstile := { counter } } : Visits σ ι) where
  total := by simp [all]
  within := .inl rfl

theorem Counted.acquire (counted : Counted left places visits)
    (measures : Measures rule left places) (who : ι)
    : Counted left places (visits.next rule (.acquire who)) := by
  by_cases free : rule.isFree visits.turnstile.counter = true
  · have taken := measures.take _ free
    have some := (measures.isFree _).mp free
    constructor
    · simp only [Visits.next, Turnstile.acquire, free, if_true, taken, Option.toList_some,
        List.length_append, List.length_singleton]
      push_cast
      linarith [counted.total]
    · right
      simp only [Visits.next, Turnstile.acquire, free, if_true, taken]
      linarith
  · constructor
    · simpa [Visits.next, Turnstile.acquire, free] using counted.total
    · simpa [Visits.next, Turnstile.acquire, free] using counted.within

/-- Whoever leaves takes the place of the next one, or leaves a place. -/
theorem Counted.release (counted : Counted left places visits)
    (measures : Measures rule left places) {who : ι} (inside : who ∈ visits.holders)
    : Counted left places (visits.next rule (.release who)) := by
  have one : 0 < visits.holders.length := List.length_pos_of_mem inside
  have above : -1 < left visits.turnstile.counter :=
    counted.within.resolve_left (List.ne_nil_of_mem inside)
  have fewer : (visits.holders.erase who).length + 1 = visits.holders.length := by
    rw [List.length_erase_of_mem inside]
    omega
  have total := counted.total
  rw [← fewer] at total
  push_cast at total
  cases waiting : visits.turnstile.queue with
  | nil =>
      have taken : left visits.turnstile.counter < places := by
        have rest : (0 : ℚ) ≤ (visits.holders.erase who).length := Nat.cast_nonneg _
        linarith
      have given := measures.give _ taken
      constructor
      · simp only [Visits.next, Turnstile.release, waiting, given, Option.toList_none,
          List.append_nil]
        linarith
      · right
        simp only [Visits.next, Turnstile.release, waiting, given]
        linarith
  | cons first rest =>
      constructor
      · simp only [Visits.next, Turnstile.release, waiting, Option.toList_some,
          List.length_append, List.length_singleton]
        push_cast
        linarith
      · exact .inr (by simpa [Visits.next, Turnstile.release, waiting] using above)

/-- A call keeps the count, where only those leave who are in. -/
theorem Counted.next (counted : Counted left places visits)
    (measures : Measures rule left places) {call : Call ι} (own : visits.LeavesOwn call)
    : Counted left places (visits.next rule call) := by
  cases call with
  | acquire who => exact counted.acquire measures who
  | release who => exact counted.release measures own

omit [DecidableEq ι] in
/-- So no more are in than there are places. -/
theorem Counted.holders_le (counted : Counted left places visits)
    : visits.holders.length ≤ ⌈places⌉₊ := by
  rcases counted.within with nobody | above
  · simp [nobody]
  · have below : (visits.holders.length : ℚ) < places + 1 := by linarith [counted.total]
    have enough : places ≤ ⌈places⌉₊ := Nat.le_ceil places
    have counts : (visits.holders.length : ℚ) < (⌈places⌉₊ + 1 : Nat) := by
      push_cast
      linarith
    exact Nat.lt_succ_iff.mp (Nat.cast_lt.mp counts)

end Visits

end Turnstiles
