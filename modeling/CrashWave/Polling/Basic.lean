import Mathlib.Order.Basic
import Mathlib.Order.Nat

/-! Polling loops: one observation after the other is looked at until one of them decides, or the
loop no longer waits. Nothing here depends on what is observed and decided.
-/

namespace Polling

variable {ο ρ ν : Type*}

/-- What a loop makes of an observation: whether it still waits, and what it then decides. -/
structure Loop (ο ρ : Type*) where
  waits : ο → Bool
  decides : ο → Option ρ
  timedOut : ρ

namespace Loop

variable {loop : Loop ο ρ} {observations : Nat → ο} {result : ρ}

/-- The result of the loop from an observation on, if it returns within the given number of
them.
-/
def run (loop : Loop ο ρ) (observations : Nat → ο) : (fuel index : Nat) → Option ρ
  | 0, _ => none
  | fuel + 1, index =>
      if loop.waits (observations index) then
        match loop.decides (observations index) with
        | some result => some result
        | none => loop.run observations fuel (index + 1)
      else some loop.timedOut

/-- The loop looks past an observation. -/
def Passes (loop : Loop ο ρ) (observation : ο) : Prop :=
  loop.waits observation = true ∧ loop.decides observation = none

/-- The loop returns at an observation. -/
def EndsWith (loop : Loop ο ρ) (observation : ο) (result : ρ) : Prop :=
  (loop.waits observation = false ∧ result = loop.timedOut)
  ∨ (loop.waits observation = true ∧ loop.decides observation = some result)

/-- Every observation is passed or ends the loop. -/
theorem passes_or_ends (loop : Loop ο ρ) (observation : ο)
    : loop.Passes observation ∨ ∃ result, loop.EndsWith observation result := by
  cases waiting : loop.waits observation with
  | false => exact .inr ⟨loop.timedOut, .inl ⟨waiting, rfl⟩⟩
  | true =>
      cases decided : loop.decides observation with
      | none => exact .inl ⟨waiting, decided⟩
      | some result => exact .inr ⟨result, .inr ⟨waiting, decided⟩⟩

theorem run_of_passes {fuel index : Nat} (passes : loop.Passes (observations index))
    : loop.run observations (fuel + 1) index = loop.run observations fuel (index + 1) := by
  obtain ⟨waiting, undecided⟩ := passes
  simp [run, waiting, undecided]

theorem run_of_endsWith {fuel index : Nat} (ends : loop.EndsWith (observations index) result)
    : loop.run observations (fuel + 1) index = some result := by
  rcases ends with ⟨late, rfl⟩ | ⟨waiting, decided⟩
  · simp [run, late]
  · simp [run, waiting, decided]

/-- A loop that returns does so at an observation after those that it passes, by induction on
the fuel.
-/
theorem ends_of_run {fuel index : Nat} (returned : loop.run observations fuel index = some result)
    : ∃ last, index ≤ last ∧ last < index + fuel
        ∧ (∀ earlier, index ≤ earlier → earlier < last → loop.Passes (observations earlier))
        ∧ loop.EndsWith (observations last) result := by
  induction fuel generalizing index with
  | zero => cases returned
  | succ fuel ih =>
      rcases loop.passes_or_ends (observations index) with passes | ⟨answer, ends⟩
      · rw [run_of_passes passes] at returned
        obtain ⟨last, after, within, passed, ends⟩ := ih returned
        refine ⟨last, by omega, by omega, ?_, ends⟩
        intro earlier since before
        rcases Nat.eq_or_lt_of_le since with rfl | later
        · exact passes
        · exact passed earlier later before
      · rw [run_of_endsWith ends] at returned
        obtain rfl : answer = result := Option.some_inj.mp returned
        refine ⟨index, le_rfl, by omega, ?_, ends⟩
        intro earlier since before
        omega

/-- A loop that no longer waits at some observation returns, by induction on the distance to
it.
-/
theorem returns_of_over {last : Nat} (late : loop.waits (observations last) = false)
    (index : Nat) (before : index ≤ last)
    : ∃ result, loop.run observations (last - index + 1) index = some result := by
  obtain ⟨distance, rfl⟩ := Nat.exists_eq_add_of_le before
  rw [Nat.add_sub_cancel_left]
  clear before
  induction distance generalizing index with
  | zero => exact ⟨loop.timedOut, run_of_endsWith (.inl ⟨late, rfl⟩)⟩
  | succ distance ih =>
      rcases loop.passes_or_ends (observations index) with passes | ⟨answer, ends⟩
      · rw [run_of_passes passes]
        refine ih (index + 1) ?_
        rwa [Nat.add_assoc, Nat.add_comm 1]
      · exact ⟨answer, run_of_endsWith ends⟩

/-- A loop reads no more of the observations than a view of them. -/
structure SeesOnly (loop : Loop ο ρ) (view : ο → ν) : Prop where
  waits : ∀ one other, view one = view other → loop.waits one = loop.waits other
  decides : ∀ one other, view one = view other → loop.decides one = loop.decides other

/-- Two runs over observations of the same view return the same, or both do not return, by
induction on the fuel.
-/
theorem SeesOnly.run_eq {view : ο → ν} (sees : loop.SeesOnly view)
    {observations others : Nat → ο}
    (same : ∀ index, view (observations index) = view (others index)) (fuel index : Nat)
    : loop.run observations fuel index = loop.run others fuel index := by
  induction fuel generalizing index with
  | zero => rfl
  | succ fuel ih =>
      rw [run, run, sees.waits _ _ (same index), sees.decides _ _ (same index),
        ih (index + 1)]

end Loop
end Polling
