import Mathlib.Data.Option.Basic
import Mathlib.Logic.Function.Basic
import Mathlib.Order.Basic

/-! Values that expire: what is seen of them at a time, and stores that forget expired values when
they come across one, or forget any value. Nothing here depends on what the values are.
-/

namespace Expiry

variable {κ ν τ : Type*} {expired : ν → τ → Bool} {stored values : κ → Option ν}

/-- What is seen of the values at a time. -/
def seen (expired : ν → τ → Bool) (values : κ → Option ν) (now : τ) (key : κ) : Option ν :=
  (values key).filter fun value => !expired value now

/-- A store that has no value but the ones that there are. -/
def Within (stored values : κ → Option ν) : Prop :=
  ∀ key value, stored key = some value → values key = some value

/-- A store that has all of them but some that have expired. -/
structure Agrees (expired : ν → τ → Bool) (stored values : κ → Option ν) (now : τ) : Prop where
  within : Within stored values
  kept : ∀ key value, values key = some value → expired value now = false →
    stored key = some value

/-- What is expired stays so. -/
def Lasting [LE τ] (expired : ν → τ → Bool) : Prop :=
  ∀ value before later, before ≤ later → expired value before = true →
    expired value later = true

theorem seen_eq_some_iff {now : τ} {key : κ} {value : ν}
    : seen expired values now key = some value
      ↔ values key = some value ∧ expired value now = false := by
  rw [seen, Option.filter_eq_some_iff, Bool.not_eq_true']

/-- A store within the values shows nothing else. -/
theorem Within.seen (within : Within stored values) {now : τ} {key : κ} {value : ν}
    (found : seen expired stored now key = some value)
    : Expiry.seen expired values now key = some value := by
  rw [seen_eq_some_iff] at found ⊢
  exact ⟨within key value found.1, found.2⟩

/-- A store that agrees with the values shows the same. -/
theorem Agrees.seen_eq {now : τ} (agrees : Agrees expired stored values now) (key : κ)
    : seen expired stored now key = seen expired values now key := by
  refine Option.ext fun value => ?_
  rw [seen_eq_some_iff, seen_eq_some_iff]
  constructor
  · intro found
    exact ⟨agrees.within key value found.1, found.2⟩
  · intro found
    exact ⟨agrees.kept key value found.1 found.2, found.2⟩

/-- It goes on to agree with them. -/
theorem Agrees.later [LE τ] (lasting : Lasting expired) {now later : τ}
    (agrees : Agrees expired stored values now) (order : now ≤ later)
    : Agrees expired stored values later where
  within := agrees.within
  kept key value isValue live := by
    refine agrees.kept key value isValue ?_
    cases dead : expired value now with
    | false => rfl
    | true =>
        rw [lasting value now later order dead] at live
        cases live

theorem Agrees.of_none {now : τ} : Agrees expired (fun _ : κ => none) (fun _ => none) now where
  within _ _ found := found
  kept _ _ found _ := found

variable [DecidableEq κ]

/-- What is written to both, or erased from both, is the same. -/
theorem Within.update (within : Within stored values) (key : κ) (new : Option ν)
    : Within (Function.update stored key new) (Function.update values key new) := by
  intro other value found
  by_cases same : other = key
  · subst same
    rwa [Function.update_self] at found ⊢
  · rw [Function.update_of_ne same] at found ⊢
    exact within other value found

theorem Agrees.update {now : τ} (agrees : Agrees expired stored values now) (key : κ)
    (new : Option ν)
    : Agrees expired (Function.update stored key new) (Function.update values key new) now where
  within := agrees.within.update key new
  kept other value isValue live := by
    by_cases same : other = key
    · subst same
      rwa [Function.update_self] at isValue ⊢
    · rw [Function.update_of_ne same] at isValue ⊢
      exact agrees.kept other value isValue live

/-- A value that is forgotten. -/
theorem Within.forget (within : Within stored values) (key : κ)
    : Within (Function.update stored key none) values := by
  intro other value found
  by_cases same : other = key
  · subst same
    rw [Function.update_self] at found
    cases found
  · rw [Function.update_of_ne same] at found
    exact within other value found

/-- A value that is forgotten because it has expired. -/
theorem Agrees.forget {now : τ} (agrees : Agrees expired stored values now) {key : κ} {value : ν}
    (found : stored key = some value) (dead : expired value now = true)
    : Agrees expired (Function.update stored key none) values now where
  within := agrees.within.forget key
  kept other held isHeld live := by
    by_cases same : other = key
    · subst same
      rw [agrees.within other value found] at isHeld
      cases isHeld
      rw [dead] at live
      cases live
    · rw [Function.update_of_ne same]
      exact agrees.kept other held isHeld live

end Expiry
