import Mathlib.Order.Basic
import Mathlib.Tactic.Ring

/-! The search for the place where a condition on whole numbers turns: in steps until one of them
is past it, and then by halving the step. The condition may fail to answer. Nothing here depends
on what it says.
-/

namespace Bisection

/-- A way to divide the brackets that are wider than a width. -/
structure Halving where
  width : Int
  mid : Int → Int → Int
  between : ∀ {lo hi : Int}, width < hi - lo → lo < mid lo hi ∧ mid lo hi < hi

/-- Halves the bracket until it is narrow, and answers with its upper end. -/
def bisect (halving : Halving) (early : Int → Option Bool) (lo hi : Int) : Option Int :=
  if wide : halving.width < hi - lo then
    have := halving.between wide
    match early (halving.mid lo hi) with
    | none => none
    | some true => bisect halving early (halving.mid lo hi) hi
    | some false => bisect halving early lo (halving.mid lo hi)
  else some hi
termination_by (hi - lo).toNat
decreasing_by
  · omega
  · omega

/-- Takes so many steps at most, until one of them is past the turn. -/
def scan (early : Int → Option Bool) (step : Int) : Nat → Int → Option (Option (Int × Int))
  | 0, _ => some none
  | steps + 1, t =>
      match early (t + step) with
      | none => none
      | some true => scan early step steps (t + step)
      | some false => some (some (t, t + step))

/-- Between the ends the condition answers, and it turns at the boundary. -/
structure Turns (early : Int → Option Bool) (lo hi boundary : Int) : Prop where
  after : lo < boundary
  within : boundary ≤ hi
  before : ∀ t, lo ≤ t → t < boundary → early t = some true
  past : ∀ t, boundary ≤ t → t ≤ hi → early t = some false

variable {early : Int → Option Bool} {lo hi boundary : Int}

/-- Within a part of the bracket the condition turns where it does in the whole. -/
theorem Turns.narrow (turns : Turns early lo hi boundary) {lower upper : Int}
    (later : lo ≤ lower) (after : lower < boundary) (sooner : upper ≤ hi)
    (within : boundary ≤ upper)
    : Turns early lower upper boundary where
  after := after
  within := within
  before t begun := turns.before t (later.trans begun)
  past t reached ended := turns.past t reached (ended.trans sooner)

theorem Turns.early_iff (turns : Turns early lo hi boundary) {t : Int} (begun : lo ≤ t)
    (ended : t ≤ hi)
    : early t = some (decide (t < boundary)) := by
  by_cases before : t < boundary
  · rw [turns.before t begun before, decide_eq_true before]
  · rw [turns.past t (not_lt.mp before) ended, decide_eq_false before]

/-- The halving comes less than the width past the turn, by induction on the halvings: the turn
stays within the bracket.
-/
theorem bisect_turns (halving : Halving) (turns : Turns early lo hi boundary)
    : ∃ found, bisect halving early lo hi = some found ∧ boundary ≤ found ∧ found ≤ hi
        ∧ found < boundary + halving.width := by
  fun_induction bisect halving early lo hi with
  | case1 lo hi wide between silent =>
      rw [turns.early_iff between.1.le between.2.le] at silent
      cases silent
  | case2 lo hi wide between asked ih =>
      rw [turns.early_iff between.1.le between.2.le] at asked
      have before : halving.mid lo hi < boundary := of_decide_eq_true (Option.some.inj asked)
      exact ih (turns.narrow between.1.le before (le_refl hi) turns.within)
  | case3 lo hi wide between asked ih =>
      rw [turns.early_iff between.1.le between.2.le] at asked
      have past : boundary ≤ halving.mid lo hi :=
        not_lt.mp (of_decide_eq_false (Option.some.inj asked))
      obtain ⟨found, returned, after, ended, close⟩ :=
        ih (turns.narrow (le_refl lo) turns.after between.2.le past)
      exact ⟨found, returned, after, ended.trans between.2.le, close⟩
  | case4 lo hi narrow =>
      have after := turns.after
      exact ⟨hi, rfl, turns.within, le_refl hi, by omega⟩

/-- Steps that reach the turn find the one that is past it, by induction on how many may be taken.
-/
theorem scan_turns {step : Int} (forward : 0 < step) {steps : Nat} {t : Int}
    (turns : Turns early t hi boundary) (reached : boundary ≤ t + steps * step)
    (inside : t + steps * step ≤ hi)
    : ∃ lower, scan early step steps t = some (some (lower, lower + step))
        ∧ t ≤ lower ∧ lower + step ≤ hi ∧ Turns early lower (lower + step) boundary := by
  induction steps generalizing t with
  | zero =>
      have after := turns.after
      simp only [Nat.cast_zero, Int.zero_mul] at reached
      omega
  | succ steps ih =>
      have rest : t + (steps + 1 : Nat) * step = t + step + steps * step := by push_cast; ring
      rw [rest] at reached inside
      have stays : 0 ≤ steps * step := Int.mul_nonneg (Int.natCast_nonneg steps) forward.le
      have asked := turns.early_iff (t := t + step) (by omega) (by omega)
      by_cases before : t + step < boundary
      · rw [decide_eq_true before] at asked
        obtain ⟨lower, found, later, ended, bracket⟩ :=
          ih (turns.narrow (by omega) before (le_refl hi) turns.within) reached inside
        exact ⟨lower, by rw [scan, asked]; exact found, by omega, ended, bracket⟩
      · rw [decide_eq_false before] at asked
        have past : boundary ≤ t + step := not_lt.mp before
        exact ⟨t, by rw [scan, asked], le_refl t, by omega,
          turns.narrow (le_refl t) turns.after (by omega) past⟩

end Bisection
