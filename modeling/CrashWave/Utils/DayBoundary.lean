import CrashWave.Bisection.Basic
import Mathlib.Algebra.Order.Group.Abs
import Mathlib.Algebra.Order.Group.Int
import Mathlib.Order.Bounds.Defs

/-! The next boundary of a day in a time zone, searched for through the keys of the days. Instants
are whole milliseconds.
-/

namespace CrashWave.Utils.DayBoundary

open Bisection

/-- What the platform knows of dates. -/
structure Platform where
  /-- The formatter of a time zone, unless the zone is invalid. -/
  formatter : String → Option (Int → String)
  /-- The first ten characters of `toISOString`. -/
  isoDate : Int → String
  /-- `Date.UTC` of the next day of the instant's UTC date. -/
  nextUtcMidnight : Int → Int

variable (platform : Platform) (timezone : String)

/-- The key of an instant. For an invalid date both the formatter and the ISO form throw. -/
def getDailyKey (date : Int) : Option String :=
  if |date| ≤ 8640000000000000 then
    match platform.formatter timezone with
    | some format => some (format date)
    | none => some (platform.isoDate date)
  else none

/-- A quarter of an hour. -/
def step : Int := 15 * 60 * 1000

/-- The sum of two dates. From 2^53 on only the even numbers are there, and a tie goes to the one
that four divides.
-/
def sum (lo hi : Int) : Int :=
  if |lo + hi| ≤ 2 ^ 53 ∨ (lo + hi) % 2 = 0 then lo + hi
  else if (lo + hi) % 4 = 1 then lo + hi - 1
  else lo + hi + 1

/-- Halving down to a second. -/
def toSecond : Halving where
  width := 1000
  mid lo hi := sum lo hi / 2
  between {lo hi} wide := by
    have near : lo + hi - 1 ≤ sum lo hi ∧ sum lo hi ≤ lo + hi + 1 := by
      unfold sum
      split
      · omega
      · split
        · omega
        · omega
    omega

def getNextDayBoundaryMs (date : Int) : Option Int :=
  match getDailyKey platform timezone date with
  | none => none
  | some currentKey =>
      let early (t : Int) := (getDailyKey platform timezone t).map fun key => key == currentKey
      match scan early step 100 date with
      | none => none
      | some (some (lo, hi)) => bisect toSecond early lo hi
      | some none => some (platform.nextUtcMidnight date)

/-- Whether two instants are on different days. -/
def crossesDayBoundary (a b : Int) : Option Bool :=
  match getDailyKey platform timezone a, getDailyKey platform timezone b with
  | some first, some second => some (first != second)
  | _, _ => none

/-- The milliseconds until the next boundary. -/
def msUntilDayBoundary (date : Int) : Option Int :=
  (getNextDayBoundaryMs platform timezone date).map fun next => max 0 (next - date)

/-- Over the interval the key is there, and changes once, at the boundary. -/
structure ChangesOnce (key : Int → Option String) (start finish boundary : Int) : Prop where
  defined : ∀ t, start ≤ t → t ≤ finish → (key t).isSome
  after : start < boundary
  within : boundary ≤ finish
  changes : key boundary ≠ key (boundary - 1)
  once : ∀ t, start < t → t ≤ finish → key t ≠ key (t - 1) → t = boundary

section

variable {key : Int → Option String} {start finish boundary : Int}

/-- From one instant to a later one without a change the key is the same, by induction on it. -/
theorem key_eq_of_unchanged {first last : Int} (order : first ≤ last)
    (unchanged : ∀ t, first < t → t ≤ last → key t = key (t - 1))
    : key last = key first := by
  induction last, order using Int.leInduction with
  | base => rfl
  | succ t later ih =>
      have next := unchanged (t + 1) (by omega) (le_refl _)
      rw [add_sub_cancel_right] at next
      exact next.trans (ih fun s after before => unchanged s after (by omega))

namespace ChangesOnce

variable (changes : ChangesOnce key start finish boundary)

include changes

theorem before {t : Int} (begun : start ≤ t) (early : t < boundary) : key t = key start := by
  apply key_eq_of_unchanged begun
  intro s after sooner
  by_contra changed
  have within := changes.within
  have same := changes.once s after (by omega) changed
  omega

theorem past {t : Int} (reached : boundary ≤ t) (ended : t ≤ finish) : key t = key boundary := by
  apply key_eq_of_unchanged reached
  intro s after sooner
  by_contra changed
  have begun := changes.after
  have same := changes.once s (by omega) (by omega) changed
  omega

theorem different : key boundary ≠ key start := by
  have after := changes.after
  rw [← changes.before (by omega : start ≤ boundary - 1) (by omega)]
  exact changes.changes

/-- Where the key is the current one the search is early, up to the boundary. -/
theorem turns {currentKey : String} (current : key start = some currentKey)
    : Turns (fun t => (key t).map fun text => text == currentKey) start finish boundary where
  after := changes.after
  within := changes.within
  before t begun early := by
    rw [changes.before begun early, current]
    simp
  past t reached ended := by
    have defined := changes.defined boundary changes.after.le changes.within
    obtain ⟨next, found⟩ := Option.isSome_iff_exists.mp defined
    have different := changes.different
    rw [found, current] at different
    rw [changes.past reached ended, found]
    simpa using different

end ChangesOnce

end

section

variable {platform : Platform} {timezone : String} {date boundary : Int}

/-- The search ends within the 25 hours, at the boundary or less than a second past it. -/
theorem ChangesOnce.found
    (changes : ChangesOnce (getDailyKey platform timezone) date (date + 100 * step) boundary)
    : ∃ instant, getNextDayBoundaryMs platform timezone date = some instant
        ∧ boundary ≤ instant ∧ instant ≤ date + 100 * step ∧ instant < boundary + 1000 := by
  have defined := changes.defined date (le_refl date) (changes.after.le.trans changes.within)
  obtain ⟨currentKey, current⟩ := Option.isSome_iff_exists.mp defined
  obtain ⟨lower, scanned, later, inside, bracket⟩ :=
    scan_turns (by decide : 0 < step) (changes.turns current) changes.within (le_refl _)
  obtain ⟨instant, found, reached, ended, close⟩ := bisect_turns toSecond bracket
  refine ⟨instant, ?_, reached, ended.trans inside, close⟩
  rw [getNextDayBoundaryMs, current]
  simp only
  rw [scanned]
  exact found

/-- The rest of the day is some time, but no more than 25 hours, and it ends on another day. -/
theorem ChangesOnce.msUntilDayBoundary
    (changes : ChangesOnce (getDailyKey platform timezone) date (date + 100 * step) boundary)
    : ∃ ms, msUntilDayBoundary platform timezone date = some ms ∧ 0 < ms ∧ ms ≤ 100 * step
        ∧ crossesDayBoundary platform timezone date (date + ms) = some true := by
  obtain ⟨instant, found, reached, inside, -⟩ := changes.found
  have after := changes.after
  refine ⟨instant - date, ?_, by omega, by omega, ?_⟩
  · rw [DayBoundary.msUntilDayBoundary, found, Option.map_some, max_eq_right (by omega)]
  · have defined := changes.defined instant (by omega) inside
    obtain ⟨next, keyed⟩ := Option.isSome_iff_exists.mp defined
    have begun := changes.defined date (le_refl date) (by omega)
    obtain ⟨currentKey, current⟩ := Option.isSome_iff_exists.mp begun
    have different := changes.different
    rw [← changes.past reached inside, keyed, current] at different
    rw [crossesDayBoundary, current, add_sub_cancel, keyed]
    simpa using fun same => different (congrArg some same.symm)

end

/-- If the key changes once within the 25 hours that are searched, the search ends with an instant
of the next day, less than a second after its first one.
-/
theorem nextDayBoundary_of_changesOnce {date boundary : Int}
    (changes : ChangesOnce (getDailyKey platform timezone) date (date + 100 * step) boundary)
    : ∃ instant, getNextDayBoundaryMs platform timezone date = some instant
        ∧ date < instant
        ∧ getDailyKey platform timezone instant ≠ getDailyKey platform timezone date
        ∧ IsLeast
            {t | date ≤ t
              ∧ getDailyKey platform timezone t = getDailyKey platform timezone instant}
            boundary
        ∧ instant ≤ boundary + 1000 := by
  have after := changes.after
  obtain ⟨instant, found, reached, inside, close⟩ := changes.found
  have same := changes.past reached inside
  refine ⟨instant, found, after.trans_le reached, ?_, ⟨⟨after.le, same.symm⟩, ?_⟩, close.le⟩
  · rw [same]
    exact changes.different
  · rintro t ⟨begun, keyed⟩
    by_contra early
    rw [changes.before begun (not_le.mp early), same] at keyed
    exact changes.different keyed.symm

/-- The days of UTC around the first midnight of 1970. -/
def firstMidnight : Platform where
  formatter timezone :=
    if timezone = "UTC" then
      some fun t => if t < 86400000 then "1970-01-01" else "1970-01-02"
    else none
  isoDate t := if t < 86400000 then "1970-01-01" else "1970-01-02"
  nextUtcMidnight t := (t / 86400000 + 1) * 86400000

/-- From noon the search finds an instant within the first second of the next day. -/
theorem noon_nextDayBoundary
    : ∃ instant, getNextDayBoundaryMs firstMidnight "UTC" 43200000 = some instant
        ∧ 43200000 < instant
        ∧ getDailyKey firstMidnight "UTC" instant ≠ getDailyKey firstMidnight "UTC" 43200000
        ∧ IsLeast
            {t | 43200000 ≤ t
              ∧ getDailyKey firstMidnight "UTC" t = getDailyKey firstMidnight "UTC" instant}
            86400000
        ∧ instant ≤ 86400000 + 1000 := by
  have keyed (t : Int) (valid : |t| ≤ 8640000000000000)
      : getDailyKey firstMidnight "UTC" t
        = some (if t < 86400000 then "1970-01-01" else "1970-01-02") := by
    rw [getDailyKey, if_pos valid, firstMidnight]
    simp
  apply nextDayBoundary_of_changesOnce
  exact
    { defined := by
        intro t begun ended
        rw [keyed t (abs_le.mpr (by simp only [step] at ended; omega))]
        rfl
      after := by decide
      within := by decide
      changes := by
        rw [keyed _ (by decide), keyed _ (by decide)]
        decide
      once := by
        intro t begun ended changed
        simp only [step] at ended
        rw [keyed t (abs_le.mpr (by omega)), keyed (t - 1) (abs_le.mpr (by omega))] at changed
        by_contra elsewhere
        apply changed
        by_cases before : t < 86400000
        · rw [if_pos before, if_pos (by omega : t - 1 < 86400000)]
        · rw [if_neg before, if_neg (by omega : ¬ t - 1 < 86400000)] }

end CrashWave.Utils.DayBoundary
