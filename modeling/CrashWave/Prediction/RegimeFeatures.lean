import Mathlib.Algebra.Order.Field.Rat
import CrashWave.JavaScript.Number

/-! The feature rows from which the regimes are fitted offline, and what a row shows of the
round it stands for.
-/

namespace CrashWave.RegimeFeatures

open JavaScript

/-- The accumulators that the loop carries from round to round. -/
structure Streaks where
  ewma : Number
  runBelow : Nat
  runAbove : Nat
  deriving DecidableEq

def Streaks.initial : Streaks :=
  { ewma := .finite (13 / 20), runBelow := 0, runAbove := 0 }

/-- `cp >= 1.3`. -/
def isHit (crashPoint : Number) : Bool :=
  decide (.finite (13 / 10) ≤ crashPoint)

/-- The accumulators after they took in the crash point of a round. -/
def Streaks.absorb (streaks : Streaks) (crashPoint : Number) : Streaks :=
  let hit : Number := if isHit crashPoint then 1 else 0
  {
    ewma := .finite (1 / 20) * hit + .finite (19 / 20) * streaks.ewma
    runAbove := if isHit crashPoint then streaks.runAbove + 1 else 0
    runBelow := if isHit crashPoint then 0 else streaks.runBelow + 1
  }

/-- The eight features of a round; `sqrt` stands for `Math.sqrt`. -/
def featureRow (sqrt : Number → Number) (streaks : Streaks) (window : List Number)
    : List Number :=
  let size := Number.finite window.length
  let shortHit := Number.finite (window.countP isHit) / size
  let mean := window.foldl (· + ·) 0 / size
  let m2 := window.foldl (fun sum point => sum + (point - mean) * (point - mean)) 0 / size
  [streaks.ewma, mean, .finite streaks.runBelow, .finite streaks.runAbove, shortHit, shortHit,
    mean, sqrt m2]

/-- `points.slice(Math.max(0, i - 20), i)`. -/
def window (points : List Number) (i : Nat) : List Number :=
  (points.take i).drop (i - 20)

/-- What the loop has built, with its accumulators. -/
structure FeaturePass where
  streaks : Streaks
  rows : List (List Number)
  outcomes : List Nat

/-- The body of the loop for the crash point `cp` at index `i`. -/
def FeaturePass.next (sqrt : Number → Number) (points : List Number) (pass : FeaturePass)
    (entry : Number × Nat)
    : FeaturePass :=
  let (cp, i) := entry
  let streaks := pass.streaks.absorb cp
  if i < 20 then
    { pass with streaks }
  else
    {
      streaks
      rows := pass.rows ++ [featureRow sqrt streaks (window points i)]
      outcomes := pass.outcomes ++ [if isHit cp then 1 else 0]
    }

structure FeatureRows where
  rows : List (List Number)
  outcomes : List Nat

def featureRowsFromCrashPoints (sqrt : Number → Number) (points : List Number)
    : FeatureRows :=
  let pass := points.zipIdx.foldl (FeaturePass.next sqrt points)
    { streaks := .initial, rows := [], outcomes := [] }
  { rows := pass.rows, outcomes := pass.outcomes }

/-- The row that the pass over `points` yields for round `i`; the first 20 rounds have none. -/
def rowOfRound (sqrt : Number → Number) (points : List Number) (i : Nat)
    : Option (List Number) :=
  if i < 20 then none else (featureRowsFromCrashPoints sqrt points).rows[i - 20]?

-----------------------------------------------------------------------------------------
-- The rows as functions of the crash points
-----------------------------------------------------------------------------------------

/-- The accumulators after a history. -/
def Streaks.after (points : List Number) : Streaks :=
  points.foldl Streaks.absorb .initial

theorem Streaks.after_take_succ {points : List Number} {i : Nat} (inside : i < points.length)
    : Streaks.after (points.take (i + 1))
      = (Streaks.after (points.take i)).absorb points[i] := by
  rw [List.take_succ_eq_append_getElem inside, Streaks.after, List.foldl_append]
  rfl

/-- The row of a round reads the accumulators that took in the round itself. -/
def rowAt (sqrt : Number → Number) (points : List Number) (i : Nat) : List Number :=
  featureRow sqrt (.after (points.take (i + 1))) (window points i)

/-- The pass over the first rounds of a history holds their accumulators and one row for each
round from the twentieth on, by induction on the rounds taken in.
-/
theorem foldl_next (sqrt : Number → Number) (points : List Number) {taken : Nat}
    (within : taken ≤ points.length)
    : ∃ outcomes,
        (points.take taken).zipIdx.foldl (FeaturePass.next sqrt points)
          { streaks := .initial, rows := [], outcomes := [] }
        = {
            streaks := .after (points.take taken)
            rows := ((List.range taken).drop 20).map (rowAt sqrt points)
            outcomes
          } := by
  induction taken with
  | zero => exact ⟨[], rfl⟩
  | succ taken ih =>
      obtain ⟨outcomes, built⟩ := ih (Nat.le_of_succ_le within)
      have inside : taken < points.length := within
      have more : points.take (taken + 1) = points.take taken ++ [points[taken]] :=
        List.take_succ_eq_append_getElem inside
      have absorbed := Streaks.after_take_succ inside
      have length : (points.take taken).length = taken := List.length_take_of_le inside.le
      rw [more, List.zipIdx_append, List.foldl_append, built, length, ← more]
      simp only [List.zipIdx_cons, List.zipIdx_nil, List.foldl_cons, List.foldl_nil,
        Nat.zero_add]
      by_cases early : taken < 20
      · refine ⟨outcomes, ?_⟩
        have none : (List.range (taken + 1)).drop 20 = [] :=
          List.drop_eq_nil_of_le (by rw [List.length_range]; omega)
        have none' : (List.range taken).drop 20 = [] :=
          List.drop_eq_nil_of_le (by simpa using early.le)
        simp [FeaturePass.next, early, absorbed, none, none']
      · refine ⟨outcomes ++ [if isHit points[taken] then 1 else 0], ?_⟩
        have one : (List.range (taken + 1)).drop 20 = (List.range taken).drop 20 ++ [taken] := by
          rw [List.range_succ, List.drop_append_of_le_length (by simpa using early)]
        simp [FeaturePass.next, early, absorbed, one, rowAt]

/-- The row of a round from the twentieth on is the one that its history determines. -/
theorem rowOfRound_eq (sqrt : Number → Number) (points : List Number) {i : Nat}
    (late : 20 ≤ i)
    : rowOfRound sqrt points i = points[i]?.map fun _ => rowAt sqrt points i := by
  obtain ⟨outcomes, built⟩ := foldl_next sqrt points le_rfl
  rw [List.take_length] at built
  rw [rowOfRound, if_neg (not_lt.mpr late), featureRowsFromCrashPoints, built]
  have place : 20 + (i - 20) = i := Nat.add_sub_cancel' late
  simp only [List.getElem?_map, List.getElem?_drop, place]
  by_cases inside : i < points.length
  · simp [inside]
  · simp [not_lt.mp inside]

-----------------------------------------------------------------------------------------
-- What a row shows of its own round
-----------------------------------------------------------------------------------------

/-- The streaks tell on which side of 1.3 the crash point that they took in last lies. -/
theorem Streaks.absorb_eq_iff (streaks : Streaks) (left right : Number)
    : streaks.absorb left = streaks.absorb right ↔ isHit left = isHit right := by
  constructor
  · intro same
    have below := congrArg Streaks.runBelow same
    cases hitLeft : isHit left <;> cases hitRight : isHit right <;>
      simp [Streaks.absorb, hitLeft, hitRight] at below ⊢
  · intro same
    simp [Streaks.absorb, same]

/-- Rows over the same window are equal exactly when the accumulators are. -/
theorem featureRow_eq_iff (sqrt : Number → Number) (left right : Streaks)
    (window : List Number)
    : featureRow sqrt left window = featureRow sqrt right window ↔ left = right := by
  constructor
  · intro same
    simp only [featureRow, List.cons.injEq, Number.finite.injEq, Nat.cast_inj] at same
    obtain ⟨ewma, -, below, above, -⟩ := same
    cases left
    cases right
    simp_all
  · intro same
    rw [same]

/-- Histories that agree before a round give it the same row exactly when the crash points of
the round itself, as far as there are any, lie on the same side of 1.3 (or the round is one
of the first 20, which have no row).
-/
theorem rowOfRound_eq_iff (sqrt : Number → Number) {left right : List Number} {i : Nat}
    (agree : left.take i = right.take i)
    : rowOfRound sqrt left i = rowOfRound sqrt right i
      ↔ i < 20 ∨ left[i]?.map isHit = right[i]?.map isHit := by
  by_cases early : i < 20
  · simp [rowOfRound, early]
  · have late : 20 ≤ i := not_lt.mp early
    have sameWindow : window left i = window right i := by
      rw [window, window, agree]
    have row {points : List Number} (inside : i < points.length)
        : rowAt sqrt points i
          = featureRow sqrt ((Streaks.after (points.take i)).absorb points[i])
              (window points i) := by
      rw [rowAt, Streaks.after_take_succ inside]
    rw [rowOfRound_eq sqrt left late, rowOfRound_eq sqrt right late]
    by_cases inLeft : i < left.length
    · by_cases inRight : i < right.length
      · simp only [List.getElem?_eq_getElem inLeft, List.getElem?_eq_getElem inRight,
          Option.map_some, Option.some_inj, row inLeft, row inRight, agree, sameWindow,
          featureRow_eq_iff, Streaks.absorb_eq_iff, early, false_or]
      · simp [inLeft, not_lt.mp inRight, early]
    · by_cases inRight : i < right.length
      · simp [inRight, not_lt.mp inLeft, early]
      · simp [not_lt.mp inLeft, not_lt.mp inRight]

/-- A high and a higher crash point after twenty rounds at 2 give their round the same row. -/
theorem rowOfRound_two_three
    : rowOfRound id (List.replicate 20 2 ++ [2]) 20
      = rowOfRound id (List.replicate 20 2 ++ [3]) 20 :=
  (rowOfRound_eq_iff id (by decide +kernel)).mpr (by decide +kernel)

/-- A low and a high crash point after twenty rounds at 2 give their round different rows. -/
theorem row_shows_own_outcome
    : ∃ left right : List Number, ∃ i,
        left.take i = right.take i ∧ i < left.length ∧ i < right.length
        ∧ rowOfRound id left i ≠ rowOfRound id right i :=
  ⟨List.replicate 20 2 ++ [1], List.replicate 20 2 ++ [2], 20, by decide +kernel⟩

end CrashWave.RegimeFeatures
