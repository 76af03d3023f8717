import Mathlib.Data.List.Count
import Mathlib.Data.List.DropRight
import Mathlib.Data.List.Infix
import Mathlib.Order.MinMax

/-! Streaks of the items of a list that meet a condition: the one at its end, and the longest;
and tallies of such items that go on over the others until one of these resets them. Nothing
here depends on what the items are.
-/

namespace Streaks

variable {α : Type*} (met : α → Bool)

/-- How many items at the end meet the condition. -/
def currentRun (items : List α) : Nat := (items.rtakeWhile met).length

@[simp] theorem currentRun_nil : currentRun met [] = 0 := by
  rw [currentRun, List.rtakeWhile_nil, List.length_nil]

theorem currentRun_concat (items : List α) (item : α)
    : currentRun met (items ++ [item]) = if met item then currentRun met items + 1 else 0 := by
  rw [currentRun, List.rtakeWhile_concat]
  split
  · rw [List.length_append, List.length_singleton, currentRun]
  · rfl

/-- The items of the list in a row that meet the condition are so many at most. -/
structure LongestRun (items : List α) (length : Nat) : Prop where
  attained : ∃ run, run <:+: items ∧ (∀ item ∈ run, met item) ∧ run.length = length
  longest : ∀ run, run <:+: items → (∀ item ∈ run, met item) → run.length ≤ length

variable {met} {items : List α}

/-- Items at the end that all meet the condition are no more than the run there, by induction on the
list backwards.
-/
theorem length_le_currentRun {run : List α} (ends : run <:+ items) (all : ∀ item ∈ run, met item)
    : run.length ≤ currentRun met items := by
  induction items using List.reverseRecOn generalizing run with
  | nil => simp [List.suffix_nil.mp ends]
  | append_singleton items item ih =>
      rw [currentRun_concat]
      rcases List.suffix_concat_iff.mp ends with rfl | ⟨before, rfl, shorter⟩
      · exact Nat.zero_le _
      · have last : met item := all item (by simp)
        have others := ih shorter fun other among => all other (by simp [among])
        rw [if_pos last, List.length_append, List.length_singleton]
        exact Nat.succ_le_succ others

theorem longestRun_nil : LongestRun met [] 0 where
  attained := ⟨[], List.infix_rfl, by simp, rfl⟩
  longest run inside _ := by rw [List.infix_nil.mp inside, List.length_nil]

/-- With one item more, the longest run is the one before, or the one at the end. -/
theorem LongestRun.concat {length : Nat} (before : LongestRun met items length) (item : α)
    : LongestRun met (items ++ [item]) (max length (currentRun met (items ++ [item]))) where
  attained := by
    rcases max_choice length (currentRun met (items ++ [item])) with old | new
    · obtain ⟨run, inside, all, counted⟩ := before.attained
      exact ⟨run, inside.trans (List.prefix_append _ _).isInfix, all, counted.trans old.symm⟩
    · refine ⟨(items ++ [item]).rtakeWhile met, (List.rtakeWhile_suffix _ _).isInfix, ?_, new.symm⟩
      exact fun other among => List.mem_rtakeWhile_imp among
  longest := by
    intro run inside all
    rcases List.infix_concat_iff.mp inside with ends | within
    · exact le_max_of_le_right (length_le_currentRun ends all)
    · exact le_max_of_le_left (before.longest run within all)

-----------------------------------------------------------------------------------------
-- Tallies
-----------------------------------------------------------------------------------------

section

variable (met)

/-- How many items since the last reset meet the condition. -/
def currentTally (resets : α → Bool) (items : List α) : Nat :=
  (items.rtakeWhile fun item => !resets item).countP met

variable {resets : α → Bool}

theorem currentTally_concat (items : List α) (item : α)
    : currentTally met resets (items ++ [item])
      = if resets item then 0
        else currentTally met resets items + if met item then 1 else 0 := by
  rw [currentTally, List.rtakeWhile_concat]
  cases reset : resets item with
  | true => simp
  | false =>
      rw [if_pos (by simp), List.countP_append, List.countP_singleton, currentTally]
      simp

end

/-- A stretch of the list without a reset has so many items at most that meet the condition. -/
structure LargestTally (met resets : α → Bool) (items : List α) (tally : Nat) : Prop where
  attained
    : ∃ stretch, stretch <:+: items ∧ (∀ item ∈ stretch, resets item = false)
        ∧ stretch.countP met = tally
  largest
    : ∀ stretch, stretch <:+: items → (∀ item ∈ stretch, resets item = false) →
        stretch.countP met ≤ tally

variable {resets : α → Bool}

/-- A stretch at the end without a reset tallies no more than is tallied there, by induction on
the list backwards.
-/
theorem countP_le_currentTally {stretch : List α} (ends : stretch <:+ items)
    (going : ∀ item ∈ stretch, resets item = false)
    : stretch.countP met ≤ currentTally met resets items := by
  induction items using List.reverseRecOn generalizing stretch with
  | nil => simp [List.suffix_nil.mp ends]
  | append_singleton items item ih =>
      rw [currentTally_concat]
      rcases List.suffix_concat_iff.mp ends with rfl | ⟨before, rfl, shorter⟩
      · exact Nat.zero_le _
      · have last : resets item = false := going item (by simp)
        have others := ih shorter fun other among => going other (by simp [among])
        rw [last, List.countP_append, List.countP_singleton]
        exact Nat.add_le_add_right others _

theorem largestTally_nil : LargestTally met resets [] 0 where
  attained := ⟨[], List.infix_rfl, by simp, rfl⟩
  largest stretch inside _ := by rw [List.infix_nil.mp inside, List.countP_nil]

/-- With one item more, the largest tally is the one before, or the one at the end. -/
theorem LargestTally.concat {tally : Nat} (before : LargestTally met resets items tally)
    (item : α)
    : LargestTally met resets (items ++ [item])
        (max tally (currentTally met resets (items ++ [item]))) where
  attained := by
    rcases max_choice tally (currentTally met resets (items ++ [item])) with old | new
    · obtain ⟨stretch, inside, going, counted⟩ := before.attained
      exact ⟨stretch, inside.trans (List.prefix_append _ _).isInfix, going,
        counted.trans old.symm⟩
    · refine ⟨(items ++ [item]).rtakeWhile fun other => !resets other,
        (List.rtakeWhile_suffix _ _).isInfix, ?_, new.symm⟩
      intro other among
      simpa using List.mem_rtakeWhile_imp among
  largest := by
    intro stretch inside going
    rcases List.infix_concat_iff.mp inside with ends | within
    · exact le_max_of_le_right (countP_le_currentTally ends going)
    · exact le_max_of_le_left (before.largest stretch within going)

/-- Where items that meet the condition reset nothing, the largest tally is the longest run
exactly if every stretch without a reset tallies no more than some run.
-/
theorem LargestTally.eq_iff {tally length : Nat} (largest : LargestTally met resets items tally)
    (longest : LongestRun met items length) (apart : ∀ item, met item → resets item = false)
    : tally = length
      ↔ ∀ stretch, stretch <:+: items → (∀ item ∈ stretch, resets item = false) →
          ∃ run, run <:+: items ∧ (∀ item ∈ run, met item) ∧ stretch.countP met ≤ run.length := by
  constructor
  · rintro rfl stretch inside going
    obtain ⟨run, within, all, counted⟩ := longest.attained
    exact ⟨run, within, all, counted ▸ largest.largest stretch inside going⟩
  · intro covered
    apply le_antisymm
    · obtain ⟨stretch, inside, going, rfl⟩ := largest.attained
      obtain ⟨run, within, all, enough⟩ := covered stretch inside going
      exact enough.trans (longest.longest run within all)
    · obtain ⟨run, within, all, rfl⟩ := longest.attained
      have counted : run.countP met = run.length := List.countP_eq_length.mpr all
      exact counted ▸ largest.largest run within fun item among => apart item (all item among)

end Streaks
