import Mathlib.Data.List.Basic
import Mathlib.Data.List.DropRight

/-! A ring of cells that is written in turn and holds the last values written to it. -/

namespace Rings

variable {α β : Type*}

/-- The cells hold the last values of what was written: value `index` is in the cell at this
index modulo the capacity, as long as it is not overwritten.
-/
structure Holds (capacity : Nat) (cells written : List α) : Prop where
  length : cells.length = capacity
  cell : ∀ index < written.length, written.length ≤ index + capacity →
    cells[index % capacity]? = written[index]?

/-- How many of the values written are held. -/
def held (capacity count : Nat) : Nat := min count capacity

variable {capacity : Nat} {cells written : List α}

theorem holds_nil (full : cells.length = capacity) : Holds capacity cells [] where
  length := full
  cell := fun _ bound => absurd bound (Nat.not_lt_zero _)

/-- Two indices less than a capacity apart share a cell only if they are the same. -/
theorem mod_ne_of_lt {first second : Nat} (order : first < second)
    (close : second < first + capacity)
    : first % capacity ≠ second % capacity := by
  intro same
  have divides : capacity ∣ second - first :=
    Nat.dvd_of_mod_eq_zero (Nat.sub_mod_eq_zero_of_mod_eq same.symm)
  exact absurd (Nat.le_of_dvd (by omega) divides) (by omega)

/-- Writing the next cell. -/
theorem Holds.write (holds : Holds capacity cells written) (value : α)
    : Holds capacity (cells.set (written.length % capacity) value) (written ++ [value]) where
  length := by rw [List.length_set, holds.length]
  cell := by
    intro index bound recent
    rw [List.length_append, List.length_singleton] at bound recent
    rcases Nat.lt_succ_iff_lt_or_eq.mp bound with older | newest
    · have other : written.length % capacity ≠ index % capacity :=
        (mod_ne_of_lt older (by omega)).symm
      rw [List.getElem?_set_ne other, holds.cell index older (by omega),
        List.getElem?_append_left older]
    · subst newest
      have inside : written.length % capacity < cells.length := by
        rw [holds.length]
        exact Nat.mod_lt _ (by omega)
      rw [List.getElem?_set_self inside]
      simp

/-- The cells from one on, in turn. -/
def readFrom (default : α) (capacity : Nat) (cells : List α) (start count : Nat) : List α :=
  (List.range count).map fun index => cells.getD ((start + index) % capacity) default

@[simp] theorem length_readFrom (default : α) (start count : Nat)
    : (readFrom default capacity cells start count).length = count := by
  simp [readFrom]

/-- What is read from an index that is still held on. -/
theorem Holds.readFrom_eq (holds : Holds capacity cells written) (default : α)
    {start first count : Nat} (aligned : start % capacity = first % capacity)
    (within : first + count ≤ written.length) (recent : written.length ≤ first + capacity)
    : readFrom default capacity cells start count = (written.drop first).take count := by
  refine List.ext_getElem? ?_
  intro index
  by_cases inside : index < count
  · have cell : cells[(start + index) % capacity]? = written[first + index]? := by
      rw [← holds.cell (first + index) (by omega) (by omega)]
      congr 1
      rw [Nat.add_mod, aligned, ← Nat.add_mod]
    have found : first + index < written.length := by omega
    rw [List.getElem?_take_of_lt inside, List.getElem?_drop]
    simp [readFrom, inside, List.getD_eq_getElem?_getD, cell, List.getElem?_eq_getElem found]
  · rw [List.getElem?_eq_none (by simpa using inside), List.getElem?_eq_none]
    simp only [List.length_take]
    omega

/-- Everything that is held, from the oldest on. -/
theorem Holds.readHeld (holds : Holds capacity cells written) (default : α) {start : Nat}
    (aligned : start % capacity
      = (written.length - held capacity written.length) % capacity)
    : readFrom default capacity cells start (held capacity written.length)
      = written.drop (written.length - held capacity written.length) := by
  have most : held capacity written.length ≤ written.length := Nat.min_le_left _ _
  rw [holds.readFrom_eq default aligned (by omega) (by simp only [held]; omega)]
  refine List.take_of_length_le ?_
  rw [List.length_drop]
  omega

-----------------------------------------------------------------------------------------
-- The last values
-----------------------------------------------------------------------------------------

/-- Values that are no more than the capacity are all among the last ones. -/
theorem rtake_eq_self (few : written.length ≤ capacity) : written.rtake capacity = written := by
  rw [List.rtake, Nat.sub_eq_zero_of_le few, List.drop_zero]

theorem rtake_eq_drop (capacity : Nat) (written : List α)
    : written.rtake capacity = written.drop (written.length - held capacity written.length) := by
  rw [List.rtake, held]
  congr 1
  omega

theorem length_rtake (capacity : Nat) (written : List α)
    : (written.rtake capacity).length = held capacity written.length := by
  rw [List.rtake, List.length_drop, held]
  omega

/-- Beyond the capacity one more value takes the place of the oldest. -/
theorem rtake_concat_of_full (positive : 0 < capacity) (full : capacity ≤ written.length)
    (value : α)
    : (written ++ [value]).rtake capacity = (written.rtake capacity).tail ++ [value] := by
  have shifted : (written ++ [value]).length - capacity = written.length - capacity + 1 := by
    rw [List.length_append, List.length_singleton]
    omega
  rw [List.rtake, shifted, List.rtake, List.tail_drop,
    List.drop_append_of_le_length (by omega)]

/-- The oldest of the last values is in the cell that is written next. -/
theorem Holds.rtake_eq_cons (holds : Holds capacity cells written) (positive : 0 < capacity)
    (full : capacity ≤ written.length) (default : α)
    : written.rtake capacity
      = cells.getD (written.length % capacity) default :: (written.rtake capacity).tail := by
  have inside : written.length - capacity < written.length := by omega
  have same : (written.length - capacity) % capacity = written.length % capacity :=
    (Nat.mod_eq_sub_mod full).symm
  have cell := holds.cell _ inside (by omega)
  rw [same, List.getElem?_eq_getElem inside] at cell
  rw [List.getD_eq_getElem?_getD, cell, Option.getD_some, List.rtake, List.tail_drop]
  exact List.drop_eq_getElem_cons inside

end Rings
