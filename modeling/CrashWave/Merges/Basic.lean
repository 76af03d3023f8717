import Mathlib.Data.List.Induction

/-! The last value there is in a column of records. Nothing here depends on what the records are. -/

namespace Merges

variable {α β : Type*} {column : α → Option β} {items : List α} {item : α}

/-- The last value of the column, of all that are there. -/
def latest (column : α → Option β) (items : List α) : Option β := (items.filterMap column).getLast?

@[simp] theorem latest_nil : latest column [] = none := rfl

/-- A value that is there replaces the one before. -/
theorem latest_concat
    : latest column (items ++ [item]) = (column item).or (latest column items) := by
  rw [latest, List.filterMap_append]
  cases found : column item with
  | none => rw [List.filterMap_cons_none found, List.filterMap_nil, List.append_nil]; rfl
  | some value =>
      rw [List.filterMap_cons_some found, List.filterMap_nil, List.getLast?_concat]
      rfl

theorem latest_eq_none_iff : latest column items = none ↔ ∀ item ∈ items, column item = none := by
  rw [latest, List.getLast?_eq_none_iff, List.filterMap_eq_nil_iff]

theorem exists_latest (among : item ∈ items) (found : (column item).isSome)
    : ∃ value, latest column items = some value := by
  refine Option.ne_none_iff_exists'.mp fun none => ?_
  rw [latest_eq_none_iff.mp none item among] at found
  cases found

/-- The last record has the latest value unless it has none and another one does. -/
theorem latest_eq_last_iff (isLast : items.getLast? = some item)
    : latest column items = column item
      ↔ (column item = none → ∀ other ∈ items, column other = none) := by
  obtain ⟨before, rfl⟩ := List.getLast?_eq_some_iff.mp isLast
  rw [latest_concat]
  cases found : column item with
  | none =>
      rw [Option.none_or, latest_eq_none_iff]
      constructor
      · intro none _ other among
        rcases List.mem_append.mp among with earlier | last
        · exact none other earlier
        · rwa [List.mem_singleton.mp last]
      · intro none other earlier
        exact none rfl other (List.mem_append_left _ earlier)
  | some value => simp only [Option.some_or, reduceCtorEq, false_implies]

end Merges
