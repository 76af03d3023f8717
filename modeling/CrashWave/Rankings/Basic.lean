import Mathlib.Data.List.Count
import Mathlib.Data.List.Sort
import Mathlib.Data.List.TakeWhile
import Mathlib.Order.Defs.LinearOrder

/-! Items ranked by a score, the best first and ties in the order in which they came: where an item
stands, and what a ranking that is cut off keeps. Nothing here depends on what is ranked.
-/

namespace Rankings

variable {α κ : Type*} [LinearOrder κ] (score : α → κ)

/-- The first item need not stand behind the second. -/
def Precedes (first second : α) : Prop := score second ≤ score first

instance : DecidableRel (Precedes score) := fun first second =>
  inferInstanceAs (Decidable (score second ≤ score first))

instance : IsTrans α (Precedes score) :=
  ⟨fun _ _ _ first second => le_trans (α := κ) second first⟩

instance : Std.Total (Precedes score) :=
  ⟨fun first second => le_total (score second) (score first)⟩

/-- The items, the best first; ties keep their order. -/
def ranking (items : List α) : List α := items.insertionSort (Precedes score)

/-- No item stands behind a worse one. -/
def Ranked (items : List α) : Prop := items.Pairwise (Precedes score)

/-- How many of the items around an item stand before it. -/
def standing (before : List α) (item : α) (after : List α) : Nat :=
  before.countP (fun other => score item ≤ score other)
    + after.countP fun other => score item < score other

theorem ranking_perm (items : List α) : (ranking score items).Perm items :=
  List.perm_insertionSort _ items

theorem ranking_ranked (items : List α) : Ranked score (ranking score items) :=
  List.pairwise_insertionSort _ items

variable {score}

/-- Only the scores matter. -/
theorem Ranked.of_map_eq {items others : List α} (ranked : Ranked score items)
    (same : others.map score = items.map score) : Ranked score others := by
  have scores : (items.map score).Pairwise fun first second => second ≤ first :=
    List.pairwise_map.mpr ranked
  rw [← same] at scores
  exact (List.pairwise_map (f := score)).mp scores

/-- What is cut off a ranking is no better than what stays. -/
theorem Ranked.cut {items : List α} (ranked : Ranked score items) {limit : Nat} {kept out : α}
    (isKept : kept ∈ items.take limit) (isOut : out ∈ items.drop limit)
    : score out ≤ score kept := by
  rw [Ranked, ← List.take_append_drop limit items] at ranked
  exact (List.pairwise_append.mp ranked).2.2 kept isKept out isOut

/-- An item goes in above one that is no better, by induction on what stands above that. -/
theorem orderedInsert_above {item pivot : α} (better : score pivot ≤ score item)
    (above below : List α)
    : (above ++ pivot :: below).orderedInsert (Precedes score) item
      = above.orderedInsert (Precedes score) item ++ pivot :: below := by
  induction above with
  | nil => exact List.orderedInsert_cons_of_le _ _ better
  | cons head above ih =>
      rw [List.cons_append, List.orderedInsert_cons, List.orderedInsert_cons]
      by_cases first : Precedes score item head
      · rw [if_pos first, if_pos first]
        rfl
      · rw [if_neg first, if_neg first, ih]
        rfl

/-- A worse item goes in below all that are better, by induction on these. -/
theorem orderedInsert_below {item pivot : α} {above : List α} (worse : score item < score pivot)
    (all : ∀ other ∈ above, score item < score other) (below : List α)
    : (above ++ pivot :: below).orderedInsert (Precedes score) item
      = above ++ pivot :: below.orderedInsert (Precedes score) item := by
  induction above with
  | nil => exact List.orderedInsert_of_not_le _ _ (not_le.mpr worse)
  | cons head above ih =>
      obtain ⟨first, others⟩ := List.forall_mem_cons.mp all
      have fails : ¬ Precedes score item head := not_le.mpr first
      rw [List.cons_append, List.orderedInsert_of_not_le _ _ fails, ih others]
      rfl

/-- The items of a ranking down to the first that is no better are the better ones, by induction on
the ranking.
-/
theorem length_takeWhile_better {items : List α} (ranked : Ranked score items) (item : α)
    : (items.takeWhile fun other => ¬ Precedes score item other).length
      = items.countP fun other => score item < score other := by
  induction items with
  | nil => rfl
  | cons head items ih =>
      obtain ⟨below, ranked⟩ := List.pairwise_cons.mp ranked
      by_cases first : score item < score head
      · have holds : ¬ Precedes score item head := not_le.mpr first
        simpa [holds, first] using ih ranked
      · have fails : Precedes score item head := not_lt.mp first
        have none : items.countP (fun other => score item < score other) = 0 := by
          rw [List.countP_eq_zero]
          intro other member
          simpa using (below other member).trans fails
        simp [fails, first, none]

variable (score) in
/-- Above an item stand those before it that are no worse and those after it that are better, by
induction on those before it.
-/
theorem exists_place (before : List α) (item : α) (after : List α)
    : ∃ above below,
        ranking score (before ++ item :: after) = above ++ item :: below
        ∧ above.length = standing score before item after
        ∧ (∀ other ∈ above, score item ≤ score other) := by
  induction before with
  | nil =>
      let sorted := ranking score after
      refine ⟨sorted.takeWhile fun other => ¬ Precedes score item other,
        sorted.dropWhile fun other => ¬ Precedes score item other,
        List.orderedInsert_eq_take_drop _ item sorted, ?_, ?_⟩
      · rw [length_takeWhile_better (ranking_ranked score after), standing, List.countP_nil,
          Nat.zero_add]
        exact (ranking_perm score after).countP_eq _
      · intro other member
        have holds := List.mem_takeWhile_imp member
        exact (not_le.mp (by simpa [Precedes] using holds)).le
  | cons head before ih =>
      obtain ⟨above, below, sorted, length, all⟩ := ih
      have insert : ranking score (head :: before ++ item :: after)
          = (above ++ item :: below).orderedInsert (Precedes score) head := by
        rw [← sorted]
        rfl
      by_cases better : score item ≤ score head
      · refine ⟨above.orderedInsert (Precedes score) head, below, ?_, ?_, ?_⟩
        · rw [insert, orderedInsert_above better]
        · rw [List.orderedInsert_length, length, standing, standing, List.countP_cons_of_pos]
          · omega
          · exact decide_eq_true better
        · intro other member
          rcases (List.mem_orderedInsert _).mp member with rfl | member
          · exact better
          · exact all other member
      · refine ⟨above, below.orderedInsert (Precedes score) head, ?_, ?_, all⟩
        · rw [insert, orderedInsert_below (not_le.mp better)]
          intro other member
          exact (not_le.mp better).trans_le (all other member)
        · rw [length, standing, standing, List.countP_cons_of_neg]
          simpa using better

end Rankings
