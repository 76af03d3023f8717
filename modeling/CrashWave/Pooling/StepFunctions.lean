import Mathlib.Order.Interval.Set.Basic
import Mathlib.Data.Set.Monotone

/-! Step functions by the list of their values: a function with constant pieces is monotone
exactly when the list of its values from left to right is in order.
-/

namespace StepFunctions

variable {α β : Type*} [LinearOrder α] [Preorder β] {f : α → β}

/-- The values are those of `f` on the set, and they are in order exactly when `f` is monotone
there.
-/
structure Traces (f : α → β) (values : List β) (set : Set α) : Prop where
  mem_iff : ∀ value, value ∈ values ↔ ∃ x ∈ set, f x = value
  sorted_iff : values.Pairwise (· ≤ ·) ↔ MonotoneOn f set

/-- A constant piece has one value, or none where it is empty. -/
theorem Traces.const {set : Set α} {value : β} {present : Prop} [Decidable present]
    (constant : ∀ x ∈ set, f x = value) (nonempty : present ↔ set.Nonempty)
    : Traces f (if present then [value] else []) set := by
  refine ⟨?_, ?_⟩
  · intro other
    by_cases there : present
    · obtain ⟨x, member⟩ := nonempty.mp there
      simp only [there, if_true, List.mem_singleton]
      constructor
      · intro same
        exact ⟨x, member, (constant x member).trans same.symm⟩
      · intro found
        obtain ⟨y, member', same⟩ := found
        exact same.symm.trans (constant y member')
    · simp only [there, if_false, List.not_mem_nil, false_iff]
      intro found
      obtain ⟨x, member, _⟩ := found
      exact there (nonempty.mpr ⟨x, member⟩)
  · have monotone : MonotoneOn f set := by
      intro x memberX y memberY _
      rw [constant x memberX, constant y memberY]
    have sorted : (if present then [value] else []).Pairwise (· ≤ ·) := by
      split <;> simp
    exact iff_of_true sorted monotone

/-- Neighbouring pieces have the values of both, those of the left one first. -/
theorem Traces.append {left right : Set α} {before after : List β}
    (first : Traces f before left) (second : Traces f after right)
    (separate : ∀ x ∈ left, ∀ y ∈ right, x < y)
    : Traces f (before ++ after) (left ∪ right) := by
  refine ⟨?_, ?_⟩
  · intro value
    simp only [List.mem_append, first.mem_iff, second.mem_iff, Set.mem_union, or_and_right,
      exists_or]
  · rw [List.pairwise_append, first.sorted_iff, second.sorted_iff]
    constructor
    · intro parts x memberX y memberY ordered
      obtain ⟨monotoneLeft, monotoneRight, across⟩ := parts
      rcases memberX with leftX | rightX
      · rcases memberY with leftY | rightY
        · exact monotoneLeft leftX leftY ordered
        · exact across _ ((first.mem_iff _).mpr ⟨x, leftX, rfl⟩) _
            ((second.mem_iff _).mpr ⟨y, rightY, rfl⟩)
      · rcases memberY with leftY | rightY
        · exact absurd (separate y leftY x rightX) (not_lt.mpr ordered)
        · exact monotoneRight rightX rightY ordered
    · intro monotone
      refine ⟨monotone.mono Set.subset_union_left, monotone.mono Set.subset_union_right, ?_⟩
      intro lower memberLower upper memberUpper
      obtain ⟨x, leftX, rfl⟩ := (first.mem_iff lower).mp memberLower
      obtain ⟨y, rightY, rfl⟩ := (second.mem_iff upper).mp memberUpper
      exact monotone (.inl leftX) (.inr rightY) (separate x leftX y rightY).le

/-- Functions that agree on the set have the same values there. -/
theorem Traces.congr {g : α → β} {values : List β} {set : Set α} (traces : Traces f values set)
    (agree : ∀ x ∈ set, g x = f x)
    : Traces g values set := by
  refine ⟨?_, ?_⟩
  · intro value
    rw [traces.mem_iff]
    constructor
    · intro found
      obtain ⟨x, member, same⟩ := found
      exact ⟨x, member, (agree x member).trans same⟩
    · intro found
      obtain ⟨x, member, same⟩ := found
      exact ⟨x, member, (agree x member).symm.trans same⟩
  · rw [traces.sorted_iff]
    have same : Set.EqOn f g set := fun x member => (agree x member).symm
    exact ⟨fun monotone => monotone.congr same, fun monotone => monotone.congr same.symm⟩

/-- An interval is the gap before a step, the step beyond its start, and what follows. -/
theorem Ioc_eq_gap_union {reached low high top : α} (starts : reached ≤ low)
    (ordered : low ≤ high) (within : high ≤ top)
    : Set.Ioc reached top
      = Set.Ioo reached low ∪ ({p | reached < p ∧ low ≤ p ∧ p ≤ high} ∪ Set.Ioc high top) := by
  ext p
  simp only [Set.mem_Ioc, Set.mem_union, Set.mem_Ioo, Set.mem_ofPred_eq]
  constructor
  · intro member
    rcases lt_or_ge p low with below | above
    · exact .inl ⟨member.1, below⟩
    · rcases lt_or_ge high p with higher | under
      · exact .inr (.inr ⟨higher, member.2⟩)
      · exact .inr (.inl ⟨member.1, above, under⟩)
  · intro member
    rcases member with inGap | inStep | higher
    · exact ⟨inGap.1, inGap.2.le.trans (ordered.trans within)⟩
    · exact ⟨inStep.1, inStep.2.2.trans within⟩
    · exact ⟨(starts.trans ordered).trans_lt higher.1, higher.2⟩

end StepFunctions
