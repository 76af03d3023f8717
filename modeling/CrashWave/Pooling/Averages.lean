import Mathlib.Algebra.BigOperators.Group.List.Basic
import Mathlib.Algebra.Order.Field.Basic
import Mathlib.Data.List.Infix
import Mathlib.Data.Nat.Cast.Order.Ring
import Mathlib.Tactic.Linarith

/-! Averages over the segments of a list. When neighbouring segments are joined only where the
average falls, the segments that are left show where averages fall.
-/

namespace Pooling

section Cuts

variable {α : Type*} {left right front : List α}

/-- All members of an ordered list are below its last one. -/
theorem rel_last_of_pairwise {related : α → α → Prop} {last : α}
    (ordered : (front ++ [last]).Pairwise related) (itself : related last last)
    : ∀ member ∈ front ++ [last], related member last := by
  intro member among
  rcases List.mem_append.mp among with earlier | new
  · exact (List.pairwise_append.mp ordered).2.2 member earlier last List.mem_cons_self
  · rw [List.mem_singleton.mp new]
    exact itself

/-- A first part of a concatenation ends in one of its parts. -/
theorem prefix_append_cases (first : front <+: left ++ right)
    : front <+: left ∨ ∃ more, front = left ++ more ∧ more <+: right := by
  obtain ⟨rest, whole⟩ := first
  rcases List.append_eq_append_iff.mp whole with ⟨gap, inner, _⟩ | ⟨more, outer, inner⟩
  · exact .inl ⟨gap, inner.symm⟩
  · exact .inr ⟨more, outer, rest, inner.symm⟩

/-- A last part of a concatenation begins in one of its parts. -/
theorem suffix_append_cases {back : List α} (last : back <:+ left ++ right)
    : back <:+ right ∨ ∃ more, back = more ++ right ∧ more <:+ left := by
  obtain ⟨rest, whole⟩ := last
  rcases List.append_eq_append_iff.mp whole with ⟨more, outer, inner⟩ | ⟨gap, _, inner⟩
  · exact .inr ⟨more, inner, rest, outer.symm⟩
  · exact .inl ⟨gap, inner.symm⟩

/-- A cut of joined segments goes between two of them or through one, by induction on the
segments.
-/
theorem flatten_cut_cases {segments : List (List α)} (whole : segments.flatten = left ++ right)
    : (∃ before after, segments = before ++ after ∧ left = before.flatten
        ∧ right = after.flatten)
      ∨ ∃ before front back after, front ≠ [] ∧ back ≠ []
        ∧ segments = before ++ (front ++ back) :: after
        ∧ left = before.flatten ++ front ∧ right = back ++ after.flatten := by
  induction segments generalizing left with
  | nil =>
      obtain ⟨rfl, rfl⟩ := List.append_eq_nil_iff.mp whole.symm
      exact .inl ⟨[], [], rfl, rfl, rfl⟩
  | cons segment rest ih =>
      rw [List.flatten_cons] at whole
      rcases List.append_eq_append_iff.mp whole with ⟨more, outer, inner⟩ | ⟨back, outer, inner⟩
      · rcases ih inner with ⟨before, after, split, first, second⟩ |
          ⟨before, front, back, after, filled, filled', split, first, second⟩
        · refine .inl ⟨segment :: before, after, by rw [split, List.cons_append], ?_, second⟩
          rw [outer, first, List.flatten_cons]
        · refine .inr ⟨segment :: before, front, back, after, filled, filled',
            by rw [split, List.cons_append], ?_, second⟩
          rw [outer, first, List.flatten_cons, List.append_assoc]
      · by_cases empty : left = []
        · refine .inl ⟨[], segment :: rest, rfl, empty, ?_⟩
          rw [inner, List.flatten_cons, outer, empty, List.nil_append]
        · by_cases empty' : back = []
          · refine .inl ⟨[segment], rest, rfl, ?_, ?_⟩
            · simp [outer, empty']
            · simp [inner, empty']
          · exact .inr ⟨[], left, back, rest, empty, empty', by rw [outer]; rfl, rfl, inner⟩

end Cuts

-----------------------------------------------------------------------------------------
-- Totals and averages
-----------------------------------------------------------------------------------------

variable {α K : Type*} [Field K]

def total (value : α → K) (items : List α) : K := (items.map value).sum

def average (value : α → K) (items : List α) : K := total value items / items.length

variable {value : α → K} {items left right : List α} {level : K}

@[simp] theorem total_append
    : total value (left ++ right) = total value left + total value right := by
  simp [total]

-----------------------------------------------------------------------------------------
-- Segments joined where the average falls
-----------------------------------------------------------------------------------------

variable [LinearOrder K]

/-- Every first part of the segment is on average at least as high as the whole. -/
def Falling (value : α → K) (segment : List α) : Prop :=
  ∀ front, front <+: segment → average value segment * front.length ≤ total value front

/-- The average falls from some part just before the cut to some part just after it. -/
def Drops (value : α → K) (left right : List α) : Prop :=
  ∃ back front, back ≠ [] ∧ front ≠ [] ∧ back <:+ left ∧ front <+: right
    ∧ average value front < average value back

/-- The average falls at every cut of the segment. -/
def Cohesive (value : α → K) (segment : List α) : Prop :=
  ∀ left right, left ≠ [] → right ≠ [] → segment = left ++ right → Drops value left right

/-- A drop stays one when the list goes on around it. -/
theorem Drops.extend (drops : Drops value left right) (before after : List α)
    : Drops value (before ++ left) (right ++ after) := by
  obtain ⟨back, front, filled, filled', last, first, falls⟩ := drops
  exact ⟨back, front, filled, filled', last.trans (List.suffix_append before left),
    first.trans (List.prefix_append right after), falls⟩

/-- Joining segments where the average falls keeps them cohesive. -/
theorem Cohesive.append (first : Cohesive value left) (second : Cohesive value right)
    (falls : average value right < average value left)
    : Cohesive value (left ++ right) := by
  intro before after filled filled' whole
  rcases List.append_eq_append_iff.mp whole with ⟨more, rfl, inner⟩ | ⟨more, inner, rfl⟩
  · by_cases empty : more = []
    · subst empty
      obtain rfl : right = after := inner
      rw [List.append_nil] at filled ⊢
      exact ⟨left, right, filled, filled', List.suffix_rfl, List.prefix_rfl, falls⟩
    · have drops := (second more after empty filled' inner).extend left []
      rwa [List.append_nil] at drops
  · by_cases empty : more = []
    · subst empty
      rw [List.append_nil] at inner
      subst inner
      exact ⟨left, right, filled, filled', List.suffix_rfl, List.prefix_rfl, falls⟩
    · exact (first before more filled empty inner).extend [] right

structure Pooled (value : α → K) (segments : List (List α)) : Prop where
  nonempty : ∀ segment ∈ segments, segment ≠ []
  falling : ∀ segment ∈ segments, Falling value segment
  cohesive : ∀ segment ∈ segments, Cohesive value segment

variable {segments before after : List (List α)}

theorem Pooled.of_subset {others : List (List α)} (pooled : Pooled value segments)
    (among : others ⊆ segments)
    : Pooled value others :=
  ⟨fun segment member => pooled.nonempty segment (among member),
    fun segment member => pooled.falling segment (among member),
    fun segment member => pooled.cohesive segment (among member)⟩

/-- At a cut of pooled segments the average falls, or the cut goes between two of them. -/
theorem Pooled.drops_or_between (pooled : Pooled value segments)
    (whole : segments.flatten = left ++ right)
    : Drops value left right
      ∨ ∃ before after, segments = before ++ after ∧ left = before.flatten
          ∧ right = after.flatten := by
  rcases flatten_cut_cases whole with between |
    ⟨before, front, back, after, filled, filled', split, rfl, rfl⟩
  · exact .inr between
  · have member : front ++ back ∈ segments := by simp [split]
    exact .inl ((pooled.cohesive _ member front back filled filled' rfl).extend _ _)

-----------------------------------------------------------------------------------------
-- What averages say about each other
-----------------------------------------------------------------------------------------

variable [IsStrictOrderedRing K]

theorem cast_length_pos (nonempty : items ≠ []) : (0 : K) < items.length :=
  Nat.cast_pos.mpr (List.length_pos_of_ne_nil nonempty)

theorem average_mul_length (value : α → K) (nonempty : items ≠ [])
    : average value items * items.length = total value items :=
  div_mul_cancel₀ _ (cast_length_pos nonempty).ne'

theorem average_le_iff (nonempty : items ≠ [])
    : average value items ≤ level ↔ total value items ≤ level * items.length :=
  div_le_iff₀ (cast_length_pos nonempty)

theorem le_average_iff (nonempty : items ≠ [])
    : level ≤ average value items ↔ level * items.length ≤ total value items :=
  le_div_iff₀ (cast_length_pos nonempty)

/-- The last parts of a falling segment are on average at most as high as the whole. -/
theorem Falling.back_le {segment back : List α} (falling : Falling value segment)
    (nonempty : segment ≠ []) (last : back <:+ segment)
    : total value back ≤ average value segment * back.length := by
  obtain ⟨front, rfl⟩ := last
  have first := falling front (List.prefix_append front back)
  have whole := average_mul_length value nonempty
  simp only [total_append, List.length_append, Nat.cast_add] at whole
  linarith

/-- The average of two joined segments lies between theirs. -/
theorem average_append_between (filled : left ≠ []) (filled' : right ≠ [])
    (falls : average value right ≤ average value left)
    : average value right ≤ average value (left ++ right)
      ∧ average value (left ++ right) ≤ average value left := by
  have nonempty : left ++ right ≠ [] := by simp [filled]
  have first := average_mul_length value filled
  have second := average_mul_length value filled'
  rw [le_average_iff nonempty, average_le_iff nonempty]
  simp only [total_append, List.length_append, Nat.cast_add, ← first, ← second]
  have lower := mul_le_mul_of_nonneg_right falls (cast_length_pos (K := K) filled).le
  have upper := mul_le_mul_of_nonneg_right falls (cast_length_pos (K := K) filled').le
  constructor <;> linarith

/-- Joining segments where the average falls keeps them falling. -/
theorem Falling.append (first : Falling value left) (second : Falling value right)
    (filled : left ≠ []) (filled' : right ≠ [])
    (falls : average value right ≤ average value left)
    : Falling value (left ++ right) := by
  obtain ⟨lower, upper⟩ := average_append_between filled filled' falls
  intro front isFront
  rcases prefix_append_cases isFront with inLeft | ⟨more, rfl, inRight⟩
  · have bound := mul_le_mul_of_nonneg_right upper (Nat.cast_nonneg (α := K) front.length)
    exact bound.trans (first front inLeft)
  · -- what the rest of the right segment lacks, the whole has too much
    have nonempty : left ++ right ≠ [] := by simp [filled]
    have whole := average_mul_length value nonempty
    have rightWhole := average_mul_length value filled'
    have part := second more inRight
    have shorter : (more.length : K) ≤ right.length := Nat.cast_le.mpr inRight.length_le
    have slack := mul_le_mul_of_nonneg_right lower (sub_nonneg.mpr shorter)
    simp only [total_append, List.length_append, Nat.cast_add] at whole ⊢
    linarith

/-- Single items are pooled: they have no cut. -/
theorem Pooled.singletons (value : α → K) (items : List α)
    : Pooled value (items.map fun item => [item]) := by
  refine ⟨by simp, ?_, ?_⟩
  · intro segment member front first
    obtain ⟨item, _, rfl⟩ := List.mem_map.mp member
    rcases List.prefix_cons_iff.mp first with rfl | ⟨rest, rfl, empty⟩
    · simp [total]
    · obtain rfl := List.prefix_nil.mp empty
      rw [average_mul_length _ (List.cons_ne_nil item [])]
  · intro segment member left right filled filled' whole
    obtain ⟨item, _, rfl⟩ := List.mem_map.mp member
    have lengths := congrArg List.length whole
    have one := List.length_pos_of_ne_nil filled
    have one' := List.length_pos_of_ne_nil filled'
    simp at lengths
    omega

/-- Joining two neighbours where the average falls keeps the segments pooled. -/
theorem Pooled.merge {current next : List α}
    (pooled : Pooled value (before ++ current :: next :: after))
    (falls : average value next < average value current)
    : Pooled value (before ++ (current ++ next) :: after) := by
  have old {Law : List α → Prop}
      (all : ∀ segment ∈ before ++ current :: next :: after, Law segment)
      (joined : Law current → Law next → Law (current ++ next))
      : ∀ segment ∈ before ++ (current ++ next) :: after, Law segment := by
    simp only [List.mem_append, List.mem_cons] at all ⊢
    intro segment member
    rcases member with earlier | rfl | later
    · exact all segment (.inl earlier)
    · exact joined (all current (by simp)) (all next (by simp))
    · exact all segment (.inr (.inr (.inr later)))
  have filled : current ≠ [] := pooled.nonempty current (by simp)
  have filled' : next ≠ [] := pooled.nonempty next (by simp)
  refine ⟨old pooled.nonempty ?_, old pooled.falling ?_, old pooled.cohesive ?_⟩
  · intro _ _
    simp [filled]
  · intro first second
    exact first.append second filled filled' falls.le
  · intro first second
    exact first.append second falls

/-- A last part of pooled segments below a level is on average below it, by induction on the
segments.
-/
theorem Pooled.back_le (pooled : Pooled value segments)
    (bounded : ∀ segment ∈ segments, average value segment ≤ level)
    {back : List α} (last : back <:+ segments.flatten)
    : total value back ≤ level * back.length := by
  induction segments generalizing back with
  | nil =>
      obtain rfl : back = [] := List.suffix_nil.mp last
      simp [total]
  | cons segment rest ih =>
      obtain ⟨below, bounded⟩ := List.forall_mem_cons.mp bounded
      have filled : segment ≠ [] := pooled.nonempty segment List.mem_cons_self
      have falling : Falling value segment := pooled.falling segment List.mem_cons_self
      have others : Pooled value rest := pooled.of_subset (List.subset_cons_self segment rest)
      rw [List.flatten_cons] at last
      rcases suffix_append_cases last with inside | ⟨more, rfl, part⟩
      · exact ih others bounded inside
      · have tail := ih others bounded List.suffix_rfl
        have head := falling.back_le filled part
        have bound := mul_le_mul_of_nonneg_right below (Nat.cast_nonneg (α := K) more.length)
        simp only [total_append, List.length_append, Nat.cast_add]
        linarith

/-- A first part of pooled segments above a level is on average above it, by induction on the
segments.
-/
theorem Pooled.le_front (pooled : Pooled value segments)
    (bounded : ∀ segment ∈ segments, level ≤ average value segment)
    {front : List α} (first : front <+: segments.flatten)
    : level * front.length ≤ total value front := by
  induction segments generalizing front with
  | nil =>
      obtain rfl : front = [] := List.prefix_nil.mp first
      simp [total]
  | cons segment rest ih =>
      obtain ⟨above, bounded⟩ := List.forall_mem_cons.mp bounded
      have filled : segment ≠ [] := pooled.nonempty segment List.mem_cons_self
      have falling : Falling value segment := pooled.falling segment List.mem_cons_self
      have others : Pooled value rest := pooled.of_subset (List.subset_cons_self segment rest)
      have bound (count : Nat) := mul_le_mul_of_nonneg_right above (Nat.cast_nonneg (α := K) count)
      rw [List.flatten_cons] at first
      rcases prefix_append_cases first with inside | ⟨more, rfl, part⟩
      · exact (bound front.length).trans (falling front inside)
      · have tail := ih others bounded part
        have head := average_mul_length value filled
        have bound' := bound segment.length
        simp only [total_append, List.length_append, Nat.cast_add]
        linarith

/-- Between pooled segments in order the average does not fall: the last segment before the cut
is a level between.
-/
theorem Pooled.not_drops (pooled : Pooled value (before ++ after))
    (sorted : (before ++ after).Pairwise fun left right =>
      average value left ≤ average value right)
    : ¬ Drops value before.flatten after.flatten := by
  intro drops
  obtain ⟨back, front, filled, filled', last, first, falls⟩ := drops
  rcases List.eq_nil_or_concat' before with rfl | ⟨earlier, top, rfl⟩
  · exact filled (List.suffix_nil.mp last)
  · obtain ⟨sortedBefore, _, across⟩ := List.pairwise_append.mp sorted
    have below : ∀ segment ∈ earlier ++ [top], average value segment ≤ average value top := by
      intro segment member
      rcases List.mem_append.mp member with old | new
      · exact (List.pairwise_append.mp sortedBefore).2.2 segment old top List.mem_cons_self
      · exact (List.mem_singleton.mp new) ▸ le_rfl
    have above : ∀ segment ∈ after, average value top ≤ average value segment := by
      intro segment member
      exact across top (by simp) segment member
    have lower := (pooled.of_subset (List.subset_append_left _ _)).back_le below last
    have upper := (pooled.of_subset (List.subset_append_right _ _)).le_front above first
    rw [← average_le_iff filled] at lower
    rw [← le_average_iff filled'] at upper
    exact absurd falls (not_lt.mpr (lower.trans upper))

end Pooling
