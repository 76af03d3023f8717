import Mathlib.Algebra.Order.Group.Defs
import Mathlib.Algebra.Order.Sub.Basic
import Mathlib.Data.List.Count

/-! Rates over sliding windows: times that are admitted only while the window that trails
the question has room stay within the limit in every window, and times that are counted in windows
that follow each other stay within twice the limit. Nothing here depends on what happens at the
times.
-/

namespace Windows

variable {T : Type*} [AddCommGroup T] [LinearOrder T]

/-- The times in the half-open window of a width that ends with `now`. -/
def trailing (now width : T) (times : List T) : List T :=
  times.filter fun time => now - time < width

/-- The times in the half-open window of a width that begins with `start`. -/
def window (start width : T) (times : List T) : List T :=
  times.filter fun time => start ≤ time ∧ time < start + width

/-- No window of the width holds more times than the limit. -/
def WithinRate (width : T) (limit : Nat) (times : List T) : Prop :=
  ∀ start, (window start width times).length ≤ limit

variable {now asked later width span : T} {limit : Nat} {times : List T}

theorem trailing_append (earlier newer : List T)
    : trailing now width (earlier ++ newer)
      = trailing now width earlier ++ trailing now width newer :=
  List.filter_append ..

theorem withinRate_nil : WithinRate width limit ([] : List T) := fun _ => Nat.zero_le _

variable [IsOrderedAddMonoid T]

/-- What a wider window has dropped, a later narrower one does not miss. -/
theorem trailing_filter (order : now ≤ later) (narrower : width ≤ span)
    : trailing later width (times.filter fun time => now - span ≤ time)
      = trailing later width times := by
  rw [trailing, trailing, List.filter_filter]
  apply List.filter_congr
  intro time _
  have kept : later - time < width → now - span ≤ time := by
    intro inside
    have within : now - time ≤ span :=
      (sub_le_sub_right order time).trans (inside.le.trans narrower)
    exact sub_le_comm.mp within
  simpa using kept

/-- A window that reaches a time asked for no later trails it as a whole. -/
theorem window_length_le (order : asked ≤ now) {start : T} (reached : now < start + width)
    : (window start width times).length ≤ (trailing asked width times).length := by
  rw [window, trailing, ← List.countP_eq_length_filter, ← List.countP_eq_length_filter]
  apply List.countP_mono_left
  intro time _ inside
  obtain ⟨after, -⟩ := of_decide_eq_true inside
  apply decide_eq_true
  calc asked - time ≤ now - start := sub_le_sub order after
    _ < width := sub_lt_iff_lt_add'.mpr reached

/-- A time admitted while its trailing window had room keeps every window within the limit. -/
theorem WithinRate.concat (rate : WithinRate width limit times) (order : asked ≤ now)
    (room : (trailing asked width times).length < limit)
    : WithinRate width limit (times ++ [now]) := by
  intro start
  rw [window, List.filter_append, List.length_append]
  by_cases inside : start ≤ now ∧ now < start + width
  · have others : (window start width times).length ≤ _ := window_length_le order inside.2
    rw [window] at others
    have own : ([now].filter fun time => start ≤ time ∧ time < start + width).length = 1 := by
      simp [inside]
    omega
  · have own : ([now].filter fun time => start ≤ time ∧ time < start + width).length = 0 := by
      simp [inside]
    have old := rate start
    rw [window] at old
    omega

-----------------------------------------------------------------------------------------
-- Windows that follow each other
-----------------------------------------------------------------------------------------

/-- How many times a closed window holds. -/
def inside (start width : T) (times : List T) : Nat :=
  times.countP fun time => start ≤ time ∧ time ≤ start + width

/-- Times that were counted in windows that follow each other: the ones of the window that starts at
`start`, as many as the limit at most in the one before, and older ones.
-/
structure Paced (width : T) (limit : Nat) (start : T) (older last current : List T) : Prop where
  aged : ∀ time ∈ older, time + width < start
  ended : ∀ time ∈ last, time < start
  few : last.length ≤ limit
  begun : ∀ time ∈ current, start ≤ time ∧ time ≤ start + width
  settled : ∀ first, inside first width (older ++ last) ≤ 2 * limit

variable {start next : T} {older last current : List T}

omit [IsOrderedAddMonoid T] in
theorem inside_append (first : T) (earlier newer : List T)
    : inside first width (earlier ++ newer)
      = inside first width earlier + inside first width newer :=
  List.countP_append

omit [IsOrderedAddMonoid T] in
/-- Before any time there is a window without times. -/
theorem Paced.nil (width : T) (limit : Nat) (start : T) : Paced width limit start [] [] [] where
  aged _ among := by cases among
  ended _ among := by cases among
  few := Nat.zero_le _
  begun _ among := by cases among
  settled _ := Nat.zero_le _

omit [IsOrderedAddMonoid T] in
/-- A time of the current window. -/
theorem Paced.concat (paced : Paced width limit start older last current) (begun : start ≤ now)
    (open' : now ≤ start + width) : Paced width limit start older last (current ++ [now]) where
  aged := paced.aged
  ended := paced.ended
  few := paced.few
  begun time among := by
    rcases List.mem_append.mp among with before | new
    · exact paced.begun time before
    · rw [List.mem_singleton.mp new]
      exact ⟨begun, open'⟩
  settled := paced.settled

/-- A closed window that reaches the current one does not reach the older times. -/
theorem Paced.within (paced : Paced width limit start older last current)
    (few : current.length ≤ limit) (first : T)
    : inside first width (older ++ last ++ current) ≤ 2 * limit := by
  rw [inside_append]
  by_cases reaches : ∃ time ∈ current, first ≤ time ∧ time ≤ first + width
  · obtain ⟨reached, among, -, before⟩ := reaches
    have begun : start ≤ first + width := (paced.begun reached among).1.trans before
    have none : inside first width older = 0 := by
      refine List.countP_eq_zero.mpr fun time among => ?_
      have earlier : time < first :=
        lt_of_add_lt_add_right ((paced.aged time among).trans_le begun)
      simp [not_le.mpr earlier]
    have most : inside first width last ≤ last.length := List.countP_le_length
    have most' : inside first width current ≤ current.length := List.countP_le_length
    have fewer := paced.few
    rw [inside_append, none]
    omega
  · have none : inside first width current = 0 := by
      refine List.countP_eq_zero.mpr fun time among => ?_
      simpa using fun after before => reaches ⟨time, among, after, before⟩
    rw [none]
    exact paced.settled first

/-- The next window, once the current one is over. -/
theorem Paced.turn (paced : Paced width limit start older last current)
    (few : current.length ≤ limit) (positive : 0 ≤ width) (over' : start + width < next)
    : Paced width limit next (older ++ last) current [] where
  aged time among := by
    rcases List.mem_append.mp among with before | recent
    · have begun : start < next := (le_add_of_nonneg_right positive).trans_lt over'
      exact (paced.aged time before).trans begun
    · exact (add_lt_add_left (paced.ended time recent) width).trans over'
  ended time among := (paced.begun time among).2.trans_lt over'
  few := few
  begun _ among := by cases among
  settled := paced.within few

end Windows
