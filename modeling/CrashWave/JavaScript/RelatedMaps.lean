import CrashWave.JavaScript.Map
import Mathlib.Algebra.BigOperators.Group.List.Basic
import Mathlib.Data.List.Forall2
import Mathlib.Data.Option.Basic
import Mathlib.Tactic.Abel

/-! What the values of a `Map` weigh together, and how writing one of them moves it; two maps with
the same keys in the same order and related values, and what keeps them so; and maps of bounded
size, which forget the key that was added first.
-/

namespace JavaScript.Map

variable {κ ν μ : Type*} [AddCommMonoid μ]

/-- The sum of what the values of a map weigh. -/
def total (map : Map κ ν) (weight : ν → μ) : μ :=
  (map.entries.map fun entry => weight entry.2).sum

@[simp] theorem total_empty (weight : ν → μ) : (∅ : Map κ ν).total weight = 0 := rfl

variable [DecidableEq κ]

/-- A new key adds what its value weighs. -/
theorem total_set_of_none {map : Map κ ν} {key : κ} (absent : map.get key = none) (value : ν)
    (weight : ν → μ)
    : (map.set key value).total weight = map.total weight + weight value := by
  rw [total, set, dif_pos absent, total]
  simp

/-- Entries with other keys are not changed by a change at a key. -/
theorem modify_entries_of_not_mem (entries : List (κ × ν)) {key : κ}
    (absent : key ∉ entries.map Prod.fst) (change : ν → ν)
    : (entries.map fun entry => (entry.1, if entry.1 = key then change entry.2 else entry.2))
      = entries := by
  have same : ∀ entry ∈ entries,
      (entry.1, if entry.1 = key then change entry.2 else entry.2) = id entry := by
    intro entry member
    have differs : entry.1 ≠ key := by
      rintro rfl
      exact absent (List.mem_map_of_mem member)
    rw [if_neg differs]
    rfl
  rw [List.map_congr_left same, List.map_id]

/-- Of two writes of one key the second one counts. -/
theorem set_set (map : Map κ ν) (key : κ) (first second : ν)
    : (map.set key first).set key second = map.set key second := by
  have again : (map.set key first).set key second
      = (map.set key first).modify key fun _ => second := dif_neg (by simp)
  rw [again]
  by_cases absent : map.get key = none
  · rw [set, dif_pos absent, set, dif_pos absent, modify, Map.mk.injEq]
    dsimp only
    rw [List.map_append,
      modify_entries_of_not_mem _ (not_mem_keys_of_get_eq_none absent) fun _ => second]
    simp
  · rw [set, dif_neg absent, set, dif_neg absent, modify, modify, modify, Map.mk.injEq,
      List.map_map]
    refine List.map_congr_left fun entry _ => ?_
    by_cases same : entry.1 = key <;> simp [same]

/-- A key that is written again weighs what its new value does, instead of its old one. -/
theorem total_set_of_some {map : Map κ ν} {key : κ} {old : ν} (found : map.get key = some old)
    (value : ν) (weight : ν → μ)
    : (map.set key value).total weight + weight old = map.total weight + weight value := by
  obtain ⟨before, after, parts⟩ := List.append_of_mem (mem_entries_iff.mpr found)
  have unique := map.unique
  rw [parts, List.map_append, List.map_cons, List.nodup_middle, List.nodup_cons,
    List.mem_append, not_or] at unique
  obtain ⟨⟨notBefore, notAfter⟩, -⟩ := unique
  dsimp only at notBefore notAfter
  have written : (map.set key value).entries = before ++ (key, value) :: after := by
    rw [set, dif_neg (by simp [found]), modify]
    simp only [parts, List.map_append, List.map_cons, if_true]
    rw [modify_entries_of_not_mem before notBefore fun _ => value,
      modify_entries_of_not_mem after notAfter fun _ => value]
  rw [total, total, written, parts]
  simp only [List.map_append, List.map_cons, List.sum_append, List.sum_cons]
  abel

end JavaScript.Map

-----------------------------------------------------------------------------------------
-- Related maps
-----------------------------------------------------------------------------------------

namespace JavaScript.Map

variable {κ ν ω : Type*} [DecidableEq κ]

/-- The keys of both maps are the same, in order, and their values related. -/
def Related (related : ν → ω → Prop) (map : Map κ ν) (other : Map κ ω) : Prop :=
  List.Forall₂ (fun entry entry' => entry.1 = entry'.1 ∧ related entry.2 entry'.2) map.entries
    other.entries

/-- The map without the key that was added first, if there are as many as may be. -/
def evictFirst (capacity : Nat) (map : Map κ ν) : Map κ ν :=
  match map.entries with
  | (first, _) :: others => if capacity ≤ others.length + 1 then map.delete first else map
  | [] => map

/-- A value is written to a key; a new one may evict the key that was added first. -/
def setBounded (capacity : Nat) (map : Map κ ν) (key : κ) (value : ν) : Map κ ν :=
  if map.get key = none then (map.evictFirst capacity).set key value else map.set key value

variable {related : ν → ω → Prop} {map : Map κ ν} {other : Map κ ω}

omit [DecidableEq κ] in
theorem related_empty : Related related (∅ : Map κ ν) (∅ : Map κ ω) := .nil

omit [DecidableEq κ] in
theorem Related.length_eq (both : Related related map other)
    : map.entries.length = other.entries.length :=
  List.Forall₂.length_eq both

/-- Related maps have values at the same keys, and these are related: by induction on the entries.
-/
theorem Related.get (both : Related related map other) (key : κ)
    : Option.Rel related (map.get key) (other.get key) := by
  unfold Related at both
  simp only [Map.get]
  generalize map.entries = entries at both
  generalize other.entries = entries' at both
  induction both with
  | nil => exact .none
  | @cons entry entry' rest rest' first _ ih =>
      obtain ⟨same, values⟩ := first
      by_cases here : entry.1 = key
      · rw [List.find?_cons_of_pos (by simpa using here),
          List.find?_cons_of_pos (by simpa using same ▸ here)]
        exact .some values
      · rw [List.find?_cons_of_neg (by simpa using here),
          List.find?_cons_of_neg (by simpa using same ▸ here)]
        exact ih

/-- Both lack a key, or they have related values at it. -/
theorem Related.get_cases (both : Related related map other) (key : κ)
    : (map.get key = none ∧ other.get key = none)
      ∨ ∃ value value',
          map.get key = some value ∧ other.get key = some value' ∧ related value value' := by
  have values := both.get key
  generalize map.get key = found at values ⊢
  generalize other.get key = found' at values ⊢
  cases values with
  | none => exact .inl ⟨rfl, rfl⟩
  | some values => exact .inr ⟨_, _, rfl, rfl, values⟩

/-- Related maps lack the same keys. -/
theorem Related.get_eq_none_iff (both : Related related map other) (key : κ)
    : map.get key = none ↔ other.get key = none := by
  rcases both.get_cases key with ⟨lacks, lacks'⟩ | ⟨value, value', found, found', -⟩
  · simp [lacks, lacks']
  · simp [found, found']

/-- Values that are changed at a key. -/
theorem Related.modify (both : Related related map other) (key : κ) {change : ν → ν}
    {change' : ω → ω}
    (kept : ∀ value value', related value value' → related (change value) (change' value'))
    : Related related (map.modify key change) (other.modify key change') := by
  refine List.rel_map ?_ both
  intro entry entry' ⟨same, values⟩
  refine ⟨same, ?_⟩
  simp only [← same]
  split
  · exact kept _ _ values
  · exact values

/-- Without a key, related maps are related. -/
theorem Related.delete (both : Related related map other) (key : κ)
    : Related related (map.delete key) (other.delete key) := by
  refine List.rel_filter ?_ both
  intro entry entry' ⟨same, _⟩
  simp only [same]

omit [DecidableEq κ] in
/-- Values that are all changed on one side. -/
theorem Related.mapValues {related' : ν → ω → Prop} (both : Related related map other)
    {change : ν → ν} (kept : ∀ value value', related value value' → related' (change value) value')
    : Related related' (map.mapValues change) other := by
  refine List.forall₂_map_left_iff.mpr (both.imp ?_)
  intro entry entry' ⟨same, values⟩
  exact ⟨same, kept _ _ values⟩

/-- A value that is written to a key of both maps. -/
theorem Related.set (both : Related related map other) (key : κ) {value : ν} {value' : ω}
    (values : related value value')
    : Related related (map.set key value) (other.set key value') := by
  have lacking := both.get_eq_none_iff key
  unfold Map.set
  by_cases absent : map.get key = none
  · rw [dif_pos absent, dif_pos (lacking.mp absent)]
    exact List.rel_append both (.cons ⟨rfl, values⟩ .nil)
  · rw [dif_neg absent, dif_neg fun absent' => absent (lacking.mpr absent')]
    exact both.modify key fun _ _ _ => values

theorem Related.evictFirst (both : Related related map other) (capacity : Nat)
    : Related related (map.evictFirst capacity) (other.evictFirst capacity) := by
  have same := both
  unfold Related at same
  unfold Map.evictFirst
  cases entries : map.entries with
  | nil =>
      rw [entries, List.forall₂_nil_left_iff] at same
      rw [same]
      exact both
  | cons entry rest =>
      rw [entries, List.forall₂_cons_left_iff] at same
      obtain ⟨entry', rest', first, later, entries'⟩ := same
      rw [entries']
      dsimp only
      rw [← first.1, later.length_eq]
      split
      · exact both.delete entry.1
      · exact both

theorem Related.setBounded (both : Related related map other) (capacity : Nat) (key : κ)
    {value : ν} {value' : ω} (values : related value value')
    : Related related (map.setBounded capacity key value)
        (other.setBounded capacity key value') := by
  have lacking := both.get_eq_none_iff key
  unfold Map.setBounded
  by_cases absent : map.get key = none
  · rw [if_pos absent, if_pos (lacking.mp absent)]
    exact (both.evictFirst capacity).set key values
  · rw [if_neg absent, if_neg fun absent' => absent (lacking.mpr absent')]
    exact both.set key values

-----------------------------------------------------------------------------------------
-- The size of a map
-----------------------------------------------------------------------------------------

theorem length_set (map : Map κ ν) (key : κ) (value : ν)
    : (map.set key value).entries.length
      = if map.get key = none then map.entries.length + 1 else map.entries.length := by
  unfold set
  split
  · simp
  · simp [modify]

/-- Fewer keys are left when one is deleted. -/
theorem length_set_le (map : Map κ ν) (key : κ) (value : ν)
    : (map.set key value).entries.length ≤ map.entries.length + 1 := by
  rw [length_set]
  split
  · exact Nat.le_refl _
  · exact Nat.le_succ _

theorem length_delete_lt {map : Map κ ν} {key : κ} {value : ν} (found : (key, value) ∈ map.entries)
    : (map.delete key).entries.length < map.entries.length := by
  refine List.length_filter_lt_length_iff_exists.mpr ⟨_, found, ?_⟩
  simp

/-- Where there may be a key, a write keeps to the capacity. -/
theorem length_setBounded_le {map : Map κ ν} {capacity : Nat} (positive : 0 < capacity)
    (within : map.entries.length ≤ capacity) (key : κ) (value : ν)
    : (map.setBounded capacity key value).entries.length ≤ capacity := by
  unfold setBounded
  by_cases absent : map.get key = none
  · rw [if_pos absent, length_set]
    have room : (map.evictFirst capacity).entries.length + 1 ≤ capacity := by
      unfold evictFirst
      cases entries : map.entries with
      | nil =>
          rw [entries]
          exact positive
      | cons entry rest =>
          have fewer : (map.delete entry.1).entries.length < map.entries.length :=
            length_delete_lt (entries ▸ List.mem_cons_self)
          rw [entries, List.length_cons] at within fewer
          dsimp only
          split
          · omega
          · rw [entries, List.length_cons]
            omega
    split <;> omega
  · rw [if_neg absent, length_set, if_neg absent]
    exact within

end JavaScript.Map
