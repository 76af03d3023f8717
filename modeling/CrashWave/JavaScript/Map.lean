import Mathlib.Data.List.Basic
import Mathlib.Data.List.Nodup

/-! An insertion-ordered `Map` with one entry for each key. -/

namespace JavaScript

/-- A `Map`: entries in insertion order, no key twice. -/
structure Map (κ ν : Type*) where
  entries : List (κ × ν)
  unique : (entries.map Prod.fst).Nodup

namespace Map

variable {κ ν : Type*} [DecidableEq κ]

/-- `new Map()`. -/
def empty : Map κ ν where
  entries := []
  unique := .nil

instance : EmptyCollection (Map κ ν) := ⟨empty⟩

/-- `map.get(key)`. -/
def get (map : Map κ ν) (key : κ) : Option ν :=
  (map.entries.find? fun entry => entry.1 = key).map Prod.snd

/-- `map.has(key)`. -/
def has (map : Map κ ν) (key : κ) : Bool := (map.get key).isSome

/-- Keeps the entries that pass a test. -/
def filter (map : Map κ ν) (test : κ → ν → Bool) : Map κ ν where
  entries := map.entries.filter fun entry => test entry.1 entry.2
  unique := map.unique.sublist (List.filter_sublist.map Prod.fst)

/-- `map.delete(key)`. -/
def delete (map : Map κ ν) (key : κ) : Map κ ν := map.filter fun other _ => other ≠ key

/-- Changes the value at a key in place, if there is one. -/
def modify (map : Map κ ν) (key : κ) (change : ν → ν) : Map κ ν where
  entries := map.entries.map fun entry =>
    (entry.1, if entry.1 = key then change entry.2 else entry.2)
  unique := by
    simpa only [List.map_map, Function.comp_def] using map.unique

/-- Changes every value in place. -/
def mapValues (map : Map κ ν) (change : ν → ν) : Map κ ν where
  entries := map.entries.map fun entry => (entry.1, change entry.2)
  unique := by
    simpa only [List.map_map, Function.comp_def] using map.unique

/-- `[...map.values()]`. -/
def values (map : Map κ ν) : List ν := map.entries.map Prod.snd

/-- A key that is not found is not among the keys. -/
theorem not_mem_keys_of_get_eq_none {map : Map κ ν} {key : κ} (absent : map.get key = none)
    : key ∉ map.entries.map Prod.fst := by
  simp only [get, Option.map_eq_none_iff, List.find?_eq_none, decide_eq_true_eq] at absent
  intro member
  obtain ⟨entry, found, rfl⟩ := List.mem_map.mp member
  exact absent entry found rfl

/-- `map.set(key, value)`: an existing key keeps its place. -/
def set (map : Map κ ν) (key : κ) (value : ν) : Map κ ν :=
  if absent : map.get key = none then
    { entries := map.entries ++ [(key, value)]
      unique := by
        rw [List.map_append, List.nodup_append]
        refine ⟨map.unique, List.nodup_singleton _, ?_⟩
        intro other member new found same
        rw [List.map_cons, List.map_nil, List.mem_singleton] at found
        subst found same
        exact not_mem_keys_of_get_eq_none absent member }
  else
    map.modify key fun _ => value

/-- The entries of a map are its keys with their values, since no key occurs twice. -/
theorem mem_entries_iff {map : Map κ ν} {key : κ} {value : ν}
    : (key, value) ∈ map.entries ↔ map.get key = some value := by
  obtain ⟨entries, unique⟩ := map
  simp only [get]
  induction entries with
  | nil => simp
  | cons entry rest ih =>
      obtain ⟨other, held⟩ := entry
      rw [List.map_cons, List.nodup_cons] at unique
      by_cases same : other = key
      · subst same
        have absent : (other, value) ∉ rest := fun member =>
          unique.1 (List.mem_map.mpr ⟨_, member, rfl⟩)
        simp [absent, eq_comm]
      · have different : (key, value) ≠ (other, held) := fun equal =>
          same (Prod.mk.inj equal).1.symm
        simp [same, different, ih unique.2]

/-- An empty map has no value at any key. -/
@[simp] theorem get_empty (key : κ) : (∅ : Map κ ν).get key = none := rfl

/-- A filtered map keeps the value of a key exactly when it passes the test, since no key
occurs twice.
-/
theorem get_filter (map : Map κ ν) (test : κ → ν → Bool) (key : κ)
    : (map.filter test).get key = (map.get key).filter (test key) := by
  obtain ⟨entries, unique⟩ := map
  induction entries with
  | nil => rfl
  | cons entry rest ih =>
      obtain ⟨other, value⟩ := entry
      rw [List.map_cons, List.nodup_cons] at unique
      have tail := ih unique.2
      simp only [get, filter, List.filter_cons, List.find?_cons] at tail ⊢
      by_cases same : other = key
      · subst same
        have absent : rest.find? (fun entry => entry.1 = other) = none := by
          simp only [List.find?_eq_none, decide_eq_true_eq]
          intro entry member found
          exact unique.1 (List.mem_map.mpr ⟨entry, member, found⟩)
        rw [absent] at tail
        by_cases passes : test other value = true
        · simp [passes, Option.filter]
        · simp only [passes, Bool.false_eq_true, if_false, tail]
          simp [passes, Option.filter]
      · by_cases passes : test other value = true
        · simpa only [passes, same, if_true, List.find?_cons, decide_false] using tail
        · simpa only [passes, same, Bool.false_eq_true, if_false, decide_false] using tail

/-- A deleted key is gone. -/
@[simp] theorem get_delete_self (map : Map κ ν) (key : κ)
    : (map.delete key).get key = none := by
  rw [delete, get_filter]
  cases map.get key <;> simp

/-- Deleting a key leaves every other one. -/
theorem get_delete_of_ne (map : Map κ ν) {key other : κ} (different : other ≠ key)
    : (map.delete key).get other = map.get other := by
  rw [delete, get_filter]
  cases map.get other <;> simp [different]

/-- Deleting a key adds no entry. -/
theorem get_of_get_delete {map : Map κ ν} {key other : κ} {value : ν}
    (found : (map.delete key).get other = some value)
    : map.get other = some value := by
  by_cases same : other = key
  · subst same
    rw [get_delete_self] at found
    cases found
  · rwa [get_delete_of_ne map same] at found

/-- A change in place maps the value at its key and leaves every other one. -/
theorem get_modify (map : Map κ ν) (key other : κ) (change : ν → ν)
    : (map.modify key change).get other
      = (map.get other).map fun value => if other = key then change value else value := by
  simp only [get, modify]
  induction map.entries with
  | nil => rfl
  | cons entry rest ih =>
      by_cases same : entry.1 = other
      · simp [same]
      · simpa [same] using ih

/-- A change of all values changes the one that is found. -/
@[simp] theorem get_mapValues (map : Map κ ν) (change : ν → ν) (key : κ)
    : (map.mapValues change).get key = (map.get key).map change := by
  simp only [get, mapValues]
  induction map.entries with
  | nil => rfl
  | cons entry rest ih =>
      by_cases same : entry.1 = key
      · simp [same]
      · simpa [same] using ih

/-- The values of a map are the ones that its keys have. -/
theorem mem_values_iff {map : Map κ ν} {value : ν}
    : value ∈ map.values ↔ ∃ key, map.get key = some value := by
  simp only [values, List.mem_map, Prod.exists, exists_eq_right, mem_entries_iff]

/-- A set key reads back its value. -/
@[simp] theorem get_set_self (map : Map κ ν) (key : κ) (value : ν)
    : (map.set key value).get key = some value := by
  unfold set
  split
  · next absent =>
      simp only [get, Option.map_eq_none_iff] at absent
      simp [get, List.find?_append, absent]
  · next found =>
      obtain ⟨old, present⟩ := Option.ne_none_iff_exists'.mp found
      simp [get_modify, present]

/-- Setting a key leaves every other one. -/
theorem get_set_of_ne (map : Map κ ν) {key other : κ} (value : ν) (different : other ≠ key)
    : (map.set key value).get other = map.get other := by
  unfold set
  split
  · simp [get, List.find?_append, different.symm]
  · cases found : map.get other <;> simp [get_modify, found, different]

/-- A key has a value after a write where it had one, and where it is the written one. -/
theorem get_set_ne_none {map : Map κ ν} {key other : κ} {value : ν}
    : (map.set key value).get other ≠ none ↔ other = key ∨ map.get other ≠ none := by
  by_cases same : other = key
  · rw [same, get_set_self]
    exact iff_of_true (Option.some_ne_none _) (.inl rfl)
  · rw [get_set_of_ne map value same]
    exact (or_iff_right same).symm

/-- What holds of the value that is written, and of the other ones, holds of all. -/
theorem forall_get_set {map : Map κ ν} {holds : κ → ν → Prop} {key : κ} {value : ν}
    (new : holds key value)
    (others : ∀ other ≠ key, ∀ held, map.get other = some held → holds other held)
    : ∀ other held, (map.set key value).get other = some held → holds other held := by
  intro other held found
  by_cases same : other = key
  · rw [same, get_set_self] at found
    rw [same, ← Option.some.inj found]
    exact new
  · rw [get_set_of_ne map value same] at found
    exact others other same held found

/-- Keys that are written in turn read back their values, by induction on them. -/
theorem get_foldl_set (keys : List κ) (value : κ → ν) (map : Map κ ν) (other : κ)
    : (keys.foldl (fun written key => written.set key (value key)) map).get other
      = if other ∈ keys then some (value other) else map.get other := by
  induction keys generalizing map with
  | nil => rfl
  | cons key rest ih =>
      rw [List.foldl_cons, ih]
      by_cases later : other ∈ rest
      · rw [if_pos later, if_pos (List.mem_cons_of_mem key later)]
      · by_cases same : other = key
        · subst same
          rw [if_neg later, if_pos List.mem_cons_self, get_set_self]
        · rw [if_neg later, get_set_of_ne map (value key) same, if_neg]
          simp [same, later]

/-- A key that every item with it gives the same value reads that value back, by induction on the
items.
-/
theorem get_foldl_set_of_forall {ι : Type*} (key : ι → κ) (value : ι → ν) {wanted : κ} {result : ν}
    (items : List ι) (map : Map κ ν) (all : ∀ item ∈ items, key item = wanted → value item = result)
    (found : map.get wanted = some result ∨ ∃ item ∈ items, key item = wanted)
    : (items.foldl (fun written item => written.set (key item) (value item)) map).get wanted
      = some result := by
  induction items generalizing map with
  | nil => exact found.resolve_right fun ⟨item, member, _⟩ => absurd member List.not_mem_nil
  | cons item rest ih =>
      rw [List.foldl_cons]
      refine ih _ (fun other member => all other (List.mem_cons_of_mem item member)) ?_
      by_cases same : key item = wanted
      · left
        rw [same, get_set_self, all item List.mem_cons_self same]
      · rw [get_set_of_ne map (value item) (Ne.symm same)]
        refine found.imp_right ?_
        rintro ⟨other, member, equal⟩
        rcases List.mem_cons.mp member with rfl | later
        · exact absurd equal same
        · exact ⟨other, later, equal⟩

end Map

end JavaScript
