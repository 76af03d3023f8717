import Mathlib.Data.List.Basic
import Mathlib.Order.Lattice

/-! Clustering by turns: every point goes to its nearest centroid, and every centroid to the center
of its points, until the points stay. Distances and centers are arbitrary.
-/

namespace Clusters

variable {X K : Type*} [LinearOrder K]

/-- The index of the value in the list is the first of those with a least value. -/
def FirstLeast (values : List K) (index : Nat) (least : K) : Prop :=
  values[index]? = some least ∧ (∀ value ∈ values, least ≤ value)
  ∧ ∀ earlier < index, ∀ value, values[earlier]? = some value → least < value

/-- What a scan remembers of the values before `next`: the best index and its value, if any. -/
def scan (best : Nat) (bestValue : Option K) (next : Nat) : List K → Nat
  | [] => best
  | value :: rest =>
      if bestValue.all fun old => value < old then scan next (some value) (next + 1) rest
      else scan best bestValue (next + 1) rest

/-- The scan remembers the first least value of what it has seen. -/
def Remembers (seen : List K) (best : Nat) : Option K → Prop
  | none => seen = []
  | some least => FirstLeast seen best least

theorem FirstLeast.concat_lower {seen : List K} {best : Nat} {least value : K}
    (first : FirstLeast seen best least) (lower : value < least)
    : FirstLeast (seen ++ [value]) seen.length value := by
  refine ⟨List.getElem?_concat_length, ?_, ?_⟩
  · intro other member
    rcases List.mem_append.mp member with old | new
    · exact lower.le.trans (first.2.1 other old)
    · exact (List.mem_singleton.mp new).ge
  · intro earlier before other found
    rw [List.getElem?_append_left before] at found
    exact lower.trans_le (first.2.1 other (List.mem_of_getElem? found))

theorem FirstLeast.concat_other {seen : List K} {best : Nat} {least value : K}
    (first : FirstLeast seen best least) (higher : ¬ value < least)
    : FirstLeast (seen ++ [value]) best least := by
  have inside := (List.getElem?_eq_some_iff.mp first.1).1
  refine ⟨?_, ?_, ?_⟩
  · rw [List.getElem?_append_left inside]
    exact first.1
  · intro other member
    rcases List.mem_append.mp member with old | new
    · exact first.2.1 other old
    · exact List.mem_singleton.mp new ▸ not_lt.mp higher
  · intro earlier before other found
    rw [List.getElem?_append_left (Nat.lt_trans before inside)] at found
    exact first.2.2 earlier before other found

/-- A scan ends with the first least value of all, by induction on what is left. -/
theorem scan_firstLeast {seen rest : List K} {best : Nat} {bestValue : Option K}
    (remembers : Remembers seen best bestValue) (nonempty : seen ++ rest ≠ [])
    : ∃ least, FirstLeast (seen ++ rest) (scan best bestValue seen.length rest) least := by
  induction rest generalizing seen best bestValue with
  | nil =>
      rw [List.append_nil] at nonempty ⊢
      cases bestValue with
      | none => exact absurd remembers nonempty
      | some least => exact ⟨least, remembers⟩
  | cons value rest ih =>
      have whole : seen ++ value :: rest = (seen ++ [value]) ++ rest := by simp
      have count : (seen ++ [value]).length = seen.length + 1 := by simp
      rw [whole] at nonempty ⊢
      rw [scan, ← count]
      cases bestValue with
      | none =>
          obtain rfl : seen = [] := remembers
          refine ih ⟨rfl, ?_, nofun⟩ nonempty
          exact fun other member => (List.mem_singleton.mp member).ge
      | some least =>
          by_cases lower : value < least
          · simp only [Option.all_some, lower, decide_true, if_true]
            exact ih (remembers.concat_lower lower) nonempty
          · simp only [Option.all_some, lower, decide_false, Bool.false_eq_true, if_false]
            exact ih (remembers.concat_other lower) nonempty

variable (distance : X → X → K) (center : List X → X)

/-- The index of the first nearest centroid. -/
def nearest (centroids : List X) (point : X) : Nat :=
  scan 0 none 0 (centroids.map (distance point))

/-- Every point at its nearest centroid. -/
def assign (points centroids : List X) : List Nat := points.map (nearest distance centroids)

omit [LinearOrder K] in
/-- The points of a cluster. -/
def members (points : List X) (assignments : List Nat) (cluster : Nat) : List X :=
  (points.zip assignments).filterMap fun entry =>
    if entry.2 = cluster then some entry.1 else none

/-- Every centroid at the center of its points, where it has some. -/
def update (points : List X) (assignments : List Nat) (centroids : List X) : List X :=
  centroids.mapIdx fun cluster old =>
    match members points assignments cluster with
    | [] => old
    | first :: rest => center (first :: rest)

/-- Centroids and assignments, and whether the search stopped because nothing changed. -/
structure Clustering (X : Type*) where
  centroids : List X
  assignments : List Nat
  unchanged : Bool := false

/-- So many turns at most. -/
def iterate (points : List X) : Nat → List X → List Nat → Clustering X
  | 0, centroids, assignments => { centroids, assignments }
  | fuel + 1, centroids, assignments =>
      let assigned := assign distance points centroids
      let moved := update center points assigned centroids
      if assigned = assignments then
        { centroids := moved, assignments := assigned, unchanged := true }
      else iterate points fuel moved assigned

/-- Every point is assigned to a nearest centroid, and the centroid of every cluster with
points is their center.
-/
structure IsFixed (points centroids : List X) (assignments : List Nat) : Prop where
  length : assignments.length = points.length
  nearest
    : ∀ (i : Nat) (point : X) (cluster : Nat), points[i]? = some point →
        assignments[i]? = some cluster →
        ∃ own, centroids[cluster]? = some own
          ∧ ∀ other ∈ centroids, distance point own ≤ distance point other
  centered
    : ∀ (cluster : Nat) (own : X), centroids[cluster]? = some own →
        members points assignments cluster ≠ [] →
        own = center (members points assignments cluster)

variable {distance center} {points centroids : List X} {assignments : List Nat}

variable (distance) in
theorem nearest_firstLeast (some : centroids ≠ []) (point : X)
    : ∃ least, FirstLeast (centroids.map (distance point))
        (nearest distance centroids point) least := by
  have nonempty : [] ++ centroids.map (distance point) ≠ [] := by simpa using some
  have nothing : Remembers ([] : List K) 0 none := rfl
  exact scan_firstLeast nothing nonempty

variable (distance) in
/-- The nearest centroid is one of them, and none is nearer. -/
theorem nearest_spec (some : centroids ≠ []) (point : X)
    : ∃ own, centroids[nearest distance centroids point]? = Option.some own
        ∧ ∀ other ∈ centroids, distance point own ≤ distance point other := by
  obtain ⟨least, found, bound, -⟩ := nearest_firstLeast distance some point
  rw [List.getElem?_map, Option.map_eq_some_iff] at found
  obtain ⟨own, at_, rfl⟩ := found
  exact ⟨own, at_, fun other member => bound _ (List.mem_map_of_mem member)⟩

/-- Where the centroids coincide, the first one is taken. -/
theorem nearest_coinciding {first : X} (some : centroids ≠ [])
    (coincide : ∀ centroid ∈ centroids, centroid = first) (point : X)
    : nearest distance centroids point = 0 := by
  obtain ⟨least, found, -, earlier⟩ := nearest_firstLeast distance some point
  by_contra later
  obtain ⟨head, rest, rfl⟩ := List.exists_cons_of_ne_nil some
  have same := coincide head List.mem_cons_self
  have below := earlier 0 (Nat.pos_of_ne_zero later) (distance point head) rfl
  rw [List.getElem?_map, Option.map_eq_some_iff] at found
  obtain ⟨own, at_, rfl⟩ := found
  rw [coincide own (List.mem_of_getElem? at_), same] at below
  exact lt_irrefl _ below

/-- A point whose nearest centroid is the first one is at no other one. -/
theorem first_le_of_nearest {first : X} {rest : List X} {point : X}
    (zero : nearest distance (first :: rest) point = 0)
    : ∀ other ∈ first :: rest, distance point first ≤ distance point other := by
  obtain ⟨own, found, bound⟩ := nearest_spec distance (List.cons_ne_nil first rest) point
  rw [zero] at found
  obtain rfl := Option.some_inj.mp found
  exact bound

omit [LinearOrder K] in
/-- Where all points are in one cluster, it has them all and every other one has none. -/
theorem members_replicate (points : List X) (cluster other : Nat)
    : members points (List.replicate points.length cluster) other
      = if cluster = other then points else [] := by
  induction points with
  | nil => simp [members]
  | cons point rest ih =>
      rw [members] at ih ⊢
      rw [List.length_cons, List.replicate_succ, List.zip_cons_cons, List.filterMap_cons]
      by_cases same : cluster = other
      · simp only [same, if_true] at ih ⊢
        rw [ih]
      · simp only [same, if_false] at ih ⊢
        exact ih

@[simp] theorem length_update
    : (update center points assignments centroids).length = centroids.length := by
  simp [update]

theorem update_ne_nil (some : centroids ≠ [])
    : update center points assignments centroids ≠ [] := by
  intro none
  have same : (update center points assignments centroids).length = centroids.length :=
    length_update
  rw [none, List.length_nil] at same
  exact some (List.length_eq_zero_iff.mp same.symm)

theorem getElem?_update (cluster : Nat)
    : (update center points assignments centroids)[cluster]?
      = (centroids[cluster]?).map fun old =>
          match members points assignments cluster with
          | [] => old
          | first :: rest => center (first :: rest) := by
  simp [update]

/-- An updated centroid with points is at their center. -/
theorem update_centered {cluster : Nat} {own : X}
    (found : (update center points assignments centroids)[cluster]? = some own)
    (some : members points assignments cluster ≠ [])
    : own = center (members points assignments cluster) := by
  rw [getElem?_update, Option.map_eq_some_iff] at found
  obtain ⟨old, -, moved⟩ := found
  obtain ⟨first, rest, cons⟩ := List.exists_cons_of_ne_nil some
  rw [cons] at moved ⊢
  exact moved.symm

/-- A second update for the same assignments changes nothing. -/
theorem update_update
    : update center points assignments (update center points assignments centroids)
      = update center points assignments centroids := by
  apply List.ext_getElem?
  intro cluster
  rw [getElem?_update, getElem?_update, Option.map_map]
  congr 1
  funext old
  simp only [Function.comp]
  split <;> rfl

/-- Centroids that the assignments leave in place, and that leave these in place, are fixed. -/
theorem isFixed_of_stable (some : centroids ≠ [])
    (stays : assign distance points centroids = assignments)
    (settled : update center points assignments centroids = centroids)
    : IsFixed distance center points centroids assignments where
  length := by rw [← stays, assign, List.length_map]
  nearest := by
    intro i point cluster atPoint atCluster
    rw [← stays, assign, List.getElem?_map, atPoint, Option.map_some,
      Option.some_inj] at atCluster
    obtain ⟨own, found, bound⟩ := nearest_spec distance some point
    exact ⟨own, atCluster ▸ found, bound⟩
  centered := fun cluster own found => update_centered (settled.symm ▸ found)

/-- From centroids that the assignments leave in place, the search stops at a fixed point, by
induction on the turns.
-/
theorem iterate_isFixed (fuel : Nat) (some : centroids ≠ [])
    (settled : update center points assignments centroids = centroids)
    (unchanged : (iterate distance center points fuel centroids assignments).unchanged = true)
    : IsFixed distance center points
        (iterate distance center points fuel centroids assignments).centroids
        (iterate distance center points fuel centroids assignments).assignments := by
  induction fuel generalizing centroids assignments with
  | zero => cases unchanged
  | succ fuel ih =>
      rw [iterate] at unchanged ⊢
      by_cases stays : assign distance points centroids = assignments
      · simp only [stays, if_true, settled]
        exact isFixed_of_stable some stays settled
      · simp only [stays, if_false] at unchanged ⊢
        exact ih (update_ne_nil some) update_update unchanged

/-- A search that stops does so in its first turn, with centroids that may still have moved, or
at a fixed point.
-/
theorem iterate_unchanged {fuel : Nat} (some : centroids ≠ [])
    (unchanged : (iterate distance center points fuel centroids assignments).unchanged = true)
    : (assign distance points centroids = assignments
        ∧ (iterate distance center points fuel centroids assignments).centroids
          = update center points assignments centroids
        ∧ (iterate distance center points fuel centroids assignments).assignments = assignments)
      ∨ (assign distance points centroids ≠ assignments
        ∧ IsFixed distance center points
          (iterate distance center points fuel centroids assignments).centroids
          (iterate distance center points fuel centroids assignments).assignments) := by
  cases fuel with
  | zero => cases unchanged
  | succ fuel =>
      rw [iterate] at unchanged ⊢
      by_cases stays : assign distance points centroids = assignments
      · left
        simp only [stays, if_true]
        exact ⟨trivial, trivial, trivial⟩
      · right
        refine ⟨stays, ?_⟩
        simp only [stays, if_false] at unchanged ⊢
        exact iterate_isFixed fuel (update_ne_nil some) update_update unchanged

/-- Without centroids there are none in the end. -/
theorem iterate_nil (fuel : Nat)
    : (iterate distance center points fuel [] assignments).centroids = [] := by
  induction fuel generalizing assignments with
  | zero => rfl
  | succ fuel ih =>
      rw [iterate]
      split
      · rfl
      · exact ih

end Clusters
