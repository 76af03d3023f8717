import CrashWave.Clusters.Basic
import CrashWave.JavaScript.Number
import Mathlib.Algebra.BigOperators.Fin
import Mathlib.Algebra.Order.BigOperators.Group.Finset
import Mathlib.Algebra.Order.Floor.Semiring
import Mathlib.Analysis.Real.Sqrt

/-! `kMeans` of the learned regimes: the initial centroids are spread over the rows, all rows
start in the first cluster, and the search stops when no assignment changes. Coordinates are
exact, and all rows have the same number of them.
-/

namespace CrashWave.Prediction

open Clusters JavaScript

/-- A feature row. -/
abbrev Row (K : Type*) (dim : Nat) := Fin dim → K

namespace LearnedClustering

variable {K : Type*} [Field K] {dim : Nat}

/-- The sum of `euclidean` before its root is taken. -/
def squaredDistance (a b : Row K dim) : K := ∑ j, (a j - b j) * (a j - b j)

/-- The mean of rows. -/
def meanRow (rows : List (Row K dim)) : Row K dim :=
  fun j => (rows.map fun row => row j).sum / rows.length

/-- The initial centroids: the rows at `Math.floor((i * n) / kk)` for `i < kk`. -/
def initialCentroids (first : Row K dim) (rows : List (Row K dim)) (kk : Number)
    : List (Row K dim) :=
  match kk with
  | .finite count =>
      (List.range ⌈count⌉₊).map fun (i : Nat) =>
        rows.getD ⌊((i * rows.length : Nat) : ℚ) / count⌋₊ first
  | .infinity _ | .nan => []

/-- A turn can be taken: there are `new Array(kk)` counts, and the sums of the first cluster
unless the rows have no coordinates.
-/
def TurnPossible (dim : Nat) (kk : Number) : Prop :=
  match kk with
  | .finite count => count = ⌈count⌉₊ ∧ (0 < ⌈count⌉₊ ∨ dim = 0)
  | .infinity _ | .nan => False

instance (dim : Nat) (kk : Number) : Decidable (TurnPossible dim kk) :=
  match kk with
  | .finite _ => inferInstanceAs (Decidable (_ ∧ _))
  | .infinity _ | .nan => inferInstanceAs (Decidable False)

/-- `kMeans`, or nothing where it throws. The roots of the distances are not taken, since they
are only compared.
-/
def kMeans [LinearOrder K] (rows : List (Row K dim)) (k : Number) (maxIter : Nat)
    : Option (Clustering (Row K dim)) :=
  match rows with
  | [] => some { centroids := [], assignments := [] }
  | first :: rest =>
      let rows := first :: rest
      let kk := Number.min k (.finite rows.length)
      let centroids := initialCentroids first rows kk
      let assignments := List.replicate rows.length 0
      if maxIter = 0 ∨ TurnPossible dim kk then
        some (iterate squaredDistance meanRow rows maxIter centroids assignments)
      else none

/-- There is an initial centroid, and there is only one, or one of them differs from the first
row, or this row is the mean of all.
-/
def Settles (rows : List (Row K dim)) (k : Number) : Prop :=
  match rows with
  | [] => True
  | first :: rest =>
      let rows := first :: rest
      let initial := initialCentroids first rows (Number.min k (.finite rows.length))
      0 < initial.length
      ∧ (initial.length = 1 ∨ (∃ centroid ∈ initial, centroid ≠ first) ∨ meanRow rows = first)

/-- `euclidean`. -/
noncomputable def euclidean (a b : Row ℝ dim) : ℝ := Real.sqrt (squaredDistance a b)

/-- Where all rows start in the first cluster, an update moves its centroid to their mean and
leaves the others.
-/
theorem update_zeros (rows centroids : List (Row K dim)) (cluster : Nat)
    : (update meanRow rows (List.replicate rows.length 0) centroids)[cluster]?
      = (centroids[cluster]?).map fun old =>
          if cluster = 0 ∧ rows ≠ [] then meanRow rows else old := by
  rw [getElem?_update, members_replicate]
  congr 1
  funext old
  by_cases zero : 0 = cluster
  · subst zero
    cases rows <;> simp
  · simp [zero, Ne.symm zero]

theorem squaredDistance_self (a : Row K dim) : squaredDistance a a = 0 := by
  simp [squaredDistance]

omit [Field K] in
/-- The initial centroids are rows. -/
theorem mem_of_mem_initialCentroids {first : Row K dim} {rest : List (Row K dim)}
    {kk : Number} {centroid : Row K dim}
    (initial : centroid ∈ initialCentroids first (first :: rest) kk)
    : centroid ∈ first :: rest := by
  cases kk with
  | infinity negative => cases initial
  | nan => cases initial
  | finite count =>
      obtain ⟨i, among, rfl⟩ := List.mem_map.mp initial
      have below : (i : ℚ) < count := Nat.lt_ceil.mp (List.mem_range.mp among)
      have positive : 0 < count := (Nat.cast_nonneg i).trans_lt below
      have some : (0 : ℚ) < (first :: rest).length := Nat.cast_pos.mpr (Nat.succ_pos _)
      have inside : ⌊((i * (first :: rest).length : Nat) : ℚ) / count⌋₊
          < (first :: rest).length := by
        apply (Nat.floor_lt (by positivity)).mpr
        rw [div_lt_iff₀ positive, Nat.cast_mul, mul_comm]
        exact mul_lt_mul_of_pos_left below some
      rw [List.getD_eq_getElem?_getD, List.getElem?_eq_getElem inside, Option.getD_some]
      exact List.getElem_mem inside

omit [Field K] in
/-- The first row is the first initial centroid. -/
theorem initialCentroids_eq_cons {first : Row K dim} {rest : List (Row K dim)} {kk : Number}
    (some : initialCentroids first (first :: rest) kk ≠ [])
    : ∃ others, initialCentroids first (first :: rest) kk = first :: others := by
  cases kk with
  | infinity negative => exact absurd rfl some
  | nan => exact absurd rfl some
  | finite count =>
      rw [initialCentroids] at some ⊢
      cases size : ⌈count⌉₊ with
      | zero => simp [size] at some
      | succ less =>
          rw [List.range_succ_eq_map, List.map_cons]
          refine ⟨_, congrArg (· :: _) ?_⟩
          simp

variable [LinearOrder K] [IsStrictOrderedRing K]

/-- Only a row itself is at distance zero. -/
theorem eq_of_squaredDistance_le {a b : Row K dim} (near : squaredDistance a b ≤ 0) : a = b := by
  have nonneg : ∀ j ∈ Finset.univ, 0 ≤ (a j - b j) * (a j - b j) :=
    fun j _ => mul_self_nonneg (a j - b j)
  have zero : squaredDistance a b = 0 := near.antisymm (Finset.sum_nonneg nonneg)
  funext j
  have square := (Finset.sum_eq_zero_iff_of_nonneg nonneg).mp zero j (Finset.mem_univ j)
  exact sub_eq_zero.mp (mul_self_eq_zero.mp square)

omit [IsStrictOrderedRing K] in
/-- Distances compare as their squares. -/
theorem euclidean_lt_iff (a b c d : Row ℝ dim)
    : euclidean a b < euclidean c d ↔ squaredDistance a b < squaredDistance c d :=
  Real.sqrt_lt_sqrt_iff (Finset.sum_nonneg fun j _ => mul_self_nonneg (a j - b j))

omit [IsStrictOrderedRing K] in
/-- Centroids that all coincide with the first row take every row to the first cluster. -/
theorem assign_coinciding {rows centroids : List (Row K dim)} {first : Row K dim}
    (some : centroids ≠ []) (coincide : ∀ centroid ∈ centroids, centroid = first)
    : assign squaredDistance rows centroids = List.replicate rows.length 0 := by
  apply List.eq_replicate_iff.mpr
  refine ⟨by rw [assign, List.length_map], fun cluster member => ?_⟩
  obtain ⟨row, -, rfl⟩ := List.mem_map.mp member
  exact nearest_coinciding some coincide row

/-- Centroids that are rows and take every row to the first cluster coincide. -/
theorem coincide_of_assign {rows others : List (Row K dim)} {first : Row K dim}
    (fromRows : ∀ centroid ∈ first :: others, centroid ∈ rows)
    (zeros : assign squaredDistance rows (first :: others) = List.replicate rows.length 0)
    : ∀ centroid ∈ first :: others, centroid = first := by
  intro centroid member
  have zero : nearest squaredDistance (first :: others) centroid = 0 := by
    have assigned : nearest squaredDistance (first :: others) centroid
        ∈ assign squaredDistance rows (first :: others) :=
      List.mem_map_of_mem (fromRows centroid member)
    rw [zeros] at assigned
    exact List.eq_of_mem_replicate assigned
  have near := first_le_of_nearest zero centroid member
  rw [squaredDistance_self] at near
  exact eq_of_squaredDistance_le near

/-- What the first turn leaves when it changes no assignment: centroids that coincide stay at
the nearest only if there is one of them, or if the first row is the mean.
-/
theorem firstTurn_isFixed_iff {first : Row K dim} {rest others : List (Row K dim)}
    (coincide : ∀ centroid ∈ first :: others, centroid = first)
    : IsFixed squaredDistance meanRow (first :: rest)
        (update meanRow (first :: rest) (List.replicate (first :: rest).length 0)
          (first :: others))
        (List.replicate (first :: rest).length 0)
      ↔ (first :: others).length = 1 ∨ meanRow (first :: rest) = first := by
  have moved := update_zeros (first :: rest) (first :: others)
  constructor
  · intro fixed
    by_contra neither
    obtain ⟨several, apart⟩ := not_or.mp neither
    cases others with
    | nil => exact several rfl
    | cons second more =>
        obtain ⟨own, found, bound⟩ := fixed.nearest 0 first 0 rfl rfl
        rw [moved 0] at found
        obtain rfl : meanRow (first :: rest) = own := by simpa using found
        have left : (update meanRow (first :: rest)
            (List.replicate (first :: rest).length 0) (first :: second :: more))[1]?
              = some first := by
          rw [moved 1, coincide second (List.mem_cons_of_mem _ List.mem_cons_self)]
          simp
        have near := bound first (List.mem_of_getElem? left)
        rw [squaredDistance_self] at near
        exact apart (eq_of_squaredDistance_le near).symm
  · intro settles
    have together : ∃ place, ∀ centroid ∈ update meanRow (first :: rest)
        (List.replicate (first :: rest).length 0) (first :: others), centroid = place := by
      refine ⟨meanRow (first :: rest), fun centroid member => ?_⟩
      obtain ⟨cluster, found⟩ := List.mem_iff_getElem?.mp member
      rw [moved cluster, Option.map_eq_some_iff] at found
      obtain ⟨old, at_, rfl⟩ := found
      rcases settles with single | mean
      · obtain rfl : others = [] := by simpa using single
        have only : cluster = 0 := by
          have inside := (List.getElem?_eq_some_iff.mp at_).1
          simpa using inside
        simp [only]
      · rw [coincide old (List.mem_of_getElem? at_), mean]
        split <;> rfl
    obtain ⟨place, together⟩ := together
    have some : update meanRow (first :: rest) (List.replicate (first :: rest).length 0)
        (first :: others) ≠ [] := update_ne_nil (List.cons_ne_nil first others)
    exact isFixed_of_stable some (assign_coinciding some together) update_update

/-- A search that stops because no assignment changes has reached a fixed point exactly if the
input settles.
-/
theorem isFixed_iff_settles (rows : List (Row K dim)) (k : Number) (maxIter : Nat)
    (result : Clustering (Row K dim)) (returns : kMeans rows k maxIter = some result)
    (stopped : result.unchanged = true)
    : IsFixed squaredDistance meanRow rows result.centroids result.assignments
      ↔ Settles rows k := by
  cases rows with
  | nil =>
      obtain rfl := Option.some_inj.mp returns
      cases stopped
  | cons first rest =>
      simp only [kMeans] at returns
      split at returns
      · obtain rfl := Option.some_inj.mp returns
        simp only [Settles]
        generalize Number.min k (.finite (first :: rest).length) = kk at stopped ⊢
        by_cases some : initialCentroids first (first :: rest) kk = []
        · rw [some] at stopped ⊢
          refine iff_of_false (fun fixed => ?_) (fun settles => absurd settles.1 (by simp))
          obtain ⟨cluster, at_⟩ : ∃ cluster,
              (iterate squaredDistance meanRow (first :: rest) maxIter []
                  (List.replicate (first :: rest).length 0)).assignments[0]?
                = Option.some cluster := by
            refine ⟨_, List.getElem?_eq_getElem ?_⟩
            rw [fixed.length]
            exact Nat.succ_pos _
          obtain ⟨own, found, -⟩ := fixed.nearest 0 first cluster rfl at_
          rw [iterate_nil] at found
          cases found
        · obtain ⟨others, initial⟩ := initialCentroids_eq_cons some
          have fromRows : ∀ centroid ∈ first :: others, centroid ∈ first :: rest :=
            fun centroid member => mem_of_mem_initialCentroids (initial ▸ member)
          rw [initial] at stopped ⊢
          rcases iterate_unchanged (List.cons_ne_nil first others) stopped with
            ⟨stays, centroids, assignments⟩ | ⟨changes, fixed⟩
          · have coincide := coincide_of_assign fromRows stays
            rw [centroids, assignments, firstTurn_isFixed_iff coincide]
            have same : (∃ centroid ∈ first :: others, centroid ≠ first) ↔ False :=
              iff_false_intro fun ⟨centroid, member, apart⟩ => apart (coincide centroid member)
            rw [same, false_or]
            exact (and_iff_right (Nat.succ_pos _)).symm
          · refine iff_of_true fixed ⟨Nat.succ_pos _, .inr (.inl ?_)⟩
            by_contra together
            push Not at together
            exact changes (assign_coinciding (List.cons_ne_nil first others) together)
      · cases returns

/-- The row with this one coordinate. -/
def point (x : ℚ) : Row ℚ 1 := fun _ => x

/-- Two pairs of rows whose first members are the initial centroids. -/
theorem twoPairs_isFixed
    : ∃ result, kMeans [point 0, point 10, point 1, point 11] 2 40 = some result
        ∧ result.unchanged = true
        ∧ IsFixed squaredDistance meanRow [point 0, point 10, point 1, point 11]
            result.centroids result.assignments := by
  have ends : (kMeans [point 0, point 10, point 1, point 11] 2 40).map (·.unchanged)
      = some true := by
    decide +kernel
  obtain ⟨result, returns, stopped⟩ := Option.map_eq_some_iff.mp ends
  refine ⟨result, returns, stopped, ?_⟩
  apply (isFixed_iff_settles _ 2 40 result returns stopped).mpr
  refine ⟨by decide +kernel, .inr (.inl ?_)⟩
  have initial : (1 : ℚ) ∈ (initialCentroids (point 0)
      [point 0, point 10, point 1, point 11] (Number.min 2 (.finite 4))).map (· 0) := by
    decide +kernel
  obtain ⟨centroid, member, one⟩ := List.mem_map.mp initial
  refine ⟨centroid, member, ?_⟩
  rintro rfl
  exact absurd one (by decide +kernel)

/-- Two kinds of rows in turn: both initial centroids are at 0, every row starts and stays in
the first cluster, whose centroid then moves to 1/2, and the rows at 0 are nearer to the other.
-/
theorem coinciding_centroids_not_fixed
    : ∃ result, kMeans [point 0, point 1, point 0, point 1] 2 40 = some result
        ∧ result.unchanged = true
        ∧ result.assignments = [0, 0, 0, 0]
        ∧ result.centroids.map (squaredDistance (point 0)) = [1 / 4, 0]
        ∧ ¬ IsFixed squaredDistance meanRow [point 0, point 1, point 0, point 1]
            result.centroids result.assignments := by
  have ends : (kMeans [point 0, point 1, point 0, point 1] 2 40).map (fun result =>
        (result.unchanged, result.assignments,
          result.centroids.map (squaredDistance (point 0))))
      = some (true, [0, 0, 0, 0], [1 / 4, 0]) := by
    decide +kernel
  obtain ⟨result, returns, values⟩ := Option.map_eq_some_iff.mp ends
  simp only [Prod.mk.injEq] at values
  obtain ⟨stopped, assigned, distances⟩ := values
  refine ⟨result, returns, stopped, assigned, distances, fun fixed => ?_⟩
  rw [assigned] at fixed
  obtain ⟨own, found, bound⟩ := fixed.nearest 0 (point 0) 0 rfl rfl
  have far : squaredDistance (point 0) own = 1 / 4 := by
    have entry := congrArg (·[0]?) distances
    simp only [List.getElem?_map, found] at entry
    exact Option.some_inj.mp entry
  have zero : (0 : ℚ) ∈ [1 / 4, (0 : ℚ)] := by simp
  rw [← distances] at zero
  obtain ⟨other, member, near⟩ := List.mem_map.mp zero
  have below := bound other member
  rw [far, near] at below
  exact absurd below (by norm_num)

end LearnedClustering

end CrashWave.Prediction
