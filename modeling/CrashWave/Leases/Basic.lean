import Mathlib.Logic.Function.Basic
import Mathlib.Data.Set.Insert

/-! Leases of keys: a value that a key has until a time, granted when the key has none, renewed
and surrendered by who owns it. Nothing here depends on the kinds of keys, values and times.
-/

namespace Leases

variable {κ ν θ : Type*}

/-- A value and the time at which it expires. -/
structure Lease (ν θ : Type*) where
  value : ν
  expiresAt : θ
  deriving DecidableEq

/-- What is stored under every key. A lease that expires stays until it is replaced. -/
abbrev Table (κ ν θ : Type*) := κ → Option (Lease ν θ)

namespace Table

variable [DecidableEq κ] {table : Table κ ν θ} {lease : Lease ν θ}

/-- The lease of a key, if it is owned, is removed. -/
def surrender (table : Table κ ν θ) (key : κ) (owns : ν → Bool) : Table κ ν θ :=
  if (table key).any fun lease => owns lease.value then Function.update table key none
  else table

/-- A surrender leaves the other keys as they are, and its own one if the lease is not owned. -/
theorem surrender_eq_of_not_owns {key place : κ} {owns : ν → Bool}
    (stored : table place = some lease) (foreign : place = key → owns lease.value = false)
    : table.surrender key owns place = some lease := by
  unfold surrender
  split
  · next owned =>
      have elsewhere : place ≠ key := by
        intro same
        simp [← same, stored, foreign same] at owned
      rw [Function.update_of_ne elsewhere, stored]
  · exact stored

end Table

/-- Every lease that is stored meets a condition on its key and value. -/
def Stores (condition : κ → ν → Prop) (table : Table κ ν θ) : Prop :=
  ∀ key lease, table key = some lease → condition key lease.value

namespace Stores

variable [DecidableEq κ] {condition : κ → ν → Prop} {table : Table κ ν θ} {key : κ}
  {lease : Lease ν θ}

theorem update (stores : Stores condition table) (met : condition key lease.value)
    : Stores condition (Function.update table key (some lease)) := by
  intro place held found
  by_cases same : place = key
  · subst same
    rw [Function.update_self] at found
    obtain rfl := Option.some_inj.mp found
    exact met
  · rw [Function.update_of_ne same] at found
    exact stores place held found

theorem surrender (stores : Stores condition table) (key : κ) (owns : ν → Bool)
    : Stores condition (table.surrender key owns) := by
  intro place held found
  unfold Table.surrender at found
  split at found
  · by_cases same : place = key
    · subst same
      simp at found
    · rw [Function.update_of_ne same] at found
      exact stores place held found
  · exact stores place held found

end Stores

variable [LE θ] {now : θ} {key : κ} {lease other : Lease ν θ}

def Lease.Live (lease : Lease ν θ) (now : θ) : Prop := ¬ lease.expiresAt ≤ now

instance [DecidableLE θ] : Decidable (lease.Live now) := inferInstanceAs (Decidable (¬ _))

/-- A lease that is live at a time was so before it. -/
theorem Lease.Live.before {later : θ} [IsTrans θ (· ≤ ·)] (passed : now ≤ later)
    (live : lease.Live later)
    : lease.Live now :=
  fun expired => live (IsTrans.trans _ _ _ expired passed)

namespace Table

variable [DecidableLE θ] {table : Table κ ν θ}

/-- The live lease of a key. -/
def live (table : Table κ ν θ) (now : θ) (key : κ) : Option (Lease ν θ) :=
  (table key).filter fun lease => decide (lease.Live now)

theorem live_eq_some_iff
    : table.live now key = some lease ↔ table key = some lease ∧ lease.Live now := by
  simp [live, Option.filter_eq_some_iff]

variable [DecidableEq κ]

/-- A live lease after a write is the one that was written, or that of another key. -/
theorem live_update_cases {place : κ} {written : Option (Lease ν θ)}
    (live : Table.live (Function.update table key written) now place = some lease)
    : place = key ∧ written = some lease ∨ place ≠ key ∧ table.live now place = some lease := by
  obtain ⟨stored, unexpired⟩ := live_eq_some_iff.mp live
  by_cases same : place = key
  · subst same
    rw [Function.update_self] at stored
    exact .inl ⟨rfl, stored⟩
  · rw [Function.update_of_ne same] at stored
    exact .inr ⟨same, live_eq_some_iff.mpr ⟨stored, unexpired⟩⟩

/-- A key without a live lease gets one. -/
def grant (table : Table κ ν θ) (now : θ) (key : κ) (lease : Lease ν θ) : Table κ ν θ :=
  match table.live now key with
  | none => Function.update table key (some lease)
  | some _ => table

/-- The live lease of a key, if it is owned, expires at another time. -/
def renew (table : Table κ ν θ) (now : θ) (key : κ) (owns : ν → Bool) (expiresAt : θ)
    : Table κ ν θ :=
  match table.live now key with
  | none => table
  | some lease =>
      if owns lease.value then Function.update table key (some { lease with expiresAt })
      else table

/-- A key without a live lease has the one that it is granted. -/
theorem grant_of_free (free : table.live now key = none)
    : table.grant now key lease = Function.update table key (some lease) := by
  rw [grant, free]

theorem grant_of_live (live : table.live now key = some other)
    : table.grant now key lease = table := by
  rw [grant, live]

theorem renew_of_owns {owns : ν → Bool} {expiresAt : θ} (live : table.live now key = some lease)
    (owned : owns lease.value = true)
    : table.renew now key owns expiresAt
      = Function.update table key (some { lease with expiresAt }) := by
  rw [renew, live]
  exact if_pos owned

end Table

namespace Stores

variable [DecidableLE θ] [DecidableEq κ] {condition : κ → ν → Prop} {table : Table κ ν θ}

theorem grant (stores : Stores condition table) (met : condition key lease.value)
    : Stores condition (table.grant now key lease) := by
  unfold Table.grant
  split
  · exact stores.update met
  · exact stores

/-- A lease that is renewed keeps its value. -/
theorem renew (stores : Stores condition table) (key : κ) (owns : ν → Bool) (expiresAt : θ)
    : Stores condition (table.renew now key owns expiresAt) := by
  unfold Table.renew
  split
  · exact stores
  · next lease live =>
      split_ifs
      · exact stores.update (stores key lease (Table.live_eq_some_iff.mp live).1)
      · exact stores

end Stores

-----------------------------------------------------------------------------------------
-- Claims
-----------------------------------------------------------------------------------------

/-- Every claim whose lease is live is backed by the lease that its key has. -/
def Backed (now : θ) (table : Table κ ν θ) (claims : Set (κ × Lease ν θ)) : Prop :=
  ∀ key lease, (key, lease) ∈ claims → lease.Live now → table key = some lease

namespace Backed

variable {table : Table κ ν θ} {claims fewer : Set (κ × Lease ν θ)}

/-- No claims are backed by any table. -/
theorem empty (now : θ) (table : Table κ ν θ) : Backed now table ∅ := by
  intro key lease claimed
  exact claimed.elim

theorem mono (backed : Backed now table claims) (subset : fewer ⊆ claims)
    : Backed now table fewer :=
  fun key lease claimed => backed key lease (subset claimed)

/-- Time does not take the backing away. -/
theorem later {time : θ} [IsTrans θ (· ≤ ·)] (backed : Backed now table claims)
    (passed : now ≤ time)
    : Backed time table claims :=
  fun key lease claimed live => backed key lease claimed (live.before passed)

/-- Live claims of one key are claims of one lease. -/
theorem unique (backed : Backed now table claims) (claimed : (key, lease) ∈ claims)
    (live : lease.Live now) (claimedToo : (key, other) ∈ claims) (liveToo : other.Live now)
    : lease = other :=
  Option.some_inj.mp
    ((backed key lease claimed live).symm.trans (backed key other claimedToo liveToo))

/-- A surrender by someone who owns none of the claims leaves them as they are. -/
theorem surrender [DecidableEq κ] {owns : ν → Bool} (backed : Backed now table claims)
    (foreign : ∀ lease, (key, lease) ∈ claims → owns lease.value = false)
    : Backed now (table.surrender key owns) claims := by
  intro place lease claimed live
  refine Table.surrender_eq_of_not_owns (backed place lease claimed live) ?_
  rintro rfl
  exact foreign lease claimed

variable [DecidableLE θ]

/-- A key of which a live lease is claimed is not free. -/
theorem live_eq (backed : Backed now table claims) (claimed : (key, lease) ∈ claims)
    (live : lease.Live now)
    : table.live now key = some lease :=
  Table.live_eq_some_iff.mpr ⟨backed key lease claimed live, live⟩

variable [DecidableEq κ]

/-- A lease that is granted can be claimed. -/
theorem grant_insert (backed : Backed now table claims) (free : table.live now key = none)
    (lease : Lease ν θ)
    : Backed now (table.grant now key lease) (insert (key, lease) claims) := by
  intro place held claimed live
  rw [Table.grant_of_free free]
  rcases Set.mem_insert_iff.mp claimed with new | old
  · obtain ⟨rfl, rfl⟩ := Prod.mk.inj new
    exact Function.update_self ..
  · have elsewhere : place ≠ key := by
      rintro rfl
      simp [backed.live_eq old live] at free
    rw [Function.update_of_ne elsewhere]
    exact backed place held old live

/-- A grant leaves what is claimed as it is. -/
theorem grant (backed : Backed now table claims) (key : κ) (lease : Lease ν θ)
    : Backed now (table.grant now key lease) claims := by
  cases found : table.live now key with
  | none => exact (backed.grant_insert found lease).mono (Set.subset_insert _ _)
  | some held =>
      rw [Table.grant_of_live found]
      exact backed

/-- A lease that its owner renews can be claimed, where nobody else claims one of its key. -/
theorem renew_insert {owns : ν → Bool} (backed : Backed now table claims)
    (found : table.live now key = some lease) (owned : owns lease.value = true)
    (foreign : ∀ other, (key, other) ∈ claims → owns other.value = false) (expiresAt : θ)
    : Backed now (table.renew now key owns expiresAt)
        (insert (key, { lease with expiresAt }) claims) := by
  intro place held claimed live
  rw [Table.renew_of_owns found owned]
  rcases Set.mem_insert_iff.mp claimed with new | old
  · obtain ⟨rfl, rfl⟩ := Prod.mk.inj new
    exact Function.update_self ..
  · have elsewhere : place ≠ key := by
      rintro rfl
      have same : lease = held :=
        Option.some_inj.mp (found.symm.trans (backed.live_eq old live))
      simp [same, foreign held old] at owned
    rw [Function.update_of_ne elsewhere]
    exact backed place held old live

end Backed
end Leases
