import Mathlib.Data.List.Basic
import Mathlib.Logic.Function.Basic

/-! Cooldowns: in each round some keys come up, and a key that came up is held back until it has
cooled down. Nothing here depends on what the keys are or on how time is measured.
-/

namespace Cooldowns

variable {κ τ : Type*}

/-- A round: its time, and the keys that come up in it. -/
structure Round (κ τ : Type*) where
  time : τ
  keys : List κ

variable (cooling : κ → τ → τ → Bool)

/-- The key does not cool down from the last time any more. -/
def ready (last : κ → Option τ) (time : τ) (key : κ) : Bool :=
  (last key).all fun since => !cooling key since time

variable {cooling} in
/-- A key is ready exactly if it has cooled down from its last time. -/
theorem ready_iff {last : κ → Option τ} {key : κ} {time : τ}
    : ready cooling last time key ↔ ∀ since ∈ last key, cooling key since time = false := by
  rw [ready, Option.all_eq_true]
  simp

variable [DecidableEq κ]

/-- The last times after a round: those of the keys that were ready in it are its own. -/
def after (last : κ → Option τ) (round : Round κ τ) (key : κ) : Option τ :=
  if key ∈ round.keys ∧ ready cooling last round.time key then some round.time else last key

/-- In every round of the run, each key that comes up is ready. -/
def AllReady : (κ → Option τ) → List (Round κ τ) → Prop
  | _, [] => True
  | last, round :: rest =>
      (∀ key ∈ round.keys, ready cooling last round.time key)
        ∧ AllReady (after cooling last round) rest

/-- When the key comes up next, it has cooled down. -/
def Rested (key : κ) (since : τ) (rounds : List (Round κ τ)) : Prop :=
  ∀ next ∈ rounds.find? (key ∈ ·.keys), cooling key since next.time = false

/-- A key that comes up in a round has cooled down when it comes up next. -/
def Apart : List (Round κ τ) → Prop
  | [] => True
  | round :: rest => (∀ key ∈ round.keys, Rested cooling key round.time rest) ∧ Apart rest

variable {cooling} {last : κ → Option τ} {round : Round κ τ}

theorem after_of_mem {key : κ} (among : key ∈ round.keys)
    (cooled : ready cooling last round.time key)
    : after cooling last round key = some round.time :=
  if_pos ⟨among, cooled⟩

theorem after_of_not_mem {key : κ} (absent : key ∉ round.keys)
    : after cooling last round key = last key :=
  if_neg fun both => absent both.1

/-- A key that is ready takes its time before the others of the round take theirs. -/
theorem after_update {key : κ} {time : τ} {keys : List κ} (apart : key ∉ keys)
    (cooled : ready cooling last time key)
    : after cooling (Function.update last key (some time)) { time, keys }
      = after cooling last { time, keys := key :: keys } := by
  funext other
  by_cases same : other = key
  · rw [same, after_of_not_mem apart, after_of_mem List.mem_cons_self cooled,
      Function.update_self]
  · simp [after, ready, same]

/-- A key that is not ready changes nothing. -/
theorem after_of_not_ready {key : κ} {time : τ} {keys : List κ}
    (held : ready cooling last time key = false)
    : after cooling last { time, keys } = after cooling last { time, keys := key :: keys } := by
  funext other
  by_cases same : other = key
  · simp [after, same, held]
  · simp [after, same]

theorem rested_cons_of_mem {key : κ} {since : τ} {rest : List (Round κ τ)}
    (among : key ∈ round.keys)
    : Rested cooling key since (round :: rest) ↔ cooling key since round.time = false := by
  have found : (round :: rest).find? (key ∈ ·.keys) = some round :=
    List.find?_cons_of_pos (decide_eq_true among)
  rw [Rested, found]
  simp

theorem rested_cons_of_not_mem {key : κ} {since : τ} {rest : List (Round κ τ)}
    (absent : key ∉ round.keys)
    : Rested cooling key since (round :: rest) ↔ Rested cooling key since rest := by
  rw [Rested, Rested, List.find?_cons_of_neg (by simpa using absent)]

/-- A key that comes up again has cooled down in some round. -/
theorem Rested.exists_cooled {key : κ} {since : τ} {rounds : List (Round κ τ)}
    (rested : Rested cooling key since rounds) (member : round ∈ rounds)
    (among : key ∈ round.keys)
    : ∃ next ∈ rounds, cooling key since next.time = false := by
  have again : (rounds.find? (key ∈ ·.keys)).isSome :=
    List.find?_isSome.mpr ⟨round, member, decide_eq_true among⟩
  obtain ⟨next, found⟩ := Option.isSome_iff_exists.mp again
  exact ⟨next, List.mem_of_find?_eq_some found, rested next found⟩

/-- All keys of a run are ready exactly if they have cooled down from the last times before it and
from one round to the next in which they come up, by induction on the rounds.
-/
theorem allReady_iff (rounds : List (Round κ τ)) (last : κ → Option τ)
    : AllReady cooling last rounds
      ↔ (∀ key, ∀ since ∈ last key, Rested cooling key since rounds) ∧ Apart cooling rounds := by
  induction rounds generalizing last with
  | nil => simp [AllReady, Apart, Rested]
  | cons round rest ih =>
      rw [AllReady, Apart, ih]
      constructor
      · rintro ⟨cooled, rested, apart⟩
        refine ⟨?_, ?_, apart⟩
        · intro key since before
          by_cases among : key ∈ round.keys
          · exact (rested_cons_of_mem among).mpr (ready_iff.mp (cooled key among) since before)
          · apply (rested_cons_of_not_mem among).mpr
            exact rested key since (by rwa [after_of_not_mem among])
        · intro key among
          apply rested key round.time
          rw [after_of_mem among (cooled key among)]
          rfl
      · rintro ⟨rested, here, apart⟩
        have cooled : ∀ key ∈ round.keys, ready cooling last round.time key := by
          intro key among
          apply ready_iff.mpr
          intro since before
          exact (rested_cons_of_mem among).mp (rested key since before)
        refine ⟨cooled, ?_, apart⟩
        intro key since before
        by_cases among : key ∈ round.keys
        · rw [after_of_mem among (cooled key among)] at before
          cases before
          exact here key among
        · rw [after_of_not_mem among] at before
          exact (rested_cons_of_not_mem among).mp (rested key since before)

/-- With no time before the run, it depends on its rounds alone. -/
theorem allReady_none_iff (rounds : List (Round κ τ))
    : AllReady cooling (fun _ => none) rounds ↔ Apart cooling rounds := by
  rw [allReady_iff]
  simp

end Cooldowns
