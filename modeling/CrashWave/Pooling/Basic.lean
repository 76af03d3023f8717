import Mathlib.Data.List.Chain
import Mathlib.Logic.Relation

/-! Pooling of adjacent violators: neighbouring blocks of a list are merged until no two of
them violate the order, by a pass that goes back one block after each merge, and as a loop: an
index into the list of the blocks, of which two are merged in place.
-/

namespace Pooling

variable {β : Type*}

/-- The pass at one of its places: the blocks before it, nearest first, and those from it on. -/
def pool (violates : β → β → Bool) (merge : β → β → β) : (before rest : List β) → List β
  | before, current :: next :: after =>
      if violates current next then
        match before with
        | [] => pool violates merge [] (merge current next :: after)
        | previous :: earlier =>
            pool violates merge earlier (previous :: merge current next :: after)
      else
        pool violates merge (current :: before) (next :: after)
  | before, [current] => before.reverse ++ [current]
  | before, [] => before.reverse
termination_by before rest => before.length + 2 * rest.length

/-- Two neighbours that violate the order become one block. -/
def Merges (violates : β → β → Bool) (merge : β → β → β) (blocks pooled : List β) : Prop :=
  ∃ before current next after,
    violates current next = true ∧ blocks = before ++ current :: next :: after
    ∧ pooled = before ++ merge current next :: after

variable {violates : β → β → Bool} {merge : β → β → β}

/-- The pass only merges violating neighbours, by induction on its steps. -/
theorem pool_merges (before rest : List β)
    : Relation.ReflTransGen (Merges violates merge) (before.reverse ++ rest)
        (pool violates merge before rest) := by
  fun_induction pool violates merge before rest with
  | case1 current next after violating ih =>
      exact .head ⟨[], current, next, after, violating, rfl, rfl⟩ ih
  | case2 current next after violating previous earlier ih =>
      refine .head ⟨(previous :: earlier).reverse, current, next, after, violating, rfl, rfl⟩ ?_
      simpa using ih
  | case3 before current next after ordered ih => simpa using ih
  | case4 before current => exact .refl
  | case5 before => simpa using Relation.ReflTransGen.refl

/-- What every merge of violating neighbours keeps, the pass keeps. -/
theorem pool_keeps {Inv : List β → Prop}
    (kept : ∀ before current next after, violates current next = true →
      Inv (before ++ current :: next :: after) → Inv (before ++ merge current next :: after))
    {blocks : List β} (initial : Inv blocks)
    : Inv (pool violates merge [] blocks) := by
  have merges : Relation.ReflTransGen (Merges violates merge) blocks
      (pool violates merge [] blocks) := pool_merges [] blocks
  generalize pool violates merge [] blocks = pooled at merges ⊢
  induction merges with
  | refl => exact initial
  | tail _ step ih =>
      obtain ⟨before, current, next, after, violating, rfl, rfl⟩ := step
      exact kept before current next after violating ih

/-- No two neighbours violate the order once the pass is through: those up to its place never
do, by induction on its steps.
-/
theorem pool_isChain (before rest : List β)
    (ordered : (rest.take 1 ++ before).IsChain fun next current => violates current next = false)
    : (pool violates merge before rest).IsChain
        fun current next => violates current next = false := by
  fun_induction pool violates merge before rest with
  | case1 current next after violating ih => exact ih (List.isChain_singleton _)
  | case2 current next after violating previous earlier ih =>
      exact ih (List.isChain_cons.mp ordered).2
  | case3 before current next after sorted ih =>
      refine ih (List.isChain_cons_cons.mpr ⟨?_, ordered⟩)
      simpa using sorted
  | case4 before current =>
      have reversed := List.isChain_reverse.mpr ordered
      simpa using reversed
  | case5 before => exact List.isChain_reverse.mpr ordered

-----------------------------------------------------------------------------------------
-- The pass as a loop
-----------------------------------------------------------------------------------------

/-- The blocks and the index of the loop. -/
abbrev Place (β : Type*) := List β × Nat

/-- One iteration, as long as there is a block after the one at the index. -/
def poolStep (violates : β → β → Bool) (merge : β → β → β) (place : Place β) : Option (Place β) :=
  match place.1[place.2]?, place.1[place.2 + 1]? with
  | some current, some next =>
      if violates current next then
        some ((place.1.set place.2 (merge current next)).eraseIdx (place.2 + 1), place.2 - 1)
      else some (place.1, place.2 + 1)
  | _, _ => none

/-- The blocks at the end of the loop, if so many iterations are enough. -/
def poolLoop (violates : β → β → Bool) (merge : β → β → β) : Nat → Place β → Option (List β)
  | 0, place => if (poolStep violates merge place).isNone then some place.1 else none
  | fuel + 1, place =>
      match poolStep violates merge place with
      | none => some place.1
      | some after => poolLoop violates merge fuel after

/-- The iteration at a place between the blocks before it and those from it on. -/
theorem poolStep_between (violates : β → β → Bool) (merge : β → β → β) (before after : List β)
    (current next : β)
    : poolStep violates merge (before ++ current :: next :: after, before.length)
      = if violates current next then
          some (before ++ merge current next :: after, before.length - 1)
        else some (before ++ current :: next :: after, before.length + 1) := by
  have first : (before ++ current :: next :: after)[before.length]? = some current := by simp
  have second : (before ++ current :: next :: after)[before.length + 1]? = some next := by
    rw [List.getElem?_append_right (Nat.le_succ _)]
    simp
  have merged : ((before ++ current :: next :: after).set before.length
        (merge current next)).eraseIdx (before.length + 1)
      = before ++ merge current next :: after := by
    rw [List.set_append_right _ _ le_rfl, List.eraseIdx_append_of_length_le (by omega)]
    simp
  simp only [poolStep, first, second, merged]

/-- At the last block the loop ends. -/
theorem poolStep_last (violates : β → β → Bool) (merge : β → β → β) (before : List β)
    (current : β)
    : poolStep violates merge (before ++ [current], before.length) = none := by
  simp [poolStep]

theorem poolLoop_of_none {place : Place β} (ends : poolStep violates merge place = none)
    (fuel : Nat)
    : poolLoop violates merge fuel place = some place.1 := by
  cases fuel with
  | zero => simp [poolLoop, ends]
  | succ fuel => simp [poolLoop, ends]

theorem poolLoop_of_some {place after : Place β}
    (goesOn : poolStep violates merge place = some after) {fuel : Nat} (more : 0 < fuel)
    : poolLoop violates merge fuel place = poolLoop violates merge (fuel - 1) after := by
  obtain ⟨fuel, rfl⟩ := Nat.exists_eq_succ_of_ne_zero more.ne'
  simp [poolLoop, goesOn]

/-- The loop ends with the blocks of the pass, by induction on the steps of the pass: each takes one
from the number of blocks before the place and twice that of the others.
-/
theorem poolLoop_eq_pool (before rest : List β) {fuel : Nat}
    (enough : before.length + 2 * rest.length ≤ fuel)
    : poolLoop violates merge fuel (before.reverse ++ rest, before.length)
      = some (pool violates merge before rest) := by
  fun_induction pool violates merge before rest generalizing fuel with
  | case1 current next after violating ih =>
      have step := poolStep_between violates merge [] after current next
      rw [if_pos violating] at step
      simp only [List.length_cons, List.length_nil] at enough ih
      refine (poolLoop_of_some step (by omega)).trans ?_
      exact ih (by omega)
  | case2 current next after violating previous earlier ih =>
      have step := poolStep_between violates merge (previous :: earlier).reverse after current next
      rw [if_pos violating, List.length_reverse] at step
      simp only [List.length_cons] at enough ih
      refine (poolLoop_of_some step (by omega)).trans ?_
      have same : (previous :: earlier).reverse ++ merge current next :: after
          = earlier.reverse ++ previous :: merge current next :: after := by
        simp
      rw [same]
      exact ih (by omega)
  | case3 before current next after ordered ih =>
      have step := poolStep_between violates merge before.reverse after current next
      rw [if_neg ordered, List.length_reverse] at step
      simp only [List.length_cons] at enough ih
      refine (poolLoop_of_some step (by omega)).trans ?_
      have same : before.reverse ++ current :: next :: after
          = (current :: before).reverse ++ next :: after := by
        simp
      rw [same]
      exact ih (by omega)
  | case4 before current =>
      have ends := poolStep_last violates merge before.reverse current
      rw [List.length_reverse] at ends
      exact poolLoop_of_none ends fuel
  | case5 before =>
      have ends : poolStep violates merge (before.reverse ++ [], before.length) = none := by
        simp [poolStep]
      rw [poolLoop_of_none ends fuel, List.append_nil]

end Pooling
