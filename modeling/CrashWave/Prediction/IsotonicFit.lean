import CrashWave.Pooling.Basic
import CrashWave.Prediction.IsotonicMonotonicity

/-! What the fit of the isotonic calibrator leaves: blocks that partition the sorted pairs, with
means in order up to the tolerance of the pass.
-/

namespace CrashWave.Isotonic

open Pooling

/-- The law of a fit: the loop ends with the blocks, within twice as many iterations as there are
pairs; the blocks stand for segments of the sorted pairs, have their weight and outcomes in total,
and lie in order; and so do their means, up to 1e-12, and exactly for fewer than one million pairs.
-/
structure FitLaw (pairs : List Pair) (blocks : List Block) : Prop where
  ends : poolLoop Block.violates Block.merge (2 * pairs.length)
    ((sortPairs pairs).map .single, 0) = some blocks
  partition : ∃ segments : List (List Pair), segments.flatten = sortPairs pairs
    ∧ (∀ segment ∈ segments, segment ≠ []) ∧ blocks = segments.map .summary
  weight : (blocks.map (·.weight)).sum = pairs.length
  outcomes : (blocks.map (·.sumY)).sum = pairs.countP (·.y)
  ranges : Laid 0 blocks
  means : blocks.IsChain fun current next => current.mean ≤ next.mean + 1 / 10 ^ 12
  exactMeans : pairs.length < 1000000 →
    blocks.IsChain fun current next => current.mean ≤ next.mean

theorem sortPairs_perm (pairs : List Pair) : (sortPairs pairs).Perm pairs :=
  List.perm_insertionSort _ pairs

theorem length_sortPairs (pairs : List Pair) : (sortPairs pairs).length = pairs.length :=
  (sortPairs_perm pairs).length_eq

/-- The weights of the blocks of some segments count their pairs. -/
theorem sum_weight_summaries (segments : List (List Pair))
    : ((segments.map Block.summary).map (·.weight)).sum = segments.flatten.length := by
  simp [Block.summary, Function.comp_def]

/-- The outcomes of the blocks of some segments are those of their pairs, by induction. -/
theorem sum_sumY_summaries (segments : List (List Pair))
    : ((segments.map Block.summary).map (·.sumY)).sum = segments.flatten.countP (·.y) := by
  induction segments with
  | nil => rfl
  | cons segment rest ih =>
      simp only [List.map_cons, List.sum_cons, List.flatten_cons, List.countP_append] at ih ⊢
      rw [ih]
      rfl

/-- Every fit keeps its law, with enough pairs, and leaves no blocks with fewer. -/
theorem fit_lawful (calibrator : IsotonicCalibrator) (pairs : List Pair)
    : (pairs.length < 30 → (calibrator.fit pairs).blocks = [])
      ∧ (30 ≤ pairs.length → FitLaw pairs (calibrator.fit pairs).blocks) := by
  refine ⟨fun few => by simp [IsotonicCalibrator.fit, few], fun enough => ?_⟩
  obtain ⟨first, others, fitted, fits, chain⟩ := fit_large calibrator (not_lt.mpr enough)
  have pooled : pool Block.violates Block.merge [] ((sortPairs pairs).map .single)
      = first :: others := by
    have blocks := congrArg IsotonicCalibrator.blocks fitted
    simpa [IsotonicCalibrator.fit, not_lt.mpr enough] using blocks
  have laid := fits.laid
  obtain ⟨segments, stand, whole, cohesive⟩ := fits
  rw [fitted]
  constructor
  · rw [← pooled]
    exact poolLoop_eq_pool [] _ (by simp [length_sortPairs])
  · exact ⟨segments, whole, cohesive.nonempty, stand⟩
  · rw [stand, sum_weight_summaries, whole, length_sortPairs]
  · rw [stand, sum_sumY_summaries, whole, (sortPairs_perm pairs).countP_eq]
  · exact laid
  · refine chain.imp fun current next close => ?_
    exact not_lt.mp (of_decide_eq_false close)
  · intro few
    rw [stand] at chain ⊢
    have size : segments.flatten.length < 1000000 := by rwa [whole, length_sortPairs]
    rw [List.isChain_map]
    refine (averages_isChain cohesive size chain).imp fun current next ordered => ?_
    rwa [summary_mean, summary_mean]

theorem fit_oneProbability
    : FitLaw oneProbability (IsotonicCalibrator.new.fit oneProbability).blocks :=
  (fit_lawful .new oneProbability).2 (by decide)

-----------------------------------------------------------------------------------------
-- A fit with falling means
-----------------------------------------------------------------------------------------

/-- A hit at 0.25, and so many misses. -/
def oneHit (misses : Nat) : List Pair :=
  ⟨1 / 4, true, by norm_num, by norm_num⟩
    :: List.replicate misses ⟨1 / 4, false, by norm_num, by norm_num⟩

/-- A block of so many pairs at 0.25, one of which is a hit. -/
def oneHitBlock (weight : Nat) : Block where
  weight
  sumY := 1
  minX := 1 / 4
  maxX := 1 / 4

/-- A block of a miss at 0.25. -/
def missBlock : Block where
  weight := 1
  sumY := 0
  minX := 1 / 4
  maxX := 1 / 4

theorem length_oneHit (misses : Nat) : (oneHit misses).length = misses + 1 := by
  rw [oneHit, List.length_cons, List.length_replicate]

theorem single_oneHit (misses : Nat)
    : (oneHit misses).map .single = oneHitBlock 1 :: List.replicate misses missBlock := by
  rw [oneHit, List.map_cons, List.map_replicate]
  rfl

theorem oneHitBlock_violates {weight : Nat} (some : 0 < weight) (few : weight < 10 ^ 12)
    : (oneHitBlock weight).violates missBlock = true := by
  have positive : (0 : ℚ) < weight := Nat.cast_pos.mpr some
  have below : (weight : ℚ) < 10 ^ 12 := by exact_mod_cast few
  have tolerance : (1 : ℚ) / 10 ^ 12 < 1 / weight := one_div_lt_one_div_of_lt positive below
  refine decide_eq_true ?_
  simpa [oneHitBlock, missBlock, Block.mean] using tolerance

theorem oneHitBlock_merge (weight : Nat)
    : (oneHitBlock weight).merge missBlock = oneHitBlock (weight + 1) := rfl

/-- The pass adds the misses to a hit before them, by induction on the misses. -/
theorem pool_misses (misses : Nat) {weight : Nat} (some : 0 < weight)
    (few : weight + misses < 10 ^ 12) (rest : List Block)
    : pool Block.violates Block.merge []
        (oneHitBlock weight :: List.replicate misses missBlock ++ rest)
      = pool Block.violates Block.merge [] (oneHitBlock (weight + misses) :: rest) := by
  induction misses generalizing weight with
  | zero => rfl
  | succ misses ih =>
      rw [List.replicate_succ, List.cons_append, List.cons_append, pool,
        if_pos (oneHitBlock_violates some (by omega)), oneHitBlock_merge]
      rw [← List.cons_append, ih (Nat.succ_pos weight) (by omega), Nat.succ_add_eq_add_succ]

/-- The pass adds the misses to the second of two hits, as long as that does not get too small: by
induction on the misses.
-/
theorem pool_second {first : Nat} (misses : Nat) {weight : Nat} (some : 0 < weight)
    (few : weight + misses < 10 ^ 12)
    (close : ∀ between, weight ≤ between → between ≤ weight + misses →
      ¬ (oneHitBlock first).violates (oneHitBlock between) = true)
    : pool Block.violates Block.merge []
        (oneHitBlock first :: oneHitBlock weight :: List.replicate misses missBlock)
      = [oneHitBlock first, oneHitBlock (weight + misses)] := by
  induction misses generalizing weight with
  | zero =>
      rw [List.replicate_zero, pool, if_neg (close weight le_rfl (Nat.le_add_right _ _)), pool]
      rfl
  | succ misses ih =>
      rw [List.replicate_succ, pool, if_neg (close weight le_rfl (Nat.le_add_right _ _)), pool,
        if_pos (oneHitBlock_violates some (by omega)), oneHitBlock_merge]
      refine (ih (Nat.succ_pos weight) (by omega) ?_).trans ?_
      · intro between above below
        exact close between (by omega) (by omega)
      · rw [Nat.succ_add_eq_add_succ]

/-- Of a million pairs and a million and one, one each is a hit. -/
def nearTie : List Pair := oneHit 999999 ++ oneHit 1000000

theorem sortPairs_nearTie : sortPairs nearTie = nearTie := by
  have same : ∀ pair ∈ nearTie, pair.p = 1 / 4 := by
    intro pair member
    simp only [nearTie, oneHit, List.mem_append, List.mem_cons, List.mem_replicate] at member
    rcases member with (rfl | ⟨-, rfl⟩) | rfl | ⟨-, rfl⟩ <;> rfl
  refine List.Pairwise.insertionSort_eq (List.pairwise_of_forall_mem_list ?_)
  intro first member second member'
  rw [same first member, same second member']

/-- One pair leaves no blocks; and two blocks whose means differ by less than the tolerance stay
apart, though the first is above the second.
-/
theorem fit_falls
    : (IsotonicCalibrator.new.fit (oneHit 0)).blocks = []
      ∧ (IsotonicCalibrator.new.fit nearTie).blocks = [oneHitBlock 1000000, oneHitBlock 1000001]
      ∧ (oneHitBlock 1000001).mean < (oneHitBlock 1000000).mean := by
  have large : ¬ nearTie.length < 30 := by
    rw [nearTie, List.length_append, length_oneHit, length_oneHit]
    norm_num
  have close : ∀ between, 1 ≤ between → between ≤ 1 + 1000000 →
      ¬ (oneHitBlock 1000000).violates (oneHitBlock between) = true := by
    intro between some few violates
    have above : (1 : ℚ) / between + 1 / 10 ^ 12 < 1 / 1000000 := by
      simpa [Block.violates, Block.mean, oneHitBlock] using violates
    have positive : (0 : ℚ) < between := Nat.cast_pos.mpr some
    have bound : (between : ℚ) ≤ 1000001 := by exact_mod_cast few
    have least : (1 : ℚ) / 1000001 ≤ 1 / between := one_div_le_one_div_of_le positive bound
    norm_num at above least
    linarith
  refine ⟨by simp [IsotonicCalibrator.fit, oneHit], ?_, ?_⟩
  · simp only [IsotonicCalibrator.fit, if_neg large, sortPairs_nearTie]
    rw [nearTie, List.map_append, single_oneHit, single_oneHit,
      pool_misses 999999 Nat.zero_lt_one (by norm_num)]
    exact pool_second 1000000 Nat.zero_lt_one (by norm_num) close
  · norm_num [oneHitBlock, Block.mean]

end CrashWave.Isotonic
