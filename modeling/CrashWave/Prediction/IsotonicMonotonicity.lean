import CrashWave.Pooling.Averages
import CrashWave.Pooling.Basic
import CrashWave.Pooling.StepFunctions
import Mathlib.Algebra.Order.Field.Rat
import Mathlib.Data.List.Sort

/-! The isotonic calibrator: the blocks that it fits to pairs of probabilities and outcomes, the
value that it reads off them, and when that value grows with the probability. Means are computed
exactly.
-/

namespace CrashWave.Isotonic

open Pooling StepFunctions

/-- A probability with the outcome that was seen for it. -/
structure Pair where
  p : ℚ
  y : Bool
  nonneg : 0 ≤ p
  le_one : p ≤ 1
  deriving DecidableEq

structure Block where
  weight : Nat
  sumY : Nat
  minX : ℚ
  maxX : ℚ
  deriving DecidableEq

def Block.mean (block : Block) : ℚ := block.sumY / block.weight

def Block.single (pair : Pair) : Block :=
  { weight := 1, sumY := if pair.y then 1 else 0, minX := pair.p, maxX := pair.p }

/-- `meanI > meanNext + 1e-12`. -/
def Block.violates (current next : Block) : Bool :=
  decide (next.mean + 1 / 10 ^ 12 < current.mean)

def Block.merge (current next : Block) : Block where
  weight := current.weight + next.weight
  sumY := current.sumY + next.sumY
  minX := current.minX
  maxX := next.maxX

structure IsotonicCalibrator where
  blocks : List Block
  fitted : Bool
  sampleCount : Nat

/-- `new IsotonicCalibrator()`. -/
def IsotonicCalibrator.new : IsotonicCalibrator :=
  { blocks := [], fitted := false, sampleCount := 0 }

/-- `[...pairs].sort((a, b) => a.p - b.p)`. -/
def sortPairs (pairs : List Pair) : List Pair :=
  pairs.insertionSort fun a b => a.p ≤ b.p

def IsotonicCalibrator.fit (calibrator : IsotonicCalibrator) (pairs : List Pair)
    : IsotonicCalibrator :=
  if pairs.length < 30 then
    { calibrator with fitted := false, blocks := [] }
  else
    let blocks := pool Block.violates Block.merge [] ((sortPairs pairs).map .single)
    { blocks, fitted := decide (blocks.length > 0), sampleCount := pairs.length }

/-- `Math.min(0.99, Math.max(0.01, value))`. -/
def clamp (value : ℚ) : ℚ := min (99 / 100) (max (1 / 100) value)

def Block.holds (block : Block) (p : ℚ) : Bool :=
  decide (block.minX ≤ p ∧ p ≤ block.maxX)

def IsotonicCalibrator.calibrate (calibrator : IsotonicCalibrator) (p : ℚ) : ℚ :=
  match calibrator.fitted, calibrator.blocks with
  | true, first :: others =>
      match (first :: others).find? (·.holds p) with
      | some block => clamp block.mean
      | none =>
          if p < first.minX then clamp first.mean else clamp (others.getLastD first).mean
  | _, _ => p

-----------------------------------------------------------------------------------------
-- Order of the values
-----------------------------------------------------------------------------------------

/-- What the calibrator answers on a block. -/
def Block.level (block : Block) : ℚ := clamp block.mean

theorem clamp_mono : Monotone clamp := by
  intro left right ordered
  exact min_le_min le_rfl (max_le_max le_rfl ordered)

-----------------------------------------------------------------------------------------
-- The values of the calibrator from left to right
-----------------------------------------------------------------------------------------

/-- The values beyond the end of a block: those of the blocks that follow, and the value `last`
in each gap that they leave below 1.
-/
def valuesBeyond (last : ℚ) : ℚ → List Block → List ℚ
  | reached, [] => if reached < 1 then [last] else []
  | reached, block :: rest =>
      (if reached < block.minX then [last] else [])
      ++ ((if reached < block.maxX then [block.level] else [])
        ++ valuesBeyond last block.maxX rest)

/-- The values that the calibrator takes on probabilities, from left to right. -/
def IsotonicCalibrator.values (calibrator : IsotonicCalibrator) : List ℚ :=
  match calibrator.blocks with
  | [] => []
  | first :: others =>
      first.level :: valuesBeyond (others.getLastD first).level first.maxX others

/-- The ranges of the blocks follow one another from `reached` up to 1. -/
def Laid : ℚ → List Block → Prop
  | _, [] => True
  | reached, block :: rest =>
      reached ≤ block.minX ∧ block.minX ≤ block.maxX ∧ block.maxX ≤ 1 ∧ Laid block.maxX rest

/-- The value on the block that holds the probability, or else `last`. -/
def lookUp (last : ℚ) (blocks : List Block) (p : ℚ) : ℚ :=
  ((blocks.find? (·.holds p)).map Block.level).getD last

/-- No block holds a probability below them all, by induction on the blocks. -/
theorem Laid.find?_eq_none {reached p : ℚ} {blocks : List Block} (laid : Laid reached blocks)
    (below : p < reached)
    : blocks.find? (·.holds p) = none := by
  induction blocks generalizing reached with
  | nil => rfl
  | cons block rest ih =>
      obtain ⟨starts, ordered, _, others⟩ := laid
      have under : p < block.minX := below.trans_le starts
      have missed : block.holds p = false := by
        simp [Block.holds, not_le.mpr under]
      rw [List.find?_cons_of_neg (by simp [missed])]
      exact ih others (under.trans_le ordered)

/-- Beyond the end of a block the lookup takes the listed values, by induction on the blocks
that follow.
-/
theorem Laid.traces {reached : ℚ} {blocks : List Block} (laid : Laid reached blocks) (last : ℚ)
    : Traces (lookUp last blocks) (valuesBeyond last reached blocks) (Set.Ioc reached 1) := by
  induction blocks generalizing reached with
  | nil => exact .const (fun _ _ => rfl) Set.nonempty_Ioc.symm
  | cons block rest ih =>
      obtain ⟨starts, ordered, within, others⟩ := laid
      have gap : Traces (lookUp last (block :: rest))
          (if reached < block.minX then [last] else []) (Set.Ioo reached block.minX) := by
        refine .const ?_ Set.nonempty_Ioo.symm
        intro p member
        have laid' : Laid block.minX (block :: rest) := ⟨le_rfl, ordered, within, others⟩
        rw [lookUp, laid'.find?_eq_none member.2]
        rfl
      have own : Traces (lookUp last (block :: rest))
          (if reached < block.maxX then [block.level] else [])
          {p | reached < p ∧ block.minX ≤ p ∧ p ≤ block.maxX} := by
        refine .const ?_ ?_
        · intro p member
          have held : block.holds p = true := decide_eq_true member.2
          simp [lookUp, held]
        · constructor
          · intro beyond
            exact ⟨block.maxX, beyond, ordered, le_rfl⟩
          · intro nonempty
            obtain ⟨p, above, _, below⟩ := nonempty
            exact above.trans_le below
      have beyond : Traces (lookUp last (block :: rest)) (valuesBeyond last block.maxX rest)
          (Set.Ioc block.maxX 1) := by
        refine (ih others).congr ?_
        intro p member
        have missed : block.holds p = false := by
          simp [Block.holds, member.1]
        rw [lookUp, lookUp, List.find?_cons_of_neg (by simp [missed])]
      rw [valuesBeyond, Ioc_eq_gap_union starts ordered within]
      refine gap.append (own.append beyond ?_) ?_
      · intro p inBlock q higher
        exact inBlock.2.2.trans_lt higher.1
      · intro p inGap q further
        rcases further with inBlock | higher
        · exact inGap.2.trans_le inBlock.2.1
        · exact (inGap.2.trans_le ordered).trans higher.1

/-- On probabilities a fitted calibrator takes the listed values. -/
theorem calibrate_traces {first : Block} {others : List Block} (samples : Nat)
    (laid : Laid 0 (first :: others))
    : Traces (IsotonicCalibrator.mk (first :: others) true samples).calibrate
        (IsotonicCalibrator.mk (first :: others) true samples).values (Set.Icc 0 1) := by
  let calibrator := IsotonicCalibrator.mk (first :: others) true samples
  obtain ⟨starts, ordered, within, beyond⟩ := laid
  have covered : Set.Icc (0 : ℚ) 1 = Set.Icc 0 first.maxX ∪ Set.Ioc first.maxX 1 := by
    rw [Set.Icc_union_Ioc_eq_Icc (starts.trans ordered) within]
  have opening : Traces calibrator.calibrate (if True then [first.level] else [])
      (Set.Icc 0 first.maxX) := by
    refine .const ?_ (iff_of_true trivial ⟨first.maxX, starts.trans ordered, le_rfl⟩)
    intro p member
    rcases lt_or_ge p first.minX with below | above
    · have laid' : Laid first.minX (first :: others) := ⟨le_rfl, ordered, within, beyond⟩
      simp only [calibrator, IsotonicCalibrator.calibrate, laid'.find?_eq_none below, if_pos below]
      rfl
    · have held : first.holds p = true := decide_eq_true ⟨above, member.2⟩
      simp only [calibrator, IsotonicCalibrator.calibrate, List.find?_cons, held]
      rfl
  have following : Traces calibrator.calibrate
      (valuesBeyond (others.getLastD first).level first.maxX others)
      (Set.Ioc first.maxX 1) := by
    refine (beyond.traces _).congr ?_
    intro p member
    have missed : first.holds p = false := by
      simp [Block.holds, member.1]
    have above : ¬ p < first.minX := by linarith [member.1]
    simp only [calibrator, IsotonicCalibrator.calibrate, List.find?_cons, missed, lookUp]
    cases others.find? (·.holds p) with
    | none => simp [above, Block.level]
    | some block => rfl
  rw [covered]
  refine opening.append following ?_
  intro p member q higher
  exact member.2.trans_lt higher.1

-----------------------------------------------------------------------------------------
-- The fitted blocks and the pairs that they stand for
-----------------------------------------------------------------------------------------

/-- What a pair adds to the sum of a block. -/
def outcome (pair : Pair) : ℚ := if pair.y then 1 else 0

/-- The block that stands for a segment of the sorted pairs. -/
def Block.summary (segment : List Pair) : Block where
  weight := segment.length
  sumY := segment.countP (·.y)
  minX := (segment.head?.map (·.p)).getD 0
  maxX := (segment.getLast?.map (·.p)).getD 0

theorem total_outcome (segment : List Pair)
    : total outcome segment = (segment.countP (·.y) : ℚ) := by
  induction segment with
  | nil => rfl
  | cons pair rest ih =>
      have step : total outcome (pair :: rest) = outcome pair + total outcome rest := by
        simp [total]
      rw [step, ih, List.countP_cons]
      cases holds : pair.y <;> simp [outcome, holds, add_comm]

theorem summary_mean (segment : List Pair)
    : (Block.summary segment).mean = average outcome segment := by
  rw [average, total_outcome]
  rfl

theorem Block.level_summary (segment : List Pair)
    : (Block.summary segment).level = clamp (average outcome segment) := by
  rw [Block.level, summary_mean]

theorem single_eq_summary (pair : Pair) : Block.single pair = .summary [pair] := by
  cases holds : pair.y <;> simp [Block.single, Block.summary, holds]

theorem summary_merge {current next : List Pair} (filled : current ≠ []) (filled' : next ≠ [])
    : (Block.summary current).merge (.summary next) = .summary (current ++ next) := by
  simp [Block.merge, Block.summary, List.head?_append_of_ne_nil _ filled,
    List.getLast?_append_of_ne_nil _ filled']

/-- A violation of the order is a falling average. -/
theorem falls_of_violates {current next : List Pair}
    (violates : (Block.summary current).violates (.summary next) = true)
    : average outcome next < average outcome current := by
  have above := of_decide_eq_true violates
  rw [summary_mean, summary_mean] at above
  linarith

/-- Blocks that stand for pooled segments of the sorted pairs. -/
def Fits (sorted : List Pair) (blocks : List Block) : Prop :=
  ∃ segments : List (List Pair),
    blocks = segments.map .summary ∧ segments.flatten = sorted ∧ Pooled outcome segments

/-- A merge of two blocks joins the segments that they stand for. -/
theorem Fits.merge {sorted : List Pair} {before after : List Block} {current next : Block}
    (fits : Fits sorted (before ++ current :: next :: after))
    (violating : current.violates next = true)
    : Fits sorted (before ++ current.merge next :: after) := by
  obtain ⟨segments, stand, whole, pooled⟩ := fits
  obtain ⟨earlier, both, rfl, rfl, tail⟩ := List.map_eq_append_iff.mp stand.symm
  obtain ⟨first, others, rfl, rfl, tail'⟩ := List.map_eq_cons_iff.mp tail
  obtain ⟨second, later, rfl, rfl, rfl⟩ := List.map_eq_cons_iff.mp tail'
  have filled : first ≠ [] := pooled.nonempty first (by simp)
  have filled' : second ≠ [] := pooled.nonempty second (by simp)
  refine ⟨earlier ++ (first ++ second) :: later, ?_, ?_, ?_⟩
  · simp [summary_merge filled filled']
  · simpa using whole
  · exact pooled.merge (falls_of_violates violating)

/-- The pass over the sorted pairs yields blocks that stand for pooled segments of them. -/
theorem fits_pool (sorted : List Pair)
    : Fits sorted (pool Block.violates Block.merge [] (sorted.map .single)) := by
  have initial : Fits sorted (sorted.map .single) := by
    refine ⟨sorted.map fun pair => [pair], ?_, ?_, .singletons outcome sorted⟩
    · simp [single_eq_summary]
    · rw [← List.flatMap_def, List.flatMap_singleton']
  exact pool_keeps (fun _ _ _ _ violating fits => fits.merge violating) initial

/-- Segments of pairs in order are laid out in order, by induction on the segments. -/
theorem laid_summaries {segments : List (List Pair)} {reached : ℚ}
    (filled : ∀ segment ∈ segments, segment ≠ [])
    (sorted : segments.flatten.Pairwise fun a b => a.p ≤ b.p)
    (after : ∀ pair ∈ segments.flatten, reached ≤ pair.p)
    : Laid reached (segments.map .summary) := by
  induction segments generalizing reached with
  | nil => trivial
  | cons segment rest ih =>
      obtain ⟨filledHead, filledRest⟩ := List.forall_mem_cons.mp filled
      rw [List.flatten_cons] at sorted after
      obtain ⟨inside, later, across⟩ := List.pairwise_append.mp sorted
      obtain ⟨front, top, rfl⟩ := (List.eq_nil_or_concat' segment).resolve_left filledHead
      have topMember : top ∈ front ++ [top] := by simp
      have maximal : ∀ pair ∈ front ++ [top], pair.p ≤ top.p :=
        rel_last_of_pairwise inside le_rfl
      have maxX : (Block.summary (front ++ [top])).maxX = top.p := by
        simp [Block.summary]
      obtain ⟨bottom, others, same⟩ := List.exists_cons_of_ne_nil filledHead
      have bottomMember : bottom ∈ front ++ [top] := same ▸ List.mem_cons_self
      have minX : (Block.summary (front ++ [top])).minX = bottom.p := by
        rw [same]
        simp [Block.summary]
      refine ⟨?_, ?_, ?_, ?_⟩
      · exact minX ▸ after bottom (List.mem_append_left _ bottomMember)
      · exact minX ▸ maxX ▸ maximal bottom bottomMember
      · exact maxX ▸ top.le_one
      · refine ih filledRest later ?_
        intro pair member
        exact maxX ▸ across top topMember pair member

theorem sortPairs_sorted (pairs : List Pair)
    : (sortPairs pairs).Pairwise fun a b => a.p ≤ b.p := by
  have : Std.Total fun a b : Pair => a.p ≤ b.p := ⟨fun a b => le_total a.p b.p⟩
  have : IsTrans Pair fun a b => a.p ≤ b.p := ⟨fun _ _ _ first second => first.trans second⟩
  exact List.pairwise_insertionSort _ pairs

/-- What a fit of enough pairs leaves. -/
theorem fit_large (calibrator : IsotonicCalibrator) {pairs : List Pair}
    (large : ¬ pairs.length < 30)
    : ∃ first others,
        calibrator.fit pairs
          = { blocks := first :: others, fitted := true, sampleCount := pairs.length }
        ∧ Fits (sortPairs pairs) (first :: others)
        ∧ (first :: others).IsChain fun current next => current.violates next = false := by
  generalize pooled : pool Block.violates Block.merge [] ((sortPairs pairs).map .single) = blocks
  have fits : Fits (sortPairs pairs) blocks := pooled ▸ fits_pool (sortPairs pairs)
  have chain : blocks.IsChain fun current next => current.violates next = false :=
    pooled ▸ pool_isChain [] _ (by cases sortPairs pairs <;> simp)
  cases blocks with
  | nil =>
      obtain ⟨segments, stand, whole, _⟩ := fits
      obtain rfl := List.map_eq_nil_iff.mp stand.symm
      have empty : (sortPairs pairs).length = 0 := by simp [← whole]
      rw [sortPairs, List.length_insertionSort] at empty
      omega
  | cons first others =>
      refine ⟨first, others, ?_, fits, chain⟩
      simp [IsotonicCalibrator.fit, large, pooled]

/-- The fitted blocks lie in order. -/
theorem Fits.laid {pairs : List Pair} {blocks : List Block} (fits : Fits (sortPairs pairs) blocks)
    : Laid 0 blocks := by
  obtain ⟨segments, rfl, whole, pooled⟩ := fits
  refine laid_summaries pooled.nonempty (whole ▸ sortPairs_sorted pairs) ?_
  intro pair _
  exact pair.nonneg

/-- The values of a fitted calibrator are in order exactly when it is monotone. -/
theorem monotone_iff_values (calibrator : IsotonicCalibrator) (pairs : List Pair)
    : MonotoneOn (calibrator.fit pairs).calibrate (Set.Icc 0 1)
      ↔ (calibrator.fit pairs).values.Pairwise (· ≤ ·) := by
  by_cases large : pairs.length < 30
  · have identity : (calibrator.fit pairs).calibrate = id := by
      funext p
      simp [IsotonicCalibrator.fit, large, IsotonicCalibrator.calibrate]
    have none : (calibrator.fit pairs).values = [] := by
      simp [IsotonicCalibrator.fit, large, IsotonicCalibrator.values]
    rw [identity, none]
    exact iff_of_true (monotone_id.monotoneOn _) .nil
  · obtain ⟨first, others, fitted, fits, _⟩ := fit_large calibrator large
    rw [fitted, (calibrate_traces pairs.length fits.laid).sorted_iff]

-----------------------------------------------------------------------------------------
-- What the pairs say about gaps
-----------------------------------------------------------------------------------------

/-- Every block that follows a gap has the value `last` at least. -/
def GapsFlat (last : ℚ) : ℚ → List Block → Prop
  | _, [] => True
  | reached, block :: rest =>
      (reached < block.minX → last ≤ block.level) ∧ GapsFlat last block.maxX rest

theorem mem_valuesBeyond {last value reached : ℚ} {blocks : List Block}
    (member : value ∈ valuesBeyond last reached blocks)
    : value = last ∨ ∃ block ∈ blocks, value = block.level := by
  induction blocks generalizing reached with
  | nil =>
      have alone : reached < 1 ∧ value = last := by simpa [valuesBeyond] using member
      exact .inl alone.2
  | cons block rest ih =>
      simp only [valuesBeyond, List.mem_append] at member
      rcases member with inGap | own | beyond
      · have alone : reached < block.minX ∧ value = last := by simpa using inGap
        exact .inl alone.2
      · have alone : reached < block.maxX ∧ value = block.level := by simpa using own
        exact .inr ⟨block, List.mem_cons_self, alone.2⟩
      · rcases ih beyond with same | ⟨other, among, same⟩
        · exact .inl same
        · exact .inr ⟨other, List.mem_cons_of_mem block among, same⟩

/-- Where the values of the blocks are in order, the values with those of the gaps are too
exactly when the blocks after gaps have the last value, by induction on the blocks.
-/
theorem valuesBeyond_sorted_iff {last reached : ℚ} {blocks : List Block}
    (ordered : blocks.Pairwise fun left right => left.level ≤ right.level)
    (top : ∀ block ∈ blocks, block.level ≤ last)
    (ranges : ∀ block ∈ blocks, block.minX ≤ block.maxX)
    : (valuesBeyond last reached blocks).Pairwise (· ≤ ·) ↔ GapsFlat last reached blocks := by
  induction blocks generalizing reached with
  | nil =>
      refine iff_of_true ?_ trivial
      rw [valuesBeyond]
      split <;> simp
  | cons block rest ih =>
      obtain ⟨above, ordered'⟩ := List.pairwise_cons.mp ordered
      obtain ⟨top, top'⟩ := List.forall_mem_cons.mp top
      obtain ⟨range, ranges'⟩ := List.forall_mem_cons.mp ranges
      have later : ∀ value ∈ valuesBeyond last block.maxX rest, block.level ≤ value := by
        intro value member
        rcases mem_valuesBeyond member with rfl | ⟨other, among, rfl⟩
        · exact top
        · exact above other among
      rw [GapsFlat, ← ih ordered' top' ranges', valuesBeyond]
      by_cases gap : reached < block.minX
      · have own : reached < block.maxX := gap.trans_le range
        simp only [gap, own, if_true, forall_const, List.singleton_append, List.pairwise_cons,
          List.forall_mem_cons]
        constructor
        · intro sorted
          exact ⟨sorted.1.1, sorted.2.2⟩
        · intro flat
          refine ⟨⟨flat.1, ?_⟩, later, flat.2⟩
          intro value member
          exact flat.1.trans (later value member)
      · by_cases own : reached < block.maxX
        · simp only [gap, own, if_true, if_false, false_imp_iff, true_and, List.nil_append,
            List.singleton_append, List.pairwise_cons]
          exact ⟨fun sorted => sorted.2, fun sorted => ⟨later, sorted⟩⟩
        · simp [gap, own]

/-- The gaps by their places: each is between the end of one block and the start of the next,
by induction on the blocks.
-/
theorem gapsFlat_iff {last reached : ℚ} {blocks : List Block}
    : GapsFlat last reached blocks
      ↔ ∀ before block after, blocks = before ++ block :: after →
          before.foldl (fun _ earlier => earlier.maxX) reached < block.minX →
          last ≤ block.level := by
  induction blocks generalizing reached with
  | nil => simp [GapsFlat]
  | cons first rest ih =>
      rw [GapsFlat, ih]
      constructor
      · intro flat before block after split gap
        cases before with
        | nil =>
            obtain ⟨rfl, rfl⟩ := List.cons.inj split
            exact flat.1 gap
        | cons earlier before =>
            obtain ⟨rfl, rfl⟩ := List.cons.inj split
            exact flat.2 before block after rfl gap
      · intro flat
        refine ⟨fun gap => flat [] first rest rfl gap, ?_⟩
        intro before block after split gap
        exact flat (first :: before) block after (by rw [split]; rfl) gap

/-- At every gap between observed probabilities the average outcome falls from some pairs just
below the gap to some just above it, or else no average that reaches up to the last pair is,
after clamping, above one that starts at the gap.
-/
def LevelAboveGaps (sorted : List Pair) : Prop :=
  ∀ before after below above, sorted = before ++ after →
    before.getLast? = some below → after.head? = some above → below.p < above.p →
    Drops outcome before after
    ∨ ∀ back front, back ≠ [] → front ≠ [] → back <:+ sorted → front <+: after →
        clamp (average outcome back) ≤ clamp (average outcome front)

/-- Averages over fewer than one million pairs that differ at all differ by more than the
tolerance of the pass.
-/
theorem average_le_of_close {current next : List Pair} (filled : current ≠ [])
    (filled' : next ≠ []) (few : current.length + next.length < 1000000)
    (close : (Block.summary current).violates (.summary next) = false)
    : average outcome current ≤ average outcome next := by
  have near : ¬ average outcome next + 1 / 10 ^ 12 < average outcome current := by
    have unviolated := of_decide_eq_false close
    rwa [summary_mean, summary_mean] at unviolated
  have first : 0 < current.length := List.length_pos_of_ne_nil filled
  have second : 0 < next.length := List.length_pos_of_ne_nil filled'
  rw [average, average, total_outcome, total_outcome] at near ⊢
  generalize current.countP (·.y) = hits at near ⊢
  generalize next.countP (·.y) = hits' at near ⊢
  generalize current.length = size at *
  generalize next.length = size' at *
  have positive : (0 : ℚ) < size := Nat.cast_pos.mpr first
  have positive' : (0 : ℚ) < size' := Nat.cast_pos.mpr second
  by_contra above
  rw [div_le_div_iff₀ positive positive'] at above
  have apart : (1 : ℚ) ≤ hits * size' - size * hits' := by
    have whole : hits' * size + 1 ≤ hits * size' := by exact_mod_cast not_le.mp above
    have cast : (hits' : ℚ) * size + 1 ≤ hits * size' := by exact_mod_cast whole
    linarith
  have difference : (1 : ℚ) / (size * size') ≤ hits / size - hits' / size' := by
    rw [div_sub_div _ _ positive.ne' positive'.ne']
    exact div_le_div_of_nonneg_right apart (mul_pos positive positive').le
  have small : (size : ℚ) * size' < 10 ^ 12 := by
    have sum : (size : ℚ) + size' < 1000000 := by exact_mod_cast few
    nlinarith [sq_nonneg ((size : ℚ) - size')]
  have tolerance : (1 : ℚ) / 10 ^ 12 < 1 / (size * size') :=
    one_div_lt_one_div_of_lt (mul_pos positive positive') small
  exact near (by linarith)

/-- Neighbouring segments of few pairs that the pass leaves apart are in order, by induction on
the segments.
-/
theorem averages_isChain {segments : List (List Pair)} (pooled : Pooled outcome segments)
    (few : segments.flatten.length < 1000000)
    (chain : (segments.map Block.summary).IsChain fun current next =>
      current.violates next = false)
    : segments.IsChain fun left right => average outcome left ≤ average outcome right := by
  induction segments with
  | nil => exact .nil
  | cons segment rest ih =>
      have others : Pooled outcome rest := pooled.of_subset (List.subset_cons_self segment rest)
      cases rest with
      | nil => exact .singleton segment
      | cons next rest =>
          obtain ⟨close, chain'⟩ := List.isChain_cons_cons.mp chain
          simp only [List.flatten_cons, List.length_append] at few ih
          refine List.isChain_cons_cons.mpr ⟨?_, ih others (by omega) chain'⟩
          exact average_le_of_close (pooled.nonempty segment (by simp))
            (pooled.nonempty next (by simp)) (by omega) close

/-- The blocks of some segments reach up to the last of their pairs. -/
theorem reached_eq {segments : List (List Pair)} (filled : ∀ segment ∈ segments, segment ≠ [])
    {below : Pair} (last : segments.flatten.getLast? = some below) (start : ℚ)
    : (segments.map Block.summary).foldl (fun _ earlier => earlier.maxX) start = below.p := by
  rcases List.eq_nil_or_concat' segments with rfl | ⟨front, top, rfl⟩
  · cases last
  · have filledTop : top ≠ [] := filled top (by simp)
    rw [List.flatten_append, List.flatten_singleton,
      List.getLast?_append_of_ne_nil _ filledTop] at last
    simp [Block.summary, last]

section

variable {segments : List (List Pair)} {top : List Pair} {start : ℚ}

/-- Where the blocks after gaps have the last value, the pairs keep the level above their gaps: a
cut inside a segment is one at which the average drops.
-/
theorem levelAboveGaps_of_gapsFlat (pooled : Pooled outcome segments)
    (sorted : segments.Pairwise fun left right => average outcome left ≤ average outcome right)
    (belowTop : ∀ segment ∈ segments, average outcome segment ≤ average outcome top)
    (flat : GapsFlat (Block.summary top).level start (segments.map .summary))
    : LevelAboveGaps segments.flatten := by
  rw [gapsFlat_iff] at flat
  intro before after below above split last head gap
  rcases pooled.drops_or_between split with drops | ⟨earlier, later, rfl, rfl, rfl⟩
  · exact .inl drops
  · right
    intro back part filled filled' isBack isPart
    cases later with
    | nil => cases head
    | cons next later =>
        have nextFilled : next ≠ [] := pooled.nonempty next (by simp)
        have earlierFilled : ∀ segment ∈ earlier, segment ≠ [] :=
          fun segment member => pooled.nonempty segment (by simp [member])
        have nextStarts : (Block.summary next).minX = above.p := by
          rw [List.flatten_cons, List.head?_append_of_ne_nil _ nextFilled] at head
          simp [Block.summary, head]
        have flatNext := flat (earlier.map .summary) (.summary next) (later.map .summary)
          (by simp) (by rw [reached_eq earlierFilled last start, nextStarts]; exact gap)
        rw [Block.level_summary, Block.level_summary] at flatNext
        have aboveNext : ∀ segment ∈ next :: later,
            average outcome next ≤ average outcome segment := by
          intro segment member
          rcases List.mem_cons.mp member with rfl | further
          · exact le_rfl
          · exact (List.pairwise_cons.mp (List.pairwise_append.mp sorted).2.1).1 segment further
        have lower : average outcome back ≤ average outcome top :=
          (average_le_iff filled).mpr (pooled.back_le belowTop isBack)
        have upper : average outcome next ≤ average outcome part :=
          (le_average_iff filled').mpr
            ((pooled.of_subset (List.subset_append_right _ _)).le_front aboveNext isPart)
        exact (clamp_mono lower).trans (flatNext.trans (clamp_mono upper))

/-- Where the pairs keep the level above their gaps, the blocks after gaps have the last value: a
gap before a block is one between the last pair of a segment and the first of the next.
-/
theorem gapsFlat_of_levelAboveGaps (pooled : Pooled outcome segments)
    (sorted : segments.Pairwise fun left right => average outcome left ≤ average outcome right)
    (topFilled : top ≠ []) (topLast : top <:+ segments.flatten)
    (starts : segments.flatten.head?.map (·.p) = some start)
    (above : LevelAboveGaps segments.flatten)
    : GapsFlat (Block.summary top).level start (segments.map .summary) := by
  rw [gapsFlat_iff]
  intro before block after split gap
  obtain ⟨earlier, both, rfl, rfl, tail⟩ := List.map_eq_append_iff.mp split
  obtain ⟨next, later, rfl, rfl, rfl⟩ := List.map_eq_cons_iff.mp tail
  have nextFilled : next ≠ [] := pooled.nonempty next (by simp)
  have earlierFilled : ∀ segment ∈ earlier, segment ≠ [] :=
    fun segment member => pooled.nonempty segment (by simp [member])
  obtain ⟨bottom, rest, same⟩ := List.exists_cons_of_ne_nil nextFilled
  have nextStarts : (Block.summary next).minX = bottom.p := by
    rw [same]
    simp [Block.summary]
  rcases List.eq_nil_or_concat' earlier with rfl | ⟨others, final, rfl⟩
  · -- the first block starts where the pairs do
    rw [nextStarts] at gap
    have head : bottom.p = start := by simpa [same] using starts
    exact absurd gap (by simp [head])
  · have finalFilled : final ≠ [] := earlierFilled final (by simp)
    obtain ⟨init, below, sameFinal⟩ := (List.eq_nil_or_concat' final).resolve_left finalFilled
    have last : (others ++ [final]).flatten.getLast? = some below := by
      simp [sameFinal]
    rw [reached_eq earlierFilled last start, nextStarts] at gap
    rcases above (others ++ [final]).flatten (next :: later).flatten below bottom (by simp) last
      (by simp [same]) gap with drops | flat
    · exact absurd drops (pooled.not_drops sorted)
    · rw [Block.level_summary, Block.level_summary]
      exact flat top next topFilled nextFilled topLast (by simp)

end

/-- The blocks after gaps have the last value exactly when the pairs keep the level above their
gaps.
-/
theorem gapsFlat_summaries_iff {front : List (List Pair)} {top : List Pair} {start : ℚ}
    (pooled : Pooled outcome (front ++ [top]))
    (sorted : (front ++ [top]).Pairwise fun left right =>
      average outcome left ≤ average outcome right)
    (starts : (front ++ [top]).flatten.head?.map (·.p) = some start)
    : GapsFlat (Block.summary top).level start ((front ++ [top]).map .summary)
      ↔ LevelAboveGaps (front ++ [top]).flatten := by
  have topFilled : top ≠ [] := pooled.nonempty top (by simp)
  have topLast : top <:+ (front ++ [top]).flatten := by simp
  constructor
  · intro flat
    exact levelAboveGaps_of_gapsFlat pooled sorted (rel_last_of_pairwise sorted le_rfl) flat
  · intro above
    exact gapsFlat_of_levelAboveGaps pooled sorted topFilled topLast starts above

theorem Laid.ranges {reached : ℚ} {blocks : List Block} (laid : Laid reached blocks)
    : ∀ block ∈ blocks, block.minX ≤ block.maxX := by
  induction blocks generalizing reached with
  | nil => simp
  | cons block rest ih =>
      obtain ⟨_, ordered, _, others⟩ := laid
      exact List.forall_mem_cons.mpr ⟨ordered, ih others⟩

theorem getLastD_of_concat {α : Type*} {first last : α} {others front : List α}
    (same : first :: others = front ++ [last])
    : others.getLastD first = last := by
  cases front with
  | nil =>
      obtain ⟨rfl, rfl⟩ := List.cons.inj same
      rfl
  | cons head rest =>
      obtain ⟨rfl, rfl⟩ := List.cons.inj same
      simp

/-- Where the blocks have values in order, the values of the calibrator are in order exactly
when the blocks after gaps have the last one.
-/
theorem values_sorted_iff_gapsFlat {first last : Block} {others front : List Block}
    (samples : Nat) (laid : Laid 0 (first :: others))
    (ordered : (first :: others).Pairwise fun left right => left.level ≤ right.level)
    (split : first :: others = front ++ [last])
    : (IsotonicCalibrator.mk (first :: others) true samples).values.Pairwise (· ≤ ·)
      ↔ GapsFlat last.level first.minX (first :: others) := by
  have top : ∀ block ∈ first :: others, block.level ≤ last.level := by
    rw [split] at ordered ⊢
    exact rel_last_of_pairwise ordered le_rfl
  obtain ⟨above, ordered'⟩ := List.pairwise_cons.mp ordered
  obtain ⟨firstTop, top'⟩ := List.forall_mem_cons.mp top
  obtain ⟨_, ranges⟩ := List.forall_mem_cons.mp laid.ranges
  have lowest : ∀ value ∈ valuesBeyond last.level first.maxX others, first.level ≤ value := by
    intro value member
    rcases mem_valuesBeyond member with rfl | ⟨other, among, rfl⟩
    · exact firstTop
    · exact above other among
  simp only [IsotonicCalibrator.values, getLastD_of_concat split, GapsFlat,
    List.pairwise_cons, valuesBeyond_sorted_iff ordered' top' ranges, lt_irrefl, false_imp_iff,
    true_and]
  exact ⟨fun sorted => sorted.2, fun flat => ⟨lowest, flat⟩⟩

/-- The values of a calibrator fitted to fewer than one million pairs are in order exactly when
the pairs keep the level above their gaps.
-/
theorem values_sorted_iff (calibrator : IsotonicCalibrator) {pairs : List Pair}
    (large : ¬ pairs.length < 30) (few : pairs.length < 1000000)
    : (calibrator.fit pairs).values.Pairwise (· ≤ ·) ↔ LevelAboveGaps (sortPairs pairs) := by
  obtain ⟨first, others, fitted, fits, chain⟩ := fit_large calibrator large
  have laid := fits.laid
  obtain ⟨segments, stand, whole, pooled⟩ := fits
  rw [stand] at chain
  have size : segments.flatten.length < 1000000 := by
    rw [whole, sortPairs, List.length_insertionSort]
    exact few
  have : IsTrans (List Pair) fun left right => average outcome left ≤ average outcome right :=
    ⟨fun _ _ _ => le_trans⟩
  have sorted : segments.Pairwise fun left right =>
      average outcome left ≤ average outcome right :=
    List.isChain_iff_pairwise.mp (averages_isChain pooled size chain)
  have ordered : (first :: others).Pairwise fun left right => left.level ≤ right.level := by
    rw [stand, List.pairwise_map]
    refine sorted.imp ?_
    intro left right below
    rw [Block.level_summary, Block.level_summary]
    exact clamp_mono below
  have starts : segments.flatten.head?.map (·.p) = some first.minX := by
    obtain ⟨segment, rest, rfl, rfl, _⟩ := List.map_eq_cons_iff.mp stand.symm
    obtain ⟨pair, others, rfl⟩ := List.exists_cons_of_ne_nil
      (pooled.nonempty segment List.mem_cons_self)
    rfl
  rcases List.eq_nil_or_concat' segments with rfl | ⟨front, top, rfl⟩
  · cases stand
  · have split : first :: others = front.map .summary ++ [.summary top] := by
      rw [stand, List.map_append]
      rfl
    rw [fitted, values_sorted_iff_gapsFlat pairs.length laid ordered split, ← whole, stand]
    exact gapsFlat_summaries_iff pooled sorted starts

-----------------------------------------------------------------------------------------
-- When calibration is monotone
-----------------------------------------------------------------------------------------

/-- Calibration is monotone exactly when the values of the blocks, with the value of the last
block in every gap, are in order. For fewer than one million pairs the pairs themselves tell:
they keep the level above their gaps, or are too few to be fitted.
-/
theorem calibrate_monotone_iff (calibrator : IsotonicCalibrator) (pairs : List Pair)
    : (MonotoneOn (calibrator.fit pairs).calibrate (Set.Icc 0 1)
        ↔ (calibrator.fit pairs).values.Pairwise (· ≤ ·))
      ∧ (pairs.length < 1000000 →
          (MonotoneOn (calibrator.fit pairs).calibrate (Set.Icc 0 1)
            ↔ pairs.length < 30 ∨ LevelAboveGaps (sortPairs pairs))) := by
  refine ⟨monotone_iff_values calibrator pairs, ?_⟩
  intro few
  rw [monotone_iff_values calibrator pairs]
  by_cases large : pairs.length < 30
  · have none : (calibrator.fit pairs).values = [] := by
      simp [IsotonicCalibrator.fit, large, IsotonicCalibrator.values]
    rw [none]
    exact iff_of_true .nil (.inl large)
  · rw [values_sorted_iff calibrator large few]
    simp [large]

/-- Thirty pairs at one probability, half of them with outcome 1. -/
def oneProbability : List Pair :=
  List.replicate 15 ⟨1 / 2, true, by norm_num, by norm_num⟩
  ++ List.replicate 15 ⟨1 / 2, false, by norm_num, by norm_num⟩

theorem oneProbability_monotone
    : MonotoneOn (IsotonicCalibrator.new.fit oneProbability).calibrate (Set.Icc 0 1) := by
  refine ((calibrate_monotone_iff .new oneProbability).2 (by decide)).mpr (.inr ?_)
  intro before after below above split last head gap
  have same : ∀ pair ∈ sortPairs oneProbability, pair.p = 1 / 2 := by decide +kernel
  have first := same below (by simp [split, List.mem_of_getLast? last])
  have second := same above (by simp [split, List.mem_of_head? head])
  rw [first, second] at gap
  exact absurd gap (lt_irrefl _)

/-- Ten pairs each at 0.2 and 0.5, with outcome 0, and ten at 0.8, with outcome 1. -/
def lowThenHigh : List Pair :=
  List.replicate 10 ⟨1 / 5, false, by norm_num, by norm_num⟩
  ++ List.replicate 10 ⟨1 / 2, false, by norm_num, by norm_num⟩
  ++ List.replicate 10 ⟨4 / 5, true, by norm_num, by norm_num⟩

/-- In the gap above 0.2 the calibrated value is that of the last block. -/
theorem gap_above_next_block
    : ¬ MonotoneOn (IsotonicCalibrator.new.fit lowThenHigh).calibrate (Set.Icc 0 1) := by
  intro monotone
  have ordered := @monotone (3 / 10) (by norm_num) (1 / 2) (by norm_num) (by norm_num)
  exact absurd ordered (by decide +kernel)

end CrashWave.Isotonic
