import CrashWave.Mixtures.Basic
import CrashWave.Prediction.Ensemble

/-! The weights that the ensemble gives its models: where they are shares of one among the models
that are on, and the probability is between the scores of these.
-/

namespace CrashWave.Ensemble

open JavaScript Mixtures

variable {K : Type*} [Field K] [LinearOrder K] [IsStrictOrderedRing K]
  {names : List String} {performance : ModelPerformanceTracker K} {baselineLogLoss : K}
  {flags : EnsembleFlags} {scores : List (ModelScore K)}

-----------------------------------------------------------------------------------------
-- Performance weights
-----------------------------------------------------------------------------------------

theorem performanceScore_pos (perf : Option (ModelPerf K)) : 0 < performanceScore perf := by
  cases perf with
  | none => exact one_pos
  | some p =>
      simp only [performanceScore]
      split
      · have share : min 1 ((p.count : K) / 100.0) ∈ Set.Icc 0 1 :=
          ⟨le_min zero_le_one (by positivity), min_le_left _ _⟩
        have fraction : (0 : K) < 1 / (0.05 + p.ewmaLogLoss) := by
          have := p.nonneg
          positivity
        have least : min (1 / (0.05 + p.ewmaLogLoss)) 1
            ≤ min 1 ((p.count : K) / 100.0) * (1 / (0.05 + p.ewmaLogLoss))
              + (1 - min 1 ((p.count : K) / 100.0)) * 1 :=
          (blend_mem_Icc share ⟨min_le_left _ _, le_max_left _ _⟩
            ⟨min_le_right _ _, le_max_right _ _⟩).1
        exact (lt_min fraction one_pos).trans_le least
      · exact one_pos

variable (K) in
/-- The model has a weight to begin with. -/
def HasBase (names : List String) (name : String) : Prop :=
  0 < (baseWeights name).getD (1 / (names.length : K))

/-- The weight of a model before the weights are divided by their sum. -/
def rawWeight (names : List String) (performance : ModelPerformanceTracker K) (name : String)
    : K :=
  max 0 ((baseWeights name).getD (1 / (names.length : K))
    * performanceScore (performance.get name) * 1)

omit [IsStrictOrderedRing K] in
theorem rawWeight_nonneg (name : String) : 0 ≤ rawWeight names performance name := le_max_left _ _

theorem rawWeight_pos_iff {name : String}
    : 0 < rawWeight names performance name ↔ HasBase K names name := by
  have score := performanceScore_pos (performance.get name)
  rw [rawWeight, lt_max_iff, mul_one, mul_pos_iff_of_pos_right score, HasBase]
  simp

def performanceWeight (names : List String) (performance : ModelPerformanceTracker K)
    (name : String) : K :=
  rawWeight names performance name / orOne (names.map (rawWeight names performance)).sum

omit [IsStrictOrderedRing K] in
theorem computePerformanceWeights_eq
    : computePerformanceWeights names baseWeights performance (fun _ => none)
      = names.map (performanceWeight names performance) := by
  rw [computePerformanceWeights, List.map_map]
  rfl

theorem apportions_performance
    : Apportions names (HasBase K names) (performanceWeight names performance) := by
  have nonneg : ∀ name ∈ names, 0 ≤ rawWeight names performance name :=
    fun name _ => rawWeight_nonneg name
  rcases (sum_weight_nonneg nonneg).eq_or_lt with none | some
  · -- No model has a base weight.
    have never : ∀ name ∈ names, ¬ HasBase K names name := by
      intro name member base
      have more := (sum_weight_pos_iff nonneg).mpr ⟨name, member, rawWeight_pos_iff.mpr base⟩
      exact more.ne none
    have one : orOne (names.map (rawWeight names performance)).sum = 1 := if_pos none.symm
    have zero : ∀ name ∈ names, performanceWeight names performance name = 0 := by
      intro name member
      have raw : rawWeight names performance name = 0 :=
        le_antisymm (not_lt.mp (mt rawWeight_pos_iff.mp (never name member)))
          (rawWeight_nonneg name)
      rw [performanceWeight, raw, zero_div]
    refine ⟨fun name member => (zero name member).ge, fun name member => ?_, ?_⟩
    · exact iff_of_false (zero name member).not_gt (never name member)
    · intro ⟨name, member, base⟩
      exact absurd base (never name member)
  · have same : orOne (names.map (rawWeight names performance)).sum
        = (names.map (rawWeight names performance)).sum := if_neg some.ne'
    have each : performanceWeight names performance
        = fun name => rawWeight names performance name
          / (names.map (rawWeight names performance)).sum :=
      funext fun name => by rw [performanceWeight, same]
    rw [each]
    exact apportions_div nonneg (fun _ _ => rawWeight_pos_iff) some

-----------------------------------------------------------------------------------------
-- Suppression
-----------------------------------------------------------------------------------------

/-- The model has a weight to begin with and is not suppressed; all are kept if all of those that
have a weight underperform.
-/
def Counts (names : List String) (performance : ModelPerformanceTracker K) (baselineLogLoss : K)
    (name : String) : Prop :=
  HasBase K names name
  ∧ (underperforms performance baselineLogLoss name = false
    ∨ ∀ other ∈ names, HasBase K names other
      → underperforms performance baselineLogLoss other = true)

/-- The weight that is left of a model that may be suppressed. -/
def leftWeight (names : List String) (performance : ModelPerformanceTracker K)
    (baselineLogLoss : K) (name : String) : K :=
  if underperforms performance baselineLogLoss name then 0
  else performanceWeight names performance name

def suppressedWeight (names : List String) (performance : ModelPerformanceTracker K)
    (baselineLogLoss : K) (name : String) : K :=
  let sum := (names.map (leftWeight names performance baselineLogLoss)).sum
  if sum ≤ 0 then performanceWeight names performance name
  else leftWeight names performance baselineLogLoss name / sum

omit [IsStrictOrderedRing K] in
theorem applySuppression_eq
    : applySuppression names (names.map (performanceWeight names performance)) performance
        baselineLogLoss
      = names.map (suppressedWeight names performance baselineLogLoss) := by
  have out : List.zipWith
      (fun name weight => if underperforms performance baselineLogLoss name then 0 else weight)
      names (names.map (performanceWeight names performance))
      = names.map (leftWeight names performance baselineLogLoss) := by
    rw [List.zipWith_map_right, List.zipWith_self]
    rfl
  rw [applySuppression, out]
  split
  · next none => simp [suppressedWeight, none]
  · next some => simp [suppressedWeight, some, List.map_map, Function.comp_def]

/-- What is left is what was there of the models that do not underperform. -/
theorem leftWeight_pos_iff {name : String} (member : name ∈ names)
    : 0 < leftWeight names performance baselineLogLoss name
      ↔ HasBase K names name ∧ underperforms performance baselineLogLoss name = false := by
  have weights : Apportions names (HasBase K names) (performanceWeight names performance) :=
    apportions_performance
  rw [leftWeight]
  split
  · next under => simp [under]
  · next performs => simp [performs, weights.positive name member]

theorem leftWeight_nonneg {name : String} (member : name ∈ names)
    : 0 ≤ leftWeight names performance baselineLogLoss name := by
  rw [leftWeight]
  split
  · exact le_rfl
  · exact apportions_performance.nonneg name member

theorem apportions_suppressed
    : Apportions names (Counts names performance baselineLogLoss)
        (suppressedWeight names performance baselineLogLoss) := by
  have nonneg : ∀ name ∈ names, 0 ≤ leftWeight names performance baselineLogLoss name :=
    fun name member => leftWeight_nonneg member
  by_cases none : (names.map (leftWeight names performance baselineLogLoss)).sum ≤ 0
  · -- All models with a weight underperform, and none of them is suppressed.
    have all : ∀ other ∈ names, HasBase K names other
        → underperforms performance baselineLogLoss other = true := by
      intro other member base
      by_contra performs
      have left := (leftWeight_pos_iff member).mpr ⟨base, Bool.eq_false_iff.mpr performs⟩
      exact none.not_gt ((sum_weight_pos_iff nonneg).mpr ⟨other, member, left⟩)
    have same : suppressedWeight names performance baselineLogLoss
        = performanceWeight names performance :=
      funext fun name => if_pos none
    have counts : Counts names performance baselineLogLoss = HasBase K names :=
      funext fun name => propext ⟨And.left, fun base => ⟨base, .inr all⟩⟩
    rw [same, counts]
    exact apportions_performance
  · have some := not_le.mp none
    obtain ⟨well, among, left⟩ := (sum_weight_pos_iff nonneg).mp some
    have performs := (leftWeight_pos_iff among).mp left
    have each : suppressedWeight names performance baselineLogLoss
        = fun name => leftWeight names performance baselineLogLoss name
          / (names.map (leftWeight names performance baselineLogLoss)).sum :=
      funext fun name => if_neg none
    rw [each]
    refine apportions_div nonneg (fun name member => ?_) some
    rw [leftWeight_pos_iff member, Counts]
    refine and_congr_right fun _ => ?_
    refine ⟨.inl, fun kept => kept.resolve_right fun all => ?_⟩
    simp [all well among performs.1] at performs

-----------------------------------------------------------------------------------------
-- Combined scores
-----------------------------------------------------------------------------------------

/-- The last score of a model. -/
def lastNamed (scores : List (ModelScore K)) (name : String) : Option (ModelScore K) :=
  (scores.filter fun score => score.modelName = name).getLast?

/-- The last score of the model is the one of a candidate that comes with no weight. -/
def isDropped (scores : List (ModelScore K)) (name : String) : Bool :=
  (lastNamed scores name).any (·.isZeroed)

omit [Field K] [LinearOrder K] [IsStrictOrderedRing K] in
/-- The weight map has the last weight at each name, by induction on the scores backwards. -/
theorem get_weightMap (scores : List (ModelScore K)) (weight : ModelScore K → K) (name : String)
    : (weightMap (scores.map fun s => (s, weight s))).get name
      = (lastNamed scores name).map weight := by
  induction scores using List.reverseRecOn with
  | nil => rfl
  | append_singleton scores last ih =>
      rw [weightMap, List.map_append, List.foldl_append, ← weightMap, lastNamed,
        List.filter_append]
      simp only [List.map_singleton, List.foldl_cons, List.foldl_nil]
      by_cases same : last.modelName = name
      · simp [same]
      · rw [Map.get_set_of_ne _ _ (Ne.symm same), ih]
        simp [same, lastNamed]

abbrev namesOf (scores : List (ModelScore K)) : List String := scores.map (·.modelName)

omit [LinearOrder K] [IsStrictOrderedRing K] in
theorem modelName_filterScores
    : (filterScores flags scores).map (·.modelName) = namesOf scores := by
  rw [filterScores, List.map_map]
  refine List.map_congr_left fun score _ => ?_
  simp only [Function.comp_apply]
  split <;> rfl

omit [LinearOrder K] [IsStrictOrderedRing K] in
theorem mem_namesOf_of_mem_filterScores {score : ModelScore K}
    (member : score ∈ filterScores flags scores)
    : score.modelName ∈ namesOf scores := by
  rw [← modelName_filterScores]
  exact List.mem_map_of_mem member

omit [IsStrictOrderedRing K] in
/-- A model that is off and whose name begins like the one of a candidate has no base weight. -/
theorem not_hasBase_of_candidate {name : String} (off : flags.isOff name = true)
    (candidate : isCandidateName name = true)
    : ¬ HasBase K names name := by
  have streak : isCandidateName "StreakAwareModel" = false := by decide
  simp only [EnsembleFlags.isOff, Bool.or_eq_true, Bool.and_eq_true, decide_eq_true_eq] at off
  rcases off with (((⟨rfl, _⟩ | ⟨rfl, _⟩) | ⟨rfl, _⟩) | ⟨rfl, _⟩) | ⟨rfl, _⟩
  · exact lt_irrefl _
  · rw [streak] at candidate
    cases candidate
  · exact lt_irrefl _
  · exact lt_irrefl _
  · exact lt_irrefl _

/-- The weight that a score gets by itself. -/
def ownWeight (names : List String) (performance : ModelPerformanceTracker K)
    (baselineLogLoss : K) (score : ModelScore K) : K :=
  if score.isZeroed then 0 else suppressedWeight names performance baselineLogLoss score.modelName

/-- The weight that the scores of a model are returned with. -/
def returnedWeight (names : List String) (performance : ModelPerformanceTracker K)
    (baselineLogLoss : K) (scores : List (ModelScore K)) (name : String) : K :=
  if isDropped scores name then 0 else suppressedWeight names performance baselineLogLoss name

omit [IsStrictOrderedRing K] in
/-- The weights of the scores, in their order. -/
theorem weights_combine (filtered : List (ModelScore K))
    : let names := filtered.map (·.modelName)
      applySuppression names
          (computePerformanceWeights names baseWeights performance fun _ => none) performance
          baselineLogLoss
        = filtered.map fun s => suppressedWeight names performance baselineLogLoss s.modelName := by
  intro names
  rw [computePerformanceWeights_eq, applySuppression_eq, List.map_map]
  rfl

omit [IsStrictOrderedRing K] in
/-- A model among the scores is returned with the weight of its name. -/
theorem get_weightMap_of_mem {filtered : List (ModelScore K)} {score : ModelScore K}
    (member : score ∈ filtered) (names : List String)
    : (weightMap (filtered.map fun s =>
          (s, ownWeight names performance baselineLogLoss s))).get score.modelName
      = some (returnedWeight names performance baselineLogLoss filtered score.modelName) := by
  rw [get_weightMap, returnedWeight, isDropped]
  cases last : lastNamed filtered score.modelName with
  | none =>
      have named : score ∈ filtered.filter fun s => s.modelName = score.modelName :=
        List.mem_filter.mpr ⟨member, by simp⟩
      rw [lastNamed, List.getLast?_eq_none_iff] at last
      rw [last] at named
      cases named
  | some own =>
      have found := List.mem_of_getLast? last
      have same : own.modelName = score.modelName := by simpa using (List.mem_filter.mp found).2
      simp [ownWeight, same]

omit [IsStrictOrderedRing K] in
theorem scores_combine (sqrt : K → K) (some : scores ≠ [])
    : let names := namesOf scores
      let filtered := filterScores flags scores
      (combine sqrt flags performance scores baselineLogLoss).scores
        = filtered.map fun s =>
            { s with
              weight :=
                returnedWeight names performance baselineLogLoss filtered s.modelName } := by
  intro names filtered
  simp only [combine, if_neg some, weights_combine, List.zipWith_map_right, List.zipWith_self]
  rw [modelName_filterScores]
  refine List.map_congr_left fun score member => ?_
  have found : (weightMap (filtered.map fun s =>
        (s, ownWeight names performance baselineLogLoss s))).get score.modelName
      = .some (returnedWeight names performance baselineLogLoss filtered score.modelName) :=
    get_weightMap_of_mem member names
  unfold ownWeight at found
  rw [found, Option.getD_some]

omit [IsStrictOrderedRing K] in
theorem probability_combine (sqrt : K → K) (some : scores ≠ [])
    : let names := namesOf scores
      let filtered := filterScores flags scores
      let weight := ownWeight names performance baselineLogLoss
      (combine sqrt flags performance scores baselineLogLoss).probability
        = if 0 < (filtered.map weight).sum
            then (filtered.map fun s => s.probability * weight s).sum / (filtered.map weight).sum
            else 0.5 := by
  intro names filtered weight
  simp only [combine, if_neg some, weights_combine, List.zipWith_map_right, List.zipWith_self]
  rw [modelName_filterScores]
  simp only [List.map_map, Function.comp_def]
  rfl

omit [IsStrictOrderedRing K] in
/-- The flags change no candidate that has a base weight. -/
theorem isDropped_filterScores {name : String} (base : HasBase K names name)
    : isDropped (filterScores flags scores) name = isDropped scores name := by
  have filtered : (filterScores flags scores).filter (fun score => score.modelName = name)
      = filterScores flags (scores.filter fun score => score.modelName = name) := by
    rw [filterScores, List.filter_map, filterScores]
    congr 2
    funext score
    simp only [Function.comp_apply]
    split <;> rfl
  rw [isDropped, lastNamed, filtered, filterScores, List.getLast?_map, Option.any_map, isDropped,
    lastNamed]
  cases last : (scores.filter fun score => score.modelName = name).getLast? with
  | none => rfl
  | some own =>
      have same : own.modelName = name := by
        simpa using (List.mem_filter.mp (List.mem_of_getLast? last)).2
      simp only [Option.any_some]
      split
      · next off =>
          have other : isCandidateName own.modelName = false := by
            rw [same] at off ⊢
            exact Bool.eq_false_iff.mpr fun candidate =>
              not_hasBase_of_candidate off candidate base
          simp [ModelScore.isZeroed, other]
      · rfl

theorem returnedWeight_pos_iff {name : String} (member : name ∈ names)
    : 0 < returnedWeight names performance baselineLogLoss scores name
      ↔ Counts names performance baselineLogLoss name ∧ isDropped scores name = false := by
  have weights : Apportions names (Counts names performance baselineLogLoss)
      (suppressedWeight names performance baselineLogLoss) := apportions_suppressed
  rw [returnedWeight]
  split
  · next dropped => simp [dropped]
  · next kept => simp [kept, weights.positive name member]

theorem returnedWeight_nonneg {name : String} (member : name ∈ names)
    : 0 ≤ returnedWeight names performance baselineLogLoss scores name := by
  rw [returnedWeight]
  split
  · exact le_rfl
  · exact apportions_suppressed.nonneg name member

/-- The flags change no weight that is returned. -/
theorem returnedWeight_filterScores {name : String} (member : name ∈ names)
    : returnedWeight names performance baselineLogLoss (filterScores flags scores) name
      = returnedWeight names performance baselineLogLoss scores name := by
  have weights : Apportions names (Counts names performance baselineLogLoss)
      (suppressedWeight names performance baselineLogLoss) := apportions_suppressed
  by_cases base : HasBase K names name
  · rw [returnedWeight, isDropped_filterScores base, returnedWeight]
  · have none : suppressedWeight names performance baselineLogLoss name = 0 :=
      le_antisymm
        (not_lt.mp fun positive => base ((weights.positive name member).mp positive).1)
        (weights.nonneg name member)
    simp [returnedWeight, none]

theorem ownWeight_nonneg {score : ModelScore K} (member : score.modelName ∈ names)
    : 0 ≤ ownWeight names performance baselineLogLoss score := by
  rw [ownWeight]
  split
  · exact le_rfl
  · exact apportions_suppressed.nonneg _ member

theorem ownWeight_pos_iff {score : ModelScore K} (member : score.modelName ∈ names)
    : 0 < ownWeight names performance baselineLogLoss score
      ↔ Counts names performance baselineLogLoss score.modelName ∧ score.isZeroed = false := by
  have weights : Apportions names (Counts names performance baselineLogLoss)
      (suppressedWeight names performance baselineLogLoss) := apportions_suppressed
  rw [ownWeight]
  split
  · next zeroed => simp [zeroed]
  · next kept => simp [kept, weights.positive _ member]

/-- Where a model counts whose last score is kept, that score has the model's weight. -/
theorem sum_ownWeight_pos {score : ModelScore K} (member : score ∈ filterScores flags scores)
    (counted : Counts (namesOf scores) performance baselineLogLoss score.modelName)
    (kept : isDropped (filterScores flags scores) score.modelName = false)
    : 0 < ((filterScores flags scores).map
        (ownWeight (namesOf scores) performance baselineLogLoss)).sum := by
  have found : score ∈ (filterScores flags scores).filter fun s => s.modelName = score.modelName :=
    List.mem_filter.mpr ⟨member, by simp⟩
  cases last : lastNamed (filterScores flags scores) score.modelName with
  | none =>
      rw [lastNamed, List.getLast?_eq_none_iff] at last
      rw [last] at found
      cases found
  | some own =>
      obtain ⟨inside, named⟩ := List.mem_filter.mp (List.mem_of_getLast? last)
      have named : own.modelName = score.modelName := by simpa using named
      have unzeroed : own.isZeroed = false := by simpa [isDropped, last] using kept
      have nonneg : ∀ s ∈ filterScores flags scores,
          0 ≤ ownWeight (namesOf scores) performance baselineLogLoss s :=
        fun s among => ownWeight_nonneg (mem_namesOf_of_mem_filterScores among)
      refine (sum_weight_pos_iff nonneg).mpr ⟨own, inside, ?_⟩
      exact (ownWeight_pos_iff (mem_namesOf_of_mem_filterScores inside)).mpr
        ⟨named ▸ counted, unzeroed⟩

/-- Where a model counts whose last score is kept, the probability is between those of two models
that count.
-/
theorem exists_le_probability_le (sqrt : K → K) {score : ModelScore K}
    (member : score ∈ filterScores flags scores)
    (counted : Counts (namesOf scores) performance baselineLogLoss score.modelName)
    (kept : isDropped (filterScores flags scores) score.modelName = false)
    : ∃ low ∈ filterScores flags scores, ∃ high ∈ filterScores flags scores,
        Counts (namesOf scores) performance baselineLogLoss low.modelName
        ∧ Counts (namesOf scores) performance baselineLogLoss high.modelName
        ∧ (combine sqrt flags performance scores baselineLogLoss).probability
          ∈ Set.Icc low.probability high.probability := by
  have some : scores ≠ [] := by
    rintro rfl
    cases member
  have among : ∀ s ∈ filterScores flags scores, s.modelName ∈ namesOf scores :=
    fun s inside => mem_namesOf_of_mem_filterScores inside
  have nonneg : ∀ s ∈ filterScores flags scores,
      0 ≤ ownWeight (namesOf scores) performance baselineLogLoss s :=
    fun s inside => ownWeight_nonneg (among s inside)
  have positive := sum_ownWeight_pos member counted kept
  obtain ⟨low, inside, high, inside', used, used', between⟩ :=
    exists_le_average_le nonneg positive (·.probability)
  refine ⟨low, inside, high, inside', ((ownWeight_pos_iff (among low inside)).mp used).1,
    ((ownWeight_pos_iff (among high inside')).mp used').1, ?_⟩
  rw [probability_combine sqrt some, if_pos positive]
  exact between

/-- The scores that are returned, with the weights of their models. -/
theorem scores_combine_eq (sqrt : K → K) (some : scores ≠ [])
    : (combine sqrt flags performance scores baselineLogLoss).scores
      = (filterScores flags scores).map fun s =>
          { s with
            weight := returnedWeight (namesOf scores) performance baselineLogLoss scores
              s.modelName } := by
  rw [scores_combine sqrt some]
  refine List.map_congr_left fun s member => ?_
  rw [returnedWeight_filterScores (mem_namesOf_of_mem_filterScores member)]

theorem sum_weight_combine (sqrt : K → K) (some : scores ≠ [])
    : ((combine sqrt flags performance scores baselineLogLoss).scores.map (·.weight)).sum
      = ((namesOf scores).map
          (returnedWeight (namesOf scores) performance baselineLogLoss scores)).sum := by
  rw [scores_combine_eq sqrt some, List.map_map]
  have same : (filterScores flags scores).map (·.modelName) = namesOf scores :=
    modelName_filterScores
  conv_rhs => rw [← same, List.map_map]
  rw [same]
  rfl

/-- A model off is a candidate, or the streak-aware one. -/
theorem candidate_or_streak_of_isOff {name : String} (off : flags.isOff name = true)
    : isCandidateName name = true ∨ name = "StreakAwareModel" ∧ flags.enableStreak = false := by
  simp only [EnsembleFlags.isOff, Bool.or_eq_true, Bool.and_eq_true, decide_eq_true_eq,
    Bool.not_eq_true'] at off
  rcases off with (((⟨rfl, _⟩ | streak) | ⟨rfl, _⟩) | ⟨rfl, _⟩) | ⟨rfl, _⟩
  · exact .inl (by decide)
  · exact .inr streak
  · exact .inl (by decide)
  · exact .inl (by decide)
  · exact .inl (by decide)

omit [IsStrictOrderedRing K] in
theorem isDropped_streak (scores : List (ModelScore K))
    : isDropped scores "StreakAwareModel" = false := by
  have other : isCandidateName "StreakAwareModel" = false := by decide
  rw [isDropped]
  cases last : lastNamed scores "StreakAwareModel" with
  | none => rfl
  | some own =>
      have named : own.modelName = "StreakAwareModel" := by
        simpa using (List.mem_filter.mp (List.mem_of_getLast? last)).2
      simp [ModelScore.isZeroed, named, other]

/-- A score that is returned has the weight of its model. -/
theorem weight_of_mem (sqrt : K → K) (some : scores ≠ []) {score : ModelScore K}
    (member : score ∈ (combine sqrt flags performance scores baselineLogLoss).scores)
    : score.modelName ∈ namesOf scores
      ∧ score.weight
        = returnedWeight (namesOf scores) performance baselineLogLoss scores score.modelName := by
  rw [scores_combine_eq sqrt some] at member
  obtain ⟨own, inside, rfl⟩ := List.mem_map.mp member
  have named := mem_namesOf_of_mem_filterScores inside
  exact ⟨named, rfl⟩

/-- A score that comes in is returned with the weight of its model. -/
theorem exists_returned (sqrt : K → K) {own : ModelScore K}
    (inside : own ∈ filterScores flags scores)
    : ∃ score ∈ (combine sqrt flags performance scores baselineLogLoss).scores,
        score.modelName = own.modelName ∧ score.probability = own.probability
        ∧ score.weight
          = returnedWeight (namesOf scores) performance baselineLogLoss scores own.modelName := by
  have some : scores ≠ [] := by
    rintro rfl
    cases inside
  rw [scores_combine_eq sqrt some]
  exact ⟨_, List.mem_map_of_mem inside, rfl, rfl, rfl⟩

/-- A weight is positive where a model counts and is kept. -/
theorem exists_weight_pos_iff (sqrt : K → K) (some : scores ≠ [])
    : (∃ score ∈ (combine sqrt flags performance scores baselineLogLoss).scores, 0 < score.weight)
      ↔ ∃ own ∈ filterScores flags scores,
          Counts (namesOf scores) performance baselineLogLoss own.modelName
          ∧ isDropped scores own.modelName = false := by
  constructor
  · rintro ⟨score, member, positive⟩
    rw [scores_combine_eq sqrt some] at member
    obtain ⟨own, inside, rfl⟩ := List.mem_map.mp member
    have named := mem_namesOf_of_mem_filterScores inside
    exact ⟨own, inside, (returnedWeight_pos_iff named).mp positive⟩
  · rintro ⟨own, inside, counted⟩
    obtain ⟨score, member, -, -, weight⟩ := exists_returned sqrt inside
    refine ⟨score, member, ?_⟩
    rw [weight]
    exact (returnedWeight_pos_iff (mem_namesOf_of_mem_filterScores inside)).mpr counted

-----------------------------------------------------------------------------------------
-- What is promised of the result
-----------------------------------------------------------------------------------------

/-- No weight is negative, those of the models used sum to one, a model that is off has none, and
the probability is between those of two models that are used.
-/
structure CombineLaw (flags : EnsembleFlags) (result : EnsembleResult K) : Prop where
  nonneg : ∀ score ∈ result.scores, 0 ≤ score.weight
  total : (∃ score ∈ result.scores, 0 < score.weight) → (result.scores.map (·.weight)).sum = 1
  off : ∀ score ∈ result.scores, flags.isOff score.modelName = true → score.weight = 0
  between : (∃ score ∈ result.scores, 0 < score.weight) →
    ∃ low ∈ result.scores, ∃ high ∈ result.scores, 0 < low.weight ∧ 0 < high.weight
      ∧ result.probability ∈ Set.Icc low.probability high.probability

omit [IsStrictOrderedRing K] in
/-- No model that is off counts: the others than the streak-aware one have no base weight. -/
theorem not_counts_of_isOff {name : String} (off : flags.isOff name = true)
    (streak : flags.enableStreak = false → name = "StreakAwareModel"
      → ¬ Counts names performance baselineLogLoss name)
    : ¬ Counts names performance baselineLogLoss name := by
  intro counted
  rcases candidate_or_streak_of_isOff off with candidate | ⟨same, disabled⟩
  · exact not_hasBase_of_candidate off candidate counted.1
  · exact streak disabled same counted

/-- By the law the streak-aware model does not count when it is off: it comes back with the weight
that it counts with.
-/
theorem CombineLaw.not_counts_streak {sqrt : K → K} {name : String}
    (law : CombineLaw flags (combine sqrt flags performance scores baselineLogLoss))
    (disabled : flags.enableStreak = false) (named : name ∈ namesOf scores)
    (streak : name = "StreakAwareModel")
    : ¬ Counts (namesOf scores) performance baselineLogLoss name := by
  intro counted
  have off : flags.isOff name = true := by simp [EnsembleFlags.isOff, streak, disabled]
  have kept : isDropped scores name = false := by rw [streak, isDropped_streak]
  have same : (filterScores flags scores).map (·.modelName) = namesOf scores :=
    modelName_filterScores
  have inside := named
  rw [← same] at inside
  obtain ⟨own, among, rfl⟩ := List.mem_map.mp inside
  obtain ⟨score, member, model, -, weight⟩ := exists_returned sqrt among
  have zero := law.off score member (model ▸ off)
  have positive := (returnedWeight_pos_iff named).mpr ⟨counted, kept⟩
  exact positive.ne (zero.symm.trans weight)

/-- By the law the models that count are all dropped, or all kept. -/
theorem CombineLaw.together {sqrt : K → K} (some : scores ≠ [])
    (law : CombineLaw flags (combine sqrt flags performance scores baselineLogLoss))
    : (∀ name ∈ namesOf scores, Counts (namesOf scores) performance baselineLogLoss name
        → isDropped scores name = true)
      ∨ ∀ name ∈ namesOf scores, Counts (namesOf scores) performance baselineLogLoss name
        → isDropped scores name = false := by
  have weights : Apportions (namesOf scores) (Counts (namesOf scores) performance baselineLogLoss)
      (suppressedWeight (namesOf scores) performance baselineLogLoss) := apportions_suppressed
  by_cases used : ∃ own ∈ filterScores flags scores,
      Counts (namesOf scores) performance baselineLogLoss own.modelName
      ∧ isDropped scores own.modelName = false
  · have total := law.total ((exists_weight_pos_iff sqrt some).mpr used)
    rw [sum_weight_combine sqrt some] at total
    obtain ⟨own, inside, counted, -⟩ := used
    have named := mem_namesOf_of_mem_filterScores inside
    exact .inr ((weights.sum_kept_iff ⟨_, named, counted⟩ (isDropped scores)).mp total)
  · left
    intro name named counted
    by_contra kept
    have same : (filterScores flags scores).map (·.modelName) = namesOf scores :=
      modelName_filterScores
    rw [← same] at named
    obtain ⟨own, among, rfl⟩ := List.mem_map.mp named
    exact used ⟨own, among, counted, Bool.eq_false_iff.mpr kept⟩

/-- Where all models that count are kept, and one does, the probability is between those of two
scores that are returned with a positive weight.
-/
theorem exists_returned_between (sqrt : K → K) {own : ModelScore K}
    (inside : own ∈ filterScores flags scores)
    (counted : Counts (namesOf scores) performance baselineLogLoss own.modelName)
    (all : ∀ name ∈ namesOf scores, Counts (namesOf scores) performance baselineLogLoss name
      → isDropped scores name = false)
    : let result := combine sqrt flags performance scores baselineLogLoss
      ∃ low ∈ result.scores, ∃ high ∈ result.scores, 0 < low.weight ∧ 0 < high.weight
        ∧ result.probability ∈ Set.Icc low.probability high.probability := by
  intro result
  have positive : ∀ other ∈ filterScores flags scores,
      Counts (namesOf scores) performance baselineLogLoss other.modelName
      → 0 < returnedWeight (namesOf scores) performance baselineLogLoss scores
          other.modelName := by
    intro other among counted'
    have named := mem_namesOf_of_mem_filterScores among
    exact (returnedWeight_pos_iff named).mpr ⟨counted', all _ named counted'⟩
  have kept : isDropped (filterScores flags scores) own.modelName = false := by
    rw [isDropped_filterScores counted.1]
    exact all _ (mem_namesOf_of_mem_filterScores inside) counted
  obtain ⟨low, among, high, among', counts, counts', between⟩ :=
    exists_le_probability_le sqrt inside counted kept
  obtain ⟨least, member, -, value, weight⟩ := exists_returned sqrt among
  obtain ⟨most, member', -, value', weight'⟩ := exists_returned sqrt among'
  refine ⟨least, member, most, member', ?_, ?_, ?_⟩
  · rw [weight]
    exact positive low among counts
  · rw [weight']
    exact positive high among' counts'
  · rwa [value, value']

/-- The law of the weights, where scores come: the streak-aware model does not count when it is off,
and the candidates that come with no weight are all or none of the models that count.
-/
theorem combineLaw_iff_of_ne_nil (sqrt : K → K) (some : scores ≠ [])
    : CombineLaw flags (combine sqrt flags performance scores baselineLogLoss)
      ↔ (flags.enableStreak = false → ∀ name ∈ namesOf scores, name = "StreakAwareModel"
          → ¬ Counts (namesOf scores) performance baselineLogLoss name)
        ∧ ((∀ name ∈ namesOf scores, Counts (namesOf scores) performance baselineLogLoss name
              → isDropped scores name = true)
          ∨ ∀ name ∈ namesOf scores, Counts (namesOf scores) performance baselineLogLoss name
              → isDropped scores name = false) := by
  have weights : Apportions (namesOf scores) (Counts (namesOf scores) performance baselineLogLoss)
      (suppressedWeight (namesOf scores) performance baselineLogLoss) := apportions_suppressed
  constructor
  · intro law
    exact ⟨fun disabled _ named streak => law.not_counts_streak disabled named streak,
      law.together some⟩
  · rintro ⟨streak, together⟩
    have all : ∀ own ∈ filterScores flags scores,
        Counts (namesOf scores) performance baselineLogLoss own.modelName
        → isDropped scores own.modelName = false
        → ∀ name ∈ namesOf scores, Counts (namesOf scores) performance baselineLogLoss name
          → isDropped scores name = false := by
      intro own inside counted kept
      refine together.resolve_left fun dropped => ?_
      have gone := dropped _ (mem_namesOf_of_mem_filterScores inside) counted
      exact absurd (kept.symm.trans gone) Bool.false_ne_true
    constructor
    · intro score member
      obtain ⟨named, weight⟩ := weight_of_mem sqrt some member
      rw [weight]
      exact returnedWeight_nonneg named
    · intro used
      obtain ⟨own, inside, counted, kept⟩ := (exists_weight_pos_iff sqrt some).mp used
      have named := mem_namesOf_of_mem_filterScores inside
      rw [sum_weight_combine sqrt some]
      exact (weights.sum_kept_iff ⟨_, named, counted⟩ (isDropped scores)).mpr
        (all own inside counted kept)
    · intro score member off
      obtain ⟨named, weight⟩ := weight_of_mem sqrt some member
      have uncounted := not_counts_of_isOff off fun disabled => streak disabled _ named
      rw [weight]
      refine le_antisymm (not_lt.mp fun positive => ?_) (returnedWeight_nonneg named)
      exact uncounted ((returnedWeight_pos_iff named).mp positive).1
    · intro used
      obtain ⟨own, inside, counted, kept⟩ := (exists_weight_pos_iff sqrt some).mp used
      exact exists_returned_between sqrt inside counted (all own inside counted kept)

theorem combineLaw_iff (sqrt : K → K) (flags : EnsembleFlags)
    (performance : ModelPerformanceTracker K) (scores : List (ModelScore K)) (baselineLogLoss : K)
    : let names := scores.map (·.modelName)
      let counts := Counts names performance baselineLogLoss
      CombineLaw flags (combine sqrt flags performance scores baselineLogLoss)
        ↔ (flags.enableStreak = false → ∀ name ∈ names, name = "StreakAwareModel" → ¬ counts name)
          ∧ ((∀ name ∈ names, counts name → isDropped scores name = true)
            ∨ ∀ name ∈ names, counts name → isDropped scores name = false) := by
  intro names counts
  by_cases none : scores = []
  · subst none
    refine iff_of_true ?_ ?_
    · constructor <;> simp [combine]
    · simp [names]
  · exact combineLaw_iff_of_ne_nil sqrt none

/-- Two models that no flag turns off. -/
theorem combineLaw_frequencies
    : CombineLaw {}
        (combine id {} ∅
          [(⟨"FrequencyModel", "1", 0.6, 1, 1⟩ : ModelScore ℚ),
            ⟨"RegimeAdjustedModel", "1", 0.7, 1, 1⟩]
          0.65) := by
  refine (combineLaw_iff id {} ∅ _ 0.65).mpr ⟨?_, Or.inr ?_⟩
  · intro _ name among streak
    subst streak
    exact absurd among (by decide)
  · intro name among _
    rcases List.mem_cons.mp among with rfl | rest
    · decide
    · obtain rfl := List.mem_singleton.mp rest
      decide

/-- The streak-aware model alone, with its flag off, is combined with all the weight. -/
theorem combine_streak_off
    : let scores : List (ModelScore ℚ) := [⟨"StreakAwareModel", "1", 0.9, 1, 1⟩]
      let result := combine id {} ∅ scores 0.65
      result.scores = [⟨"StreakAwareModel", "1", 0.9, 1, 1⟩]
        ∧ result.probability = 0.9
        ∧ ({} : EnsembleFlags).isOff "StreakAwareModel" = true := by
  decide +kernel

end CrashWave.Ensemble
