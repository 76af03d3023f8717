import CrashWave.Core.SheathMode.SheathMode
import CrashWave.Observability.HotCache
import CrashWave.Opportunity.Ranker
import Mathlib.Data.Rat.Floor

/-! The decision engine: an opportunity is scored, ranked among the others and entered, or not. The
logarithm and the exponential function are the platform's; one clock reading for each decision.
-/

namespace CrashWave.Opportunity

open CrashWave.Observability CrashWave.Sheath JavaScript Rankings Runs

section Score

variable {K : Type*} [Field K] [LinearOrder K]

/-- `geometricMean`, with `Math.log` and `Math.exp`. -/
def geometricMean (log exp : K → K) (values : List K) : K :=
  let clamped := values.map fun v => max 1e-9 (min 1 v)
  let logSum := clamped.foldl (fun acc v => acc + log v) 0
  exp (logSum / clamped.length)

def scoreOpportunity (log exp : K → K) (dims : OpportunityDimensions K) : K :=
  geometricMean log exp
    [dims.edge, dims.confidence, dims.dataQuality, dims.regimeFit, dims.executionFeasibility,
      dims.temporalConsistency]

end Score

/-- `DecisionType`. -/
inductive DecisionType where
  | enter
  | wait
  | reject
  | monitor
  | escalate
  | reduceExposure
  | sheath
  | requestConfirmation
  deriving DecidableEq

/-- A reason of a decision, with the values that its text shows. -/
inductive DecisionReason (K : Type*) where
  | bettingSuspended (state : SheathState)
  | belowRankerThreshold (quality : K)
  | belowThreshold (quality threshold : K)
  | outsideTopFraction (rank : Option Nat)
  | confidenceTooLow
  | entry (quality threshold : K) (rank : Option Nat)
  deriving DecidableEq

/-- The values of `predictionHotCache`, without the reasoning. -/
structure CachedPrediction (K : Type*) where
  probability : K
  confidence : K
  regimeId : Option String
  modelVersion : String

structure DecisionInput (K : Type*) where
  roundId : String
  tenantId : Option String := none
  probability : K
  confidence : K
  dimensions : OpportunityDimensions K
  regime : Option String := none
  modelVersion : Option String := none
  predictionId : Option String := none
  dynamicThreshold : Option K := none

structure DecisionProvenance where
  predictionId : Option String
  modelVersions : Option (List String)
  regime : Option String
  sheathState : Option SheathState
  deriving DecidableEq

structure DecisionRecord (K : Type*) where
  id : String
  opportunityId : String
  roundId : String
  decision : DecisionType
  qualityScore : K
  rank : Option Nat
  thresholdUsed : K
  reasons : List (DecisionReason K)
  provenance : DecisionProvenance
  decidedAt : Int
  deriving DecidableEq

/-- The engine with its ranker and its sheath mode, and the hot caches that it reads. -/
structure DecisionEngine (K : Type*) where
  ranker : OpportunityRanker K
  sheathMode : Option SheathMode := none
  baseEnterThreshold : K
  featureHotCache : HotCache (String → Option K)
  predictionHotCache : HotCache (CachedPrediction K)

namespace DecisionEngine

variable {K : Type*} [Field K] [LinearOrder K] [FloorRing K]

/-- The dimensions with what the cached features say about them. -/
def cachedDimensions (dims : OpportunityDimensions K)
    : Option (String → Option K) → OpportunityDimensions K
  | none => dims
  | some features =>
      { dims with
        dataQuality := (features "quality_score").getD dims.dataQuality
        temporalConsistency :=
          min 1 (0.5 + (features "hit_rate_13").getD 0.5 * 0.5) }

/-- What is decided of a ranked opportunity, and why. -/
def judge (sheathMode : Option SheathMode) (quality threshold confidence : K)
    (ranked : Option (ScoredOpportunity K)) (approved : Bool)
    : DecisionType × DecisionReason K :=
  match sheathMode.filter SheathMode.isBettingSuspended, ranked with
  | some mode, _ => (.sheath, .bettingSuspended mode.state)
  | none, none => (.reject, .belowRankerThreshold quality)
  | none, some ranked =>
      if quality < threshold then
        (.reject, .belowThreshold quality threshold)
      else if !approved then
        (.wait, .outsideTopFraction ranked.rank)
      else if confidence < 0.25 then
        (.monitor, .confidenceTooLow)
      else
        (.enter, .entry quality threshold ranked.rank)

/-- `decide`, with the two ids that it draws and the time. -/
def decide (log exp : K → K) (engine : DecisionEngine K) (input : DecisionInput K)
    (opportunityId recordId : String) (now : Int) : DecisionEngine K × DecisionRecord K :=
  let (featureHotCache, cachedFeatures) := engine.featureHotCache.get "latest" now
  let (predictionHotCache, cachedPred) := engine.predictionHotCache.get input.roundId now
  let dims := cachedDimensions input.dimensions cachedFeatures
  let probability := (cachedPred.map CachedPrediction.probability).getD input.probability
  let confidence := (cachedPred.map CachedPrediction.confidence).getD input.confidence
  let qualityScore := scoreOpportunity log exp dims
  let opportunity : ScoredOpportunity K :=
    { id := opportunityId
      roundId := input.roundId
      tenantId := input.tenantId
      dimensions := dims
      qualityScore
      probability
      confidence
      regime := input.regime <|> cachedPred.bind CachedPrediction.regimeId
      modelVersion := input.modelVersion <|> cachedPred.map CachedPrediction.modelVersion
      scoredAt := now
      expiresAt := now + 45000 }
  let (ranker, ranked) := engine.ranker.upsert opportunity now
  let threshold := input.dynamicThreshold.getD engine.baseEnterThreshold
  -- The ranker is asked only where all checks before have passed; it evicts nothing more then.
  let (approving, approved) := ranker.isApproved opportunityId now
  let (decision, reason) :=
    judge engine.sheathMode qualityScore threshold confidence ranked approved
  let asked :=
    engine.sheathMode.all (fun mode => !mode.isBettingSuspended) && ranked.isSome
      && !Decidable.decide (qualityScore < threshold)
  ({ engine with
      ranker := if asked then approving else ranker
      featureHotCache
      predictionHotCache },
    { id := recordId
      opportunityId
      roundId := input.roundId
      decision
      qualityScore
      rank := ranked.bind ScoredOpportunity.rank
      thresholdUsed := threshold
      reasons := [reason]
      provenance :=
        { predictionId := input.predictionId
          -- An empty version is falsy.
          modelVersions := (input.modelVersion.filter (· ≠ "")).map ([·])
          regime := input.regime
          sheathState := engine.sheathMode.map SheathMode.state }
      decidedAt := now })

/-- What may happen to the engine, its ranker, its sheath mode and the caches. -/
inductive Event (K : Type*) where
  | decide (input : DecisionInput K) (opportunityId recordId : String) (now : Int)
  | rank (call : RankerCall K)
  | feature (call : CacheCall (String → Option K))
  | prediction (call : CacheCall (CachedPrediction K))
  | sheath (mode : SheathMode)

def step (log exp : K → K) (engine : DecisionEngine K) : Event K → DecisionEngine K
  | .decide input opportunityId recordId now =>
      (engine.decide log exp input opportunityId recordId now).1
  | .rank call => { engine with ranker := engine.ranker.next call }
  | .feature call => { engine with featureHotCache := engine.featureHotCache.next call }
  | .prediction call => { engine with predictionHotCache := engine.predictionHotCache.next call }
  | .sheath mode => { engine with sheathMode := some mode }

-----------------------------------------------------------------------------------------
-- The ranker in a decision
-----------------------------------------------------------------------------------------

open OpportunityRanker ScoredOpportunity

/-- What has not expired. -/
def live (ranker : OpportunityRanker K) (now : Int) : List (ScoredOpportunity K) :=
  ranker.window.filter fun opp => now ≤ opp.expiresAt

omit [Field K] [LinearOrder K] [FloorRing K] in
theorem window_evictExpired (ranker : OpportunityRanker K) (now : Int)
    : (ranker.evictExpired now).window = live ranker now := by
  simp [OpportunityRanker.evictExpired, live]

section Upsert

variable {ranker : OpportunityRanker K} {opp : ScoredOpportunity K} {now : Int}

omit [Field K] [LinearOrder K] [FloorRing K] in
/-- An opportunity with a new id joins what has not expired. -/
theorem replace_live (fresh : ∀ other ∈ ranker.window, other.id ≠ opp.id)
    : replace (ranker.evictExpired now).window opp = live ranker now ++ [opp] := by
  rw [window_evictExpired]
  rcases replace_cases (live ranker now) opp with
    ⟨before, old, after, split, same, -⟩ | ⟨-, replaced⟩
  · have member : old ∈ live ranker now := by
      rw [split]
      exact List.mem_append_right _ (List.mem_cons_self ..)
    exact absurd same (fresh old (List.mem_of_mem_filter member))
  · exact replaced

omit [Field K] [FloorRing K] in
/-- It is answered with its place: behind all that are no worse. -/
theorem snd_upsert_fresh (opp : ScoredOpportunity K) (now : Int) (sound : Sound ranker)
    (fresh : ∀ other ∈ ranker.window, other.id ≠ opp.id)
    : (ranker.upsert opp now).2
      = if ranker.minQualityScore ≤ opp.qualityScore
            ∧ (live ranker now).countP (fun other => opp.qualityScore ≤ other.qualityScore)
              < ranker.windowSize then
          some { opp with
            rank := some
              ((live ranker now).countP (fun other => opp.qualityScore ≤ other.qualityScore) + 1) }
        else
          none := by
  by_cases low : opp.qualityScore < ranker.minQualityScore
  · rw [OpportunityRanker.upsert, if_pos low, if_neg]
    exact fun both => absurd low (not_lt.mpr both.1)
  · have distinct := replace_nodup (sound.evictExpired now).distinct opp
    rw [replace_live fresh] at distinct
    rw [snd_upsert low (replace_live fresh) distinct, standing, List.countP_nil, Nat.add_zero]
    simp only [not_lt.mp low, true_and]

omit [FloorRing K] [Field K] in
/-- The window then has as many as fit, and none of them has expired. -/
theorem window_upsert_fresh (enough : ranker.minQualityScore ≤ opp.qualityScore)
    (fresh : ∀ other ∈ ranker.window, other.id ≠ opp.id) (lasts : now ≤ opp.expiresAt)
    : (ranker.upsert opp now).1.window.length
        = min ranker.windowSize ((live ranker now).length + 1)
      ∧ (ranker.upsert opp now).1.evictExpired now = (ranker.upsert opp now).1 := by
  rw [OpportunityRanker.upsert, if_neg (not_lt.mpr enough)]
  rw [replace_live fresh]
  constructor
  · simp [assignRanks, (ranking_perm _ _).length_eq]
  · rw [OpportunityRanker.evictExpired]
    congr 1
    rw [List.filter_eq_self]
    intro other member
    obtain ⟨old, among, same, -, -⟩ := mem_assignRanks member
    have there := (ranking_perm qualityScore _).mem_iff.mp (List.mem_of_mem_take among)
    have expiry : other.unranked.expiresAt = old.unranked.expiresAt :=
      congrArg ScoredOpportunity.expiresAt same
    change Decidable.decide (¬ other.unranked.expiresAt < now) = true
    rw [expiry]
    refine decide_eq_true (not_lt.mpr ?_)
    rcases List.mem_append.mp there with held | last
    · exact of_decide_eq_true (List.mem_filter.mp held).2
    · rw [List.mem_singleton.mp last]
      exact lasts

/-- Whether it is approved then. -/
theorem isApproved_upsert_fresh (sound : Sound ranker)
    (fresh : ∀ other ∈ ranker.window, other.id ≠ opp.id) (lasts : now ≤ opp.expiresAt)
    (enough : ranker.minQualityScore ≤ opp.qualityScore)
    (fits
      : (live ranker now).countP (fun other => opp.qualityScore ≤ other.qualityScore)
        < ranker.windowSize)
    : ((ranker.upsert opp now).1.isApproved opp.id now).2 = true
      ↔ ((live ranker now).countP (fun other => opp.qualityScore ≤ other.qualityScore) + 1 : Int)
          ≤ ranker.cutoff (min ranker.windowSize ((live ranker now).length + 1)) := by
  obtain ⟨length, still⟩ := window_upsert_fresh enough fresh lasts
  have found := snd_upsert_fresh opp now sound fresh
  rw [if_pos ⟨enough, fits⟩] at found
  have answer : (ranker.upsert opp now).2
      = (ranker.upsert opp now).1.window.find? fun other => other.id = opp.id := by
    rw [OpportunityRanker.upsert, if_neg (not_lt.mpr enough)]
  have fraction : (ranker.upsert opp now).1.topFraction = ranker.topFraction :=
    (next_options ranker (.upsert opp now)).2.2
  rw [isApproved, still, ← answer, found, length, cutoff, cutoff, fraction]
  simp

end Upsert

-----------------------------------------------------------------------------------------
-- Decisions over every run
-----------------------------------------------------------------------------------------

/-- A decision changes the ranker as calls of it do. -/
theorem exists_calls_decide (log exp : K → K) (engine : DecisionEngine K)
    (input : DecisionInput K) (opportunityId recordId : String) (now : Int)
    : ∃ calls,
        (engine.decide log exp input opportunityId recordId now).1.ranker
        = run OpportunityRanker.next engine.ranker calls := by
  rw [decide]
  dsimp only
  split_ifs
  · exact ⟨[.upsert _ now, .isApproved opportunityId now], rfl⟩
  · exact ⟨[.upsert _ now], rfl⟩

/-- What events leave of the engine: its ranker is sound, and its options stay. -/
structure Running (start engine : DecisionEngine K) : Prop where
  sound : OpportunityRanker.Sound engine.ranker
  windowSize : engine.ranker.windowSize = start.ranker.windowSize
  topFraction : engine.ranker.topFraction = start.ranker.topFraction
  minQualityScore : engine.ranker.minQualityScore = start.ranker.minQualityScore
  baseEnterThreshold : engine.baseEnterThreshold = start.baseEnterThreshold

theorem Running.rank {start engine : DecisionEngine K} (running : Running start engine)
    (calls : List (RankerCall K)) {next : DecisionEngine K}
    (ranker : next.ranker = run OpportunityRanker.next engine.ranker calls)
    (threshold : next.baseEnterThreshold = engine.baseEnterThreshold) : Running start next := by
  have kept := @run_invariant _ _ OpportunityRanker.next
    (fun ranker : OpportunityRanker K =>
      OpportunityRanker.Sound ranker ∧ ranker.windowSize = start.ranker.windowSize
      ∧ ranker.topFraction = start.ranker.topFraction
      ∧ ranker.minQualityScore = start.ranker.minQualityScore)
    (by
      intro ranker call ⟨sound, size, fraction, quality⟩
      obtain ⟨same, size', fraction'⟩ := next_options ranker call
      exact ⟨sound.next call, size'.trans size, fraction'.trans fraction, same.trans quality⟩)
    _ calls
    ⟨running.sound, running.windowSize, running.topFraction, running.minQualityScore⟩
  rw [← ranker] at kept
  exact ⟨kept.1, kept.2.1, kept.2.2.1, kept.2.2.2, threshold.trans running.baseEnterThreshold⟩

/-- Every event leaves the engine running, by cases on the event. -/
theorem Running.step (log exp : K → K) {start engine : DecisionEngine K}
    (running : Running start engine) (event : Event K)
    : Running start (engine.step log exp event) := by
  cases event with
  | decide input opportunityId recordId now =>
      obtain ⟨calls, ranker⟩ := exists_calls_decide log exp engine input opportunityId recordId now
      exact running.rank calls ranker rfl
  | rank call => exact running.rank [call] rfl rfl
  | feature call => exact running.rank [] rfl rfl
  | prediction call => exact running.rank [] rfl rfl
  | sheath mode => exact running.rank [] rfl rfl

theorem running_run (log exp : K → K) (start : DecisionEngine K)
    (empty : start.ranker.window = []) (events : List (Event K))
    : Running start (run (step log exp) start events) := by
  refine run_invariant (fun engine event running => running.step log exp event) events ?_
  have accounted := accounted_run start.ranker empty []
  exact ⟨accounted.sound, rfl, rfl, rfl, rfl⟩

omit [FloorRing K] in
/-- The verdict, check by check. -/
theorem judge_fst (sheathMode : Option SheathMode) (quality threshold confidence : K)
    (ranked : Option (ScoredOpportunity K)) (approved : Bool)
    : (judge sheathMode quality threshold confidence ranked approved).1
      = if sheathMode.any SheathMode.isBettingSuspended then .sheath
        else if ranked.isNone ∨ quality < threshold then .reject
        else if approved = false then .wait
        else if confidence < 0.25 then .monitor
        else .enter := by
  have any : sheathMode.any SheathMode.isBettingSuspended
      = (sheathMode.filter SheathMode.isBettingSuspended).isSome := by
    cases sheathMode with
    | none => rfl
    | some mode => cases stops : mode.isBettingSuspended <;> simp [stops]
  unfold judge
  rw [any]
  cases sheathMode.filter SheathMode.isBettingSuspended with
  | some mode => rfl
  | none =>
      cases ranked with
      | none => simp
      | some opp =>
          by_cases below : quality < threshold
          · simp [below]
          · cases approved with
            | false => simp [below]
            | true => simp [below, apply_ite Prod.fst]

/-- The place and the verdict of a decision, by the cases of its checks. -/
theorem decide_by_standing (log exp : K → K) {engine : DecisionEngine K}
    (sound : OpportunityRanker.Sound engine.ranker) (input : DecisionInput K)
    (opportunityId recordId : String) (now : Int)
    (fresh : ∀ other ∈ engine.ranker.window, other.id ≠ opportunityId)
    : let cachedPred := (engine.predictionHotCache.get input.roundId now).2
      let quality := scoreOpportunity log exp
        (cachedDimensions input.dimensions (engine.featureHotCache.get "latest" now).2)
      let confidence := (cachedPred.map CachedPrediction.confidence).getD input.confidence
      let threshold := input.dynamicThreshold.getD engine.baseEnterThreshold
      let held := live engine.ranker now
      let better := held.countP fun other => quality ≤ other.qualityScore
      let ranks := engine.ranker.minQualityScore ≤ quality ∧ better < engine.ranker.windowSize
      let record := (engine.decide log exp input opportunityId recordId now).2
      record.rank = (if ranks then some (better + 1) else none)
      ∧ record.decision
        = if engine.sheathMode.any SheathMode.isBettingSuspended then .sheath
          else if ¬ ranks ∨ quality < threshold then .reject
          else if engine.ranker.cutoff (min engine.ranker.windowSize (held.length + 1))
            < (better + 1 : Int) then .wait
          else if confidence < 0.25 then .monitor
          else .enter := by
  intro cachedPred quality confidence threshold held better ranks record
  let opp : ScoredOpportunity K :=
    { id := opportunityId
      roundId := input.roundId
      tenantId := input.tenantId
      dimensions := cachedDimensions input.dimensions (engine.featureHotCache.get "latest" now).2
      qualityScore := quality
      probability := (cachedPred.map CachedPrediction.probability).getD input.probability
      confidence
      regime := input.regime <|> cachedPred.bind CachedPrediction.regimeId
      modelVersion := input.modelVersion <|> cachedPred.map CachedPrediction.modelVersion
      scoredAt := now
      expiresAt := now + 45000 }
  have lasts : now ≤ opp.expiresAt := by
    change now ≤ now + 45000
    omega
  have ranked := snd_upsert_fresh opp now sound fresh
  have rank : record.rank = (engine.ranker.upsert opp now).2.bind ScoredOpportunity.rank := rfl
  have verdict : record.decision
      = (judge engine.sheathMode quality threshold confidence (engine.ranker.upsert opp now).2
          ((engine.ranker.upsert opp now).1.isApproved opp.id now).2).1 := rfl
  change (engine.ranker.upsert opp now).2 = if ranks then _ else none at ranked
  rw [ranked] at rank verdict
  constructor
  · rw [rank]
    by_cases fits : ranks
    · rw [if_pos fits, if_pos fits]
      rfl
    · rw [if_neg fits, if_neg fits]
      rfl
  · rw [verdict, judge_fst]
    by_cases fits : ranks
    · have approval := isApproved_upsert_fresh sound fresh lasts fits.1 fits.2
      change _ ↔ (better + 1 : Int)
        ≤ engine.ranker.cutoff (min engine.ranker.windowSize (held.length + 1)) at approval
      rw [← not_iff_not, not_le, Bool.not_eq_true] at approval
      simp only [fits, if_true, Option.isNone_some, not_true_eq_false, approval, false_or,
        Bool.false_eq_true]
    · simp only [fits, if_false, Option.isNone_none, not_false_eq_true, true_or, if_true]

/-- Dimensions of an opportunity without fault. -/
def faultless : OpportunityDimensions ℚ :=
  { edge := 1
    confidence := 1
    dataQuality := 1
    regimeFit := 1
    executionFeasibility := 1
    temporalConsistency := 1 }

/-- An engine with its defaults. -/
def freshEngine : DecisionEngine ℚ :=
  { ranker := OpportunityRanker.default
    baseEnterThreshold := 0.42
    featureHotCache := { defaultTtlMs := 10000, maxEntries := 512 }
    predictionHotCache := { defaultTtlMs := 3000, maxEntries := 64 } }

/-- A decision of a round. -/
def firstDecision : List (Event ℚ) :=
  [.decide { roundId := "round-1", probability := 1 / 2, confidence := 1, dimensions := faultless }
    "first" "record-1" 1000]

end DecisionEngine

end CrashWave.Opportunity
