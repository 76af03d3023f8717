import CrashWave.JavaScript.Map
import CrashWave.Prediction.BacktestEngine
import Mathlib.Data.List.Chain
import Mathlib.Data.List.Dedup
import Mathlib.Data.List.Sort

/-! The datasets that models are fitted and judged on: for each round that has enough history, the
features of the rounds before it and the labels of its own crash point.
-/

namespace CrashWave.Datasets

open JavaScript CrashWave.Backtest CrashWave.History CrashWave.Prediction

/-- What datasets take from the platform: roots, the instant of a date, the texts of numbers and
`createHash('sha256')` with its hexadecimal digest.
-/
structure Platform where
  sqrt : Number → Number
  getTime : String → Number
  toFixed : Number → Nat → String
  toString : Number → String
  sha256 : String → String

-----------------------------------------------------------------------------------------
-- Features
-----------------------------------------------------------------------------------------

/-- `values.slice(-count)`. -/
def lastOf {α : Type*} (count : Nat) (values : List α) : List α :=
  values.drop (values.length - count)

/-- `values.reduce((a, b) => a + b, 0)`. -/
def total (values : List Number) : Number := values.foldl (· + ·) 0

def mean (values : List Number) : Number :=
  if values.isEmpty then 0 else total values / .finite values.length

/-- `[...values].sort((a, b) => a - b)`. -/
def sorted (values : List Number) : List Number :=
  values.insertionSort fun a b => ¬ b < a

def median (values : List Number) : Number :=
  if values.isEmpty then 0
  else
    let s := sorted values
    let mid := s.length / 2
    if s.length % 2 = 0 then (s.getD (mid - 1) .nan + s.getD mid .nan) / 2 else s.getD mid .nan

def variance (values : List Number) : Number :=
  if values.length < 2 then 0
  else
    let m := mean values
    total (values.map fun v => (v - m) * (v - m)) / .finite (values.length - 1 : Nat)

def std (platform : Platform) (values : List Number) : Number :=
  if values.length < 2 then 0 else platform.sqrt (variance values)

def percentile (values : List Number) (p : ℚ) : Number :=
  if values.isEmpty then 0
  else
    let s := sorted values
    let idx : ℚ := p / 100 * (s.length - 1 : Nat)
    let lo := ⌊idx⌋.toNat
    let hi := ⌈idx⌉.toNat
    if lo = hi then s.getD lo .nan
    else s.getD lo .nan + (s.getD hi .nan - s.getD lo .nan) * .finite (idx - lo)

def hitRate (rounds : List HistoricalRound) (threshold : Number) : Number :=
  if rounds.isEmpty then 0
  else .finite ((rounds.countP fun r => threshold ≤ r.crashPoint : Nat) / rounds.length)

/-- The rounds since the last that reached a threshold, or all of them. -/
def roundsSince (rounds : List HistoricalRound) (threshold : Number) : Nat :=
  rounds.reverse.findIdx fun r => threshold ≤ r.crashPoint

def consecutiveStreak (rounds : List HistoricalRound) (predicate : Number → Bool) : Nat :=
  (rounds.reverse.takeWhile fun r => predicate r.crashPoint).length

/-- `new Date(iso).getUTCHours()`. -/
def hourOfDay (platform : Platform) (iso : String) : Number :=
  if iso = "" then .finite (-1)
  else
    match platform.getTime iso with
    | .finite ms => .finite (⌊ms / 3600000⌋ % 24 : ℤ)
    | _ => .nan

/-- `new Date(iso).getUTCDay()`; the first day of all dates was a Thursday. -/
def dayOfWeek (platform : Platform) (iso : String) : Number :=
  if iso = "" then .finite (-1)
  else
    match platform.getTime iso with
    | .finite ms => .finite ((⌊ms / 86400000⌋ + 4) % 7 : ℤ)
    | _ => .nan

/-- What a round adds to `quality_score`. -/
def quality (round : HistoricalRound) : ℚ :=
  if round.dataQuality = some "high" then 1
  else if round.dataQuality = some "medium" then 0.6
  else 0.3

def computeFeatures (platform : Platform) (priorRounds : List HistoricalRound)
    (predictionTimestamp : String) : List (String × Number) :=
  let cps := priorRounds.map HistoricalRound.crashPoint
  let last10 := lastOf 10 cps
  let last50 := lastOf 50 cps
  let last100 := lastOf 100 cps
  [("roll_mean_50", mean last50),
    ("roll_median_50", median last50),
    ("roll_min_50", if last50.isEmpty then 0 else last50.foldl Number.min (.infinity false)),
    ("roll_max_50", if last50.isEmpty then 0 else last50.foldl Number.max (.infinity true)),
    ("roll_std_50", std platform last50),
    ("roll_var_50", variance last50),
    ("roll_p25_50", percentile last50 25),
    ("roll_p75_50", percentile last50 75),
    ("roll_p90_50", percentile last50 90),
    ("roll_mean_10", mean last10),
    ("roll_std_10", std platform last10),
    ("roll_mean_100", mean last100),
    ("roll_std_100", std platform last100),
    ("hit_1_30_50", hitRate (lastOf 50 priorRounds) (.finite 1.3)),
    ("hit_2_00_50", hitRate (lastOf 50 priorRounds) 2),
    ("hit_5_00_50", hitRate (lastOf 50 priorRounds) 5),
    ("hit_10_00_50", hitRate (lastOf 50 priorRounds) 10),
    ("hit_1_30_100", hitRate (lastOf 100 priorRounds) (.finite 1.3)),
    ("hit_2_00_100", hitRate (lastOf 100 priorRounds) 2),
    ("since_1_30", .finite (roundsSince priorRounds (.finite 1.3))),
    ("since_2_00", .finite (roundsSince priorRounds 2)),
    ("since_5_00", .finite (roundsSince priorRounds 5)),
    ("since_10_00", .finite (roundsSince priorRounds 10)),
    ("consec_below_1_30", .finite (consecutiveStreak priorRounds (· < .finite 1.3))),
    ("consec_below_2_00", .finite (consecutiveStreak priorRounds (· < 2))),
    ("consec_above_2_00", .finite (consecutiveStreak priorRounds (2 ≤ ·))),
    ("consec_above_5_00", .finite (consecutiveStreak priorRounds (5 ≤ ·))),
    ("sample_size", .finite cps.length),
    ("quality_score",
      if priorRounds.isEmpty then 0
      else .finite ((priorRounds.map quality).sum / priorRounds.length)),
    ("hour_utc", hourOfDay platform predictionTimestamp),
    ("dow_utc", dayOfWeek platform predictionTimestamp)]

structure FeatureEngine where
  featureVersion : String := featureVersionV2

namespace FeatureEngine

variable (engine : FeatureEngine) (platform : Platform)

def buildVector (priorRounds : List HistoricalRound) (targetRoundId : Option String)
    (timestamp : String) : FeatureVector :=
  let computed := computeFeatures platform priorRounds timestamp
  let values := computed.map fun (key, value) => (key, if value.isFinite then value else 0)
  { roundId := targetRoundId
    timestamp
    featureVersion := engine.featureVersion
    values := fun key => values.lookup key
    sampleSize := priorRounds.length
    dataQualityScore := (values.lookup "quality_score").getD 0
    missingFeatureCount := computed.countP fun (_, value) => !value.isFinite }

/-- The features of a round, from the rounds before it. -/
def vectorAt (rounds : List HistoricalRound) (i : Nat) : Option FeatureVector :=
  rounds[i]?.map fun target =>
    engine.buildVector platform (rounds.take i) target.id (roundTimestamp target)

def buildSequence (rounds : List HistoricalRound) (minHistory : Nat) : List FeatureVector :=
  (List.range' minHistory (rounds.length - minHistory)).filterMap
    (engine.vectorAt platform rounds)

def configHash : String :=
  String.ofList ((platform.sha256 (engine.featureVersion ++ "|keys")).toList.take 16)

end FeatureEngine

/-- `Object.entries(features.values)`, of the vectors that the engine builds. -/
def entries (platform : Platform) (features : FeatureVector) : List (String × Number) :=
  (computeFeatures platform [] "").filterMap fun (key, _) =>
    (features.values key).map fun value => (key, value)

-----------------------------------------------------------------------------------------
-- Labels
-----------------------------------------------------------------------------------------

structure Label where
  roundId : Option String
  targetVersion : String
  thresholds : Map String Nat
  crashPoint : Number
  timestamp : String

/-- `round.crashedAt ?? round.createdAt`. -/
def crashTimestamp (round : HistoricalRound) : String := round.crashedAt.getD round.createdAt

structure LabelGenerator where
  thresholds : List Number := [.finite 1.3, 2, 5, 10]
  targetVersion : String := "tv-1.0.0"

namespace LabelGenerator

variable (generator : LabelGenerator) (platform : Platform)

def generate (round : HistoricalRound) : Label where
  roundId := round.id
  targetVersion := generator.targetVersion
  thresholds := generator.thresholds.foldl
    (fun labels t => labels.set (platform.toFixed t 2) (if t ≤ round.crashPoint then 1 else 0)) ∅
  crashPoint := round.crashPoint
  timestamp := crashTimestamp round

def configHash : String :=
  String.ofList ((platform.sha256 (generator.targetVersion ++ "|"
    ++ ",".intercalate (generator.thresholds.map platform.toString))).toList.take 16)

end LabelGenerator

-----------------------------------------------------------------------------------------
-- The builder
-----------------------------------------------------------------------------------------

structure DatasetRow where
  features : FeatureVector
  label : Label

structure DatasetMeta where
  id : String
  featureVersion : String
  targetVersion : String
  sourceFrom : String
  sourceTo : String
  generatedAt : DateText
  sampleCount : Nat
  classDistribution : Map String Nat
  leakageCheckPassed : Bool
  configHash : String

structure Dataset where
  info : DatasetMeta
  rows : List DatasetRow

structure CriticalError where
  message : String
  code : String
  deriving DecidableEq

structure DatasetBuildOptions where
  minHistory : Nat := 20
  failOnLeakage : Bool := true

structure DatasetBuilder where
  featureEngine : FeatureEngine := {}
  labelGenerator : LabelGenerator := {}

namespace DatasetBuilder

variable (builder : DatasetBuilder) (platform : Platform)

/-- An identifier in a text. -/
def shown (id : Option String) : String := id.getD "undefined"

/-- Whether a round crashed before the one in front of it. -/
def outOfOrder (rounds : List HistoricalRound) (i : Nat) : Bool :=
  match rounds[i - 1]?, rounds[i]? with
  | some previous, some current =>
      platform.getTime (crashTimestamp current) < platform.getTime (crashTimestamp previous)
  | _, _ => false

def assertChronological (rounds : List HistoricalRound) : Except CriticalError Unit :=
  match (List.range' 1 (rounds.length - 1)).find? (outOfOrder platform rounds) with
  | some i => .error ⟨s!"Rounds not chronological at index {i}", "DATASET_NOT_CHRONOLOGICAL"⟩
  | none => .ok ()

/-- The rows so far, and the rounds that they are of. -/
structure Gathered where
  seenRoundIds : List (Option String) := []
  rows : List DatasetRow := []

/-- The turn of the loop for the features of a round. -/
def gather (rounds : List HistoricalRound) (minHistory : Nat) (gathered : Gathered)
    (fv : FeatureVector) : Except CriticalError Gathered :=
  let idx := rounds.findIdx fun r => r.id = fv.roundId
  if fv.roundId ∈ gathered.seenRoundIds then
    .error ⟨s!"Duplicate round id in dataset features: {shown fv.roundId}",
      "DATASET_DUPLICATE_ROUND"⟩
  else
    match rounds[idx]? with
    | none =>
        .error ⟨s!"Feature roundId {shown fv.roundId} not found in source rounds",
          "DATASET_ROUND_MISSING"⟩
    | some round =>
        if idx < minHistory then
          .error ⟨s!"Feature generated for round index {idx} below minHistory {minHistory}",
            "DATASET_HISTORY_VIOLATION"⟩
        else
          .ok {
            seenRoundIds := fv.roundId :: gathered.seenRoundIds
            rows := gathered.rows
              ++ [{ features := fv, label := builder.labelGenerator.generate platform round }] }

/-- `new Map(rounds.map((r, i) => [r.id, i]))`. -/
def idToIndex (rounds : List HistoricalRound) : Map (Option String) Nat :=
  rounds.zipIdx.foldl (fun map entry => map.set entry.1.id entry.2) ∅

/-- What is wrong with a row. -/
def rowIssues (rounds : List HistoricalRound) (minHistory : Nat) (row : DatasetRow)
    : List String :=
  let id := shown row.features.roundId
  let late :=
    if platform.getTime row.label.timestamp < platform.getTime row.features.timestamp then
      [s!"feature timestamp after label for {id}"]
    else []
  late ++
    match (idToIndex rounds).get row.features.roundId with
    | none => [s!"unknown round {id}"]
    | some idx =>
        (if idx < minHistory then [s!"insufficient history for {id}"] else [])
        ++ (if idx < row.features.sampleSize then
              [s!"sampleSize {row.features.sampleSize} exceeds prior index {idx} for {id}"]
            else [])
        ++ ((entries platform row.features).filter fun entry => !entry.2.isFinite).map fun entry =>
            s!"non-finite feature {entry.1} on {id}"

def detectLeakage (rows : List DatasetRow) (rounds : List HistoricalRound) (minHistory : Nat)
    : List String :=
  let labelIds := rows.map fun r => r.label.roundId
  rows.flatMap (rowIssues platform rounds minHistory)
  ++ if labelIds.dedup.length ≠ labelIds.length then ["duplicate labels in dataset"] else []

/-- `classDist`, which counts each label of each row. -/
def classDistribution (rows : List DatasetRow) : Map String Nat :=
  rows.foldl
    (fun counts row =>
      row.label.thresholds.entries.foldl
        (fun counts label =>
          let key := label.1 ++ "=" ++ toString label.2
          counts.set key ((counts.get key).getD 0 + 1))
        counts)
    ∅

/-- `sourceFrom` and `sourceTo`, of the first round and the last. -/
def source (round : Option HistoricalRound) : String := (round.map crashTimestamp).getD ""

def configHash (rounds : List HistoricalRound) (minHistory : Nat) : String :=
  String.ofList ((platform.sha256 ("|".intercalate
    [builder.featureEngine.featureVersion, builder.labelGenerator.targetVersion,
      builder.featureEngine.configHash platform, builder.labelGenerator.configHash platform,
      toString minHistory, source rounds.head?, source rounds.getLast?])).toList.take 16)

def emptyDataset (rounds : List HistoricalRound) (moment : Moment) : Dataset where
  info := {
    id := moment.uuid
    featureVersion := featureVersionV2
    targetVersion := "tv-1.0.0"
    sourceFrom := (rounds.head?.map HistoricalRound.createdAt).getD ""
    sourceTo := (rounds.getLast?.map HistoricalRound.createdAt).getD ""
    generatedAt := .iso moment.now
    sampleCount := 0
    classDistribution := ∅
    leakageCheckPassed := true
    configHash := "empty" }
  rows := []

/-- The dataset of the rows. -/
def assemble (rounds : List HistoricalRound) (minHistory : Nat) (moment : Moment)
    (rows : List DatasetRow) (leakageCheckPassed : Bool) : Dataset where
  info := {
    id := moment.uuid
    featureVersion := builder.featureEngine.featureVersion
    targetVersion := builder.labelGenerator.targetVersion
    sourceFrom := source rounds.head?
    sourceTo := source rounds.getLast?
    generatedAt := .iso moment.now
    sampleCount := rows.length
    classDistribution := classDistribution rows
    leakageCheckPassed
    configHash := builder.configHash platform rounds minHistory }
  rows

def build (rounds : List HistoricalRound) (options : DatasetBuildOptions) (moment : Moment)
    : Except CriticalError Dataset := do
  assertChronological platform rounds
  if rounds.length ≤ options.minHistory then
    return emptyDataset rounds moment
  let featureVectors := builder.featureEngine.buildSequence platform rounds options.minHistory
  let gathered ← featureVectors.foldlM (gather builder platform rounds options.minHistory) {}
  let leakageIssues := detectLeakage platform gathered.rows rounds options.minHistory
  if leakageIssues ≠ [] ∧ options.failOnLeakage then
    throw ⟨"Dataset leakage detected: " ++ "; ".intercalate leakageIssues, "DATASET_LEAKAGE"⟩
  return builder.assemble platform rounds options.minHistory moment gathered.rows
    leakageIssues.isEmpty

-----------------------------------------------------------------------------------------
-- What a dataset should be
-----------------------------------------------------------------------------------------

/-- No round crashed before the one in front of it. -/
def Chronological (rounds : List HistoricalRound) : Prop :=
  rounds.IsChain fun previous current =>
    ¬ platform.getTime (crashTimestamp current) < platform.getTime (crashTimestamp previous)

/-- The rounds with enough history have identifiers of their own, which they share neither among
them nor with the rounds before.
-/
structure Fresh (rounds : List HistoricalRound) (minHistory : Nat) : Prop where
  nodup : ((rounds.drop minHistory).map HistoricalRound.id).Nodup
  apart
    : ((rounds.take minHistory).map HistoricalRound.id).Disjoint
        ((rounds.drop minHistory).map HistoricalRound.id)

/-- No round with enough history crashed before it started. -/
def Punctual (rounds : List HistoricalRound) (minHistory : Nat) : Prop :=
  ∀ round ∈ rounds.drop minHistory,
    ¬ platform.getTime (crashTimestamp round) < platform.getTime (roundTimestamp round)

/-- The row of a round, from the rounds before it and its own crash point. -/
def rowOf (prior : List HistoricalRound) (round : HistoricalRound) : DatasetRow where
  features :=
    builder.featureEngine.buildVector platform prior round.id (roundTimestamp round)
  label := builder.labelGenerator.generate platform round

/-- The rows of the rounds with enough history. -/
def rowsOf (rounds : List HistoricalRound) (minHistory : Nat) : List DatasetRow :=
  ((rounds.drop minHistory).zipIdx minHistory).map fun entry =>
    builder.rowOf platform (rounds.take entry.2) entry.1

-----------------------------------------------------------------------------------------
-- The order of the rounds
-----------------------------------------------------------------------------------------

variable {builder platform} {rounds : List HistoricalRound} {minHistory : Nat}

theorem chronological_iff
    : Chronological platform rounds ↔ ∀ i, outOfOrder platform rounds (i + 1) = false := by
  rw [Chronological, List.isChain_iff_getElem]
  constructor
  · intro chain i
    by_cases inside : i + 1 < rounds.length
    · have ordered := chain i inside
      rw [outOfOrder, Nat.add_sub_cancel, List.getElem?_eq_getElem inside,
        List.getElem?_eq_getElem (Nat.lt_of_succ_lt inside)]
      exact decide_eq_false ordered
    · rw [outOfOrder, List.getElem?_eq_none (Nat.not_lt.mp inside)]
      split
      · next found => cases found
      · rfl
  · intro ordered i inside
    have here := ordered i
    rw [outOfOrder, Nat.add_sub_cancel, List.getElem?_eq_getElem inside,
      List.getElem?_eq_getElem (Nat.lt_of_succ_lt inside)] at here
    exact of_decide_eq_false here

theorem assertChronological_ok_iff
    : assertChronological platform rounds = .ok () ↔ Chronological platform rounds := by
  have none_iff
      : (List.range' 1 (rounds.length - 1)).find? (outOfOrder platform rounds) = none
        ↔ Chronological platform rounds := by
    rw [chronological_iff, List.find?_eq_none]
    constructor
    · intro none i
      by_cases inside : i + 1 < rounds.length
      · have member : i + 1 ∈ List.range' 1 (rounds.length - 1) := by
          rw [List.mem_range'_1]
          omega
        exact Bool.eq_false_iff.mpr (none _ member)
      · rw [outOfOrder, List.getElem?_eq_none (Nat.not_lt.mp inside)]
        split
        · next found => cases found
        · rfl
    · intro ordered i member
      obtain ⟨before, rfl⟩ := Nat.exists_eq_add_of_le (List.mem_range'_1.mp member).1
      rw [Nat.add_comm, ordered before]
      exact Bool.false_ne_true
  rw [assertChronological, ← none_iff]
  split
  · next found => simp [found]
  · next found => simp [found]

-----------------------------------------------------------------------------------------
-- The rows
-----------------------------------------------------------------------------------------

variable (platform) in
/-- The features in the order of the rounds, by induction on the rounds that are left. -/
theorem filterMap_vectorAt (engine : FeatureEngine) (before rest : List HistoricalRound)
    : (List.range' before.length rest.length).filterMap (engine.vectorAt platform (before ++ rest))
      = (rest.zipIdx before.length).map fun entry =>
          engine.buildVector platform ((before ++ rest).take entry.2) entry.1.id
            (roundTimestamp entry.1) := by
  induction rest generalizing before with
  | nil => rfl
  | cons round rest ih =>
      have found : engine.vectorAt platform (before ++ round :: rest) before.length
          = some (engine.buildVector platform ((before ++ round :: rest).take before.length)
              round.id (roundTimestamp round)) := by
        rw [FeatureEngine.vectorAt, List.getElem?_append_right (Nat.le_refl _), Nat.sub_self]
        rfl
      have later := ih (before ++ [round])
      rw [List.length_append, List.length_singleton, List.append_assoc, List.singleton_append]
        at later
      rw [List.length_cons, List.range'_succ, List.filterMap_cons_some found, later,
        List.zipIdx_cons, List.map_cons]

theorem buildSequence_eq (engine : FeatureEngine) (enough : minHistory ≤ rounds.length)
    : engine.buildSequence platform rounds minHistory
      = ((rounds.drop minHistory).zipIdx minHistory).map fun entry =>
          engine.buildVector platform (rounds.take entry.2) entry.1.id
            (roundTimestamp entry.1) := by
  have all := filterMap_vectorAt platform engine (rounds.take minHistory)
    (rounds.drop minHistory)
  rw [List.take_append_drop, List.length_take, Nat.min_eq_left enough, List.length_drop] at all
  exact all

section Gather

variable {before rest : List HistoricalRound} {round : HistoricalRound} {gathered : Gathered}
  {features : FeatureVector}

/-- The features of a round whose identifier is new give its row. -/
theorem gather_new (enough : minHistory ≤ before.length)
    (seen
      : ∀ id, id ∈ gathered.seenRoundIds
        ↔ id ∈ (before.drop minHistory).map HistoricalRound.id)
    (same : features.roundId = round.id) (new : round.id ∉ before.map HistoricalRound.id)
    : gather builder platform (before ++ round :: rest) minHistory gathered features
      = .ok {
          seenRoundIds := round.id :: gathered.seenRoundIds
          rows := gathered.rows
            ++ [{ features, label := builder.labelGenerator.generate platform round }] } := by
  have unseen : round.id ∉ gathered.seenRoundIds := by
    intro member
    obtain ⟨other, late, equal⟩ := List.mem_map.mp ((seen _).mp member)
    exact new (List.mem_map.mpr ⟨other, List.mem_of_mem_drop late, equal⟩)
  have absent : before.findIdx (fun other => other.id = round.id) = before.length := by
    rw [List.findIdx_eq_length]
    intro other member
    exact decide_eq_false fun equal => new (List.mem_map.mpr ⟨other, member, equal⟩)
  have index : (before ++ round :: rest).findIdx (fun other => other.id = round.id)
      = before.length := by
    rw [List.findIdx_append, absent, if_neg (Nat.lt_irrefl _), List.findIdx_cons,
      decide_eq_true rfl, cond_true, Nat.zero_add]
  have found : (before ++ round :: rest)[before.length]? = some round := by
    rw [List.getElem?_append_right (Nat.le_refl _), Nat.sub_self]
    rfl
  rw [gather, same, if_neg unseen, index]
  simp only [found]
  rw [if_neg (Nat.not_lt.mpr enough)]

/-- The features of a round whose identifier is known give an error. -/
theorem gather_known
    (seen
      : ∀ id, id ∈ gathered.seenRoundIds
        ↔ id ∈ (before.drop minHistory).map HistoricalRound.id)
    (same : features.roundId = round.id) (known : round.id ∈ before.map HistoricalRound.id)
    (next : Gathered)
    : gather builder platform (before ++ round :: rest) minHistory gathered features
      ≠ .ok next := by
  rw [gather, same]
  split
  · exact nofun
  · next unseen =>
      have early : round.id ∈ (before.take minHistory).map HistoricalRound.id := by
        rw [← List.take_append_drop minHistory before, List.map_append] at known
        rcases List.mem_append.mp known with early | late
        · exact early
        · exact absurd ((seen _).mpr late) unseen
      obtain ⟨other, member, equal⟩ := List.mem_map.mp early
      have below : (before ++ round :: rest).findIdx (fun other => other.id = round.id)
          < minHistory := by
        have inside := List.findIdx_lt_length_of_exists
          (p := fun other : HistoricalRound => other.id = round.id)
          ⟨other, member, decide_eq_true equal⟩
        have short : (before.take minHistory).length ≤ minHistory := by
          rw [List.length_take]
          exact Nat.min_le_left _ _
        have split : before ++ round :: rest
            = before.take minHistory ++ (before.drop minHistory ++ round :: rest) := by
          rw [← List.append_assoc, List.take_append_drop]
        rw [split, List.findIdx_append, if_pos inside]
        exact inside.trans_le short
      split
      · exact nofun
      · rw [if_pos below]
        exact nofun

variable (builder platform) in
/-- The loop over the rounds that are left gathers their rows, by induction on them. -/
theorem foldlM_gather_rows (before rest : List HistoricalRound) (gathered : Gathered)
    (enough : minHistory ≤ before.length)
    (seen
      : ∀ id, id ∈ gathered.seenRoundIds
        ↔ id ∈ (before.drop minHistory).map HistoricalRound.id)
    : let loop :=
        ((rest.zipIdx before.length).map fun entry =>
          (builder.rowOf platform ((before ++ rest).take entry.2) entry.1).features).foldlM
          (gather builder platform (before ++ rest) minHistory) gathered
      ((∃ next, loop = .ok next)
        ↔ (rest.map HistoricalRound.id).Nodup
          ∧ (before.map HistoricalRound.id).Disjoint (rest.map HistoricalRound.id))
      ∧ ∀ next, loop = .ok next →
          next.rows
          = gathered.rows
            ++ (rest.zipIdx before.length).map fun entry =>
              builder.rowOf platform ((before ++ rest).take entry.2) entry.1 := by
  induction rest generalizing before gathered with
  | nil =>
      refine ⟨⟨fun _ => ⟨List.nodup_nil, List.disjoint_nil_right _⟩, fun _ => ⟨gathered, rfl⟩⟩, ?_⟩
      intro next ended
      cases ended
      exact (List.append_nil _).symm
  | cons round rest ih =>
      intro loop
      let row := builder.rowOf platform ((before ++ round :: rest).take before.length) round
      have start : loop = (gather builder platform (before ++ round :: rest) minHistory gathered
            row.features).bind fun gathered =>
          ((rest.zipIdx (before.length + 1)).map fun entry =>
              (builder.rowOf platform ((before ++ round :: rest).take entry.2)
                entry.1).features).foldlM
            (gather builder platform (before ++ round :: rest) minHistory) gathered := by
        simp only [loop, List.zipIdx_cons, List.map_cons, List.foldlM_cons]
        rfl
      by_cases known : round.id ∈ before.map HistoricalRound.id
      · have fails (next : Gathered) : loop ≠ .ok next := by
          intro ended
          cases first : gather builder platform (before ++ round :: rest) minHistory gathered
            row.features with
          | error error =>
              rw [start, first] at ended
              cases ended
          | ok gathered' => exact gather_known seen rfl known gathered' first
        refine ⟨⟨fun ⟨next, ended⟩ => absurd ended (fails next), ?_⟩, fun next ended =>
          absurd ended (fails next)⟩
        rintro ⟨-, apart⟩
        exact absurd List.mem_cons_self (apart known)
      · have first : gather builder platform (before ++ round :: rest) minHistory gathered
              row.features
            = .ok {
                seenRoundIds := round.id :: gathered.seenRoundIds
                rows := gathered.rows ++ [row] } :=
          gather_new enough seen rfl known
        have further := ih (before ++ [round])
          { seenRoundIds := round.id :: gathered.seenRoundIds, rows := gathered.rows ++ [row] }
          (by rw [List.length_append]; omega)
          (by
            intro id
            rw [List.drop_append_of_le_length enough, List.map_append, List.mem_append,
              List.mem_cons, seen id]
            simp [or_comm])
        rw [List.append_assoc, List.singleton_append, List.length_append, List.length_singleton,
          List.map_append, List.map_cons, List.map_nil] at further
        rw [start, first]
        change (_ ↔ _) ∧ _ at further
        obtain ⟨ends, rows⟩ := further
        constructor
        · refine ends.trans ?_
          rw [List.map_cons, List.nodup_cons, List.disjoint_append_left, List.singleton_disjoint,
            List.disjoint_cons_right]
          tauto
        · intro next ended
          rw [rows next ended, List.append_assoc, List.singleton_append, List.zipIdx_cons,
            List.map_cons]

end Gather

variable (builder platform) in
/-- Every history is gathered whose identifiers are fresh, and only such a one. -/
theorem gathered_iff (enough : minHistory ≤ rounds.length)
    : let loop := (builder.featureEngine.buildSequence platform rounds minHistory).foldlM
        (gather builder platform rounds minHistory) {}
      ((∃ gathered, loop = .ok gathered) ↔ Fresh rounds minHistory)
      ∧ ∀ gathered, loop = .ok gathered →
          gathered.rows = builder.rowsOf platform rounds minHistory := by
  have length : (rounds.take minHistory).length = minHistory := by
    rw [List.length_take, Nat.min_eq_left enough]
  have all := foldlM_gather_rows builder platform (rounds.take minHistory)
    (rounds.drop minHistory) {} length.ge
    (by
      intro id
      rw [List.drop_eq_nil_of_le length.le]
      exact Iff.rfl)
  rw [List.take_append_drop, length] at all
  rw [buildSequence_eq _ enough]
  refine ⟨all.1.trans ⟨fun ⟨nodup, apart⟩ => ⟨nodup, apart⟩, fun fresh => ?_⟩, all.2⟩
  exact ⟨fresh.nodup, fresh.apart⟩

-----------------------------------------------------------------------------------------
-- The check for leakage
-----------------------------------------------------------------------------------------

/-- Distinct keys look up all the entries, by induction on them. -/
theorem filterMap_lookup {values : List (String × Number)} (distinct : (values.map Prod.fst).Nodup)
    : (values.map Prod.fst).filterMap
        (fun key => (values.lookup key).map fun value => (key, value)) = values := by
  induction values with
  | nil => rfl
  | cons entry rest ih =>
      obtain ⟨new, distinct⟩ := List.nodup_cons.mp distinct
      have others : (rest.map Prod.fst).filterMap
            (fun key => ((entry :: rest).lookup key).map fun value => (key, value))
          = rest := by
        refine Eq.trans (List.filterMap_congr ?_) (ih distinct)
        intro key member
        have apart : (key == entry.1) = false := by
          rw [beq_eq_false_iff_ne]
          rintro rfl
          exact new member
        rw [List.lookup_cons, apart]
      have first : ((entry :: rest).lookup entry.1).map (fun value => (entry.1, value))
          = some entry := by
        rw [List.lookup_cons, beq_self_eq_true]
        rfl
      simp only [List.map_cons, List.filterMap_cons, first, others]

/-- The entries of what the engine builds. -/
theorem entries_buildVector (engine : FeatureEngine) (prior : List HistoricalRound)
    (id : Option String) (timestamp : String)
    : entries platform (engine.buildVector platform prior id timestamp)
      = (computeFeatures platform prior timestamp).map fun entry =>
          (entry.1, if entry.2.isFinite then entry.2 else 0) := by
  have keys : (computeFeatures platform [] "").map Prod.fst
      = ((computeFeatures platform prior timestamp).map fun entry =>
          (entry.1, if entry.2.isFinite then entry.2 else 0)).map Prod.fst := rfl
  have distinct : ((computeFeatures platform [] "").map Prod.fst).Nodup := by
    simp only [computeFeatures, List.map_cons, List.map_nil]
    decide
  rw [keys] at distinct
  have all := filterMap_lookup distinct
  rw [← keys, List.filterMap_map] at all
  exact all

/-- What the engine builds is finite. -/
theorem entries_finite (engine : FeatureEngine) (prior : List HistoricalRound)
    (id : Option String) (timestamp : String)
    : ∀ entry ∈ entries platform (engine.buildVector platform prior id timestamp),
        entry.2.isFinite = true := by
  rw [entries_buildVector]
  intro entry member
  obtain ⟨⟨key, computed⟩, -, rfl⟩ := List.mem_map.mp member
  by_cases finite : computed.isFinite
  · simp [finite]
  · simp only [finite, Bool.false_eq_true, if_false]
    rfl

section Fresh

variable {i j : Nat} {round other : HistoricalRound}

/-- The identifier of a round with enough history is found there only. -/
theorem Fresh.index_unique (fresh : Fresh rounds minHistory) (enough : minHistory ≤ i)
    (found : rounds[i]? = some round) (elsewhere : rounds[j]? = some other)
    (same : other.id = round.id) : j = i := by
  have here : ((rounds.drop minHistory).map HistoricalRound.id)[i - minHistory]?
      = some round.id := by
    rw [List.getElem?_map, List.getElem?_drop, Nat.add_sub_cancel' enough, found]
    rfl
  by_cases early : j < minHistory
  · have before : other.id ∈ (rounds.take minHistory).map HistoricalRound.id := by
      refine List.mem_map_of_mem (List.mem_of_getElem? (i := j) ?_)
      rw [List.getElem?_take_of_lt early, elsewhere]
    exact absurd (List.mem_of_getElem? here) (same ▸ fresh.apart before)
  · have there : ((rounds.drop minHistory).map HistoricalRound.id)[j - minHistory]?
        = some other.id := by
      rw [List.getElem?_map, List.getElem?_drop, Nat.add_sub_cancel' (Nat.not_lt.mp early),
        elsewhere]
      rfl
    have equal := (List.getElem?_inj (List.getElem?_eq_some_iff.mp here).1 fresh.nodup).mp
      (here.trans (same ▸ there.symm))
    omega

theorem Fresh.idToIndex (fresh : Fresh rounds minHistory) (enough : minHistory ≤ i)
    (found : rounds[i]? = some round) : (idToIndex rounds).get round.id = some i := by
  refine Map.get_foldl_set_of_forall (fun entry : HistoricalRound × Nat => entry.1.id) Prod.snd
    _ _ ?_ (.inr ⟨(round, i), List.mem_zipIdx_iff_getElem?.mpr found, rfl⟩)
  rintro ⟨other, j⟩ member same
  exact fresh.index_unique enough found (List.mem_zipIdx_iff_getElem?.mp member) same

end Fresh

/-- Of a row of a fresh history only its times may be wrong. -/
theorem rowIssues_eq_nil_iff (fresh : Fresh rounds minHistory) {entry : HistoricalRound × Nat}
    (member : entry ∈ (rounds.drop minHistory).zipIdx minHistory)
    : rowIssues platform rounds minHistory
          (builder.rowOf platform (rounds.take entry.2) entry.1) = []
      ↔ ¬ platform.getTime (crashTimestamp entry.1)
          < platform.getTime (roundTimestamp entry.1) := by
  obtain ⟨round, i⟩ := entry
  obtain ⟨enough, found⟩ := List.mem_zipIdx_iff_le_and_getElem?_sub.mp member
  rw [List.getElem?_drop, Nat.add_sub_cancel' enough] at found
  have index
      : (idToIndex rounds).get (builder.rowOf platform (rounds.take i) round).features.roundId
        = some i := fresh.idToIndex enough found
  have size : ¬ i < (builder.rowOf platform (rounds.take i) round).features.sampleSize := by
    change ¬ i < (rounds.take i).length
    rw [List.length_take]
    omega
  have finite
      : (entries platform (builder.rowOf platform (rounds.take i) round).features).filter
          (fun entry => !entry.2.isFinite) = [] := by
    rw [List.filter_eq_nil_iff]
    intro entry member
    rw [entries_finite _ _ _ _ entry member]
    exact Bool.false_ne_true
  simp only [rowIssues, index, if_neg (Nat.not_lt.mpr enough), if_neg size, finite, List.map_nil,
    List.append_nil]
  constructor
  · intro none late
    rw [if_pos] at none
    · cases none
    · exact late
  · intro timely
    exact if_neg timely

/-- The identifiers of the labels are those of the rounds. -/
theorem map_label_rowsOf
    : (builder.rowsOf platform rounds minHistory).map (fun row => row.label.roundId)
      = (rounds.drop minHistory).map HistoricalRound.id := by
  rw [rowsOf, List.map_map]
  change (((rounds.drop minHistory).zipIdx minHistory).map (HistoricalRound.id ∘ Prod.fst)) = _
  rw [← List.map_map, List.zipIdx_map_fst]

variable (builder platform) in
/-- The check passes if and only if no round crashed before it started. -/
theorem detectLeakage_eq_nil_iff (fresh : Fresh rounds minHistory)
    : detectLeakage platform (builder.rowsOf platform rounds minHistory) rounds minHistory = []
      ↔ Punctual platform rounds minHistory := by
  have labels : ¬ ((builder.rowsOf platform rounds minHistory).map
        fun row => row.label.roundId).dedup.length
      ≠ ((builder.rowsOf platform rounds minHistory).map fun row => row.label.roundId).length := by
    rw [map_label_rowsOf, List.dedup_eq_self.mpr fresh.nodup]
    exact fun apart => apart rfl
  rw [detectLeakage, if_neg labels, List.append_nil, List.flatMap_eq_nil_iff]
  constructor
  · intro none round member late
    obtain ⟨i, inside, rfl⟩ := List.mem_iff_getElem.mp member
    have listed : ((rounds.drop minHistory)[i], minHistory + i)
        ∈ (rounds.drop minHistory).zipIdx minHistory := by
      rw [List.mem_zipIdx_iff_le_and_getElem?_sub]
      exact ⟨Nat.le_add_right _ _, by rw [Nat.add_sub_cancel_left, List.getElem?_eq_getElem inside]⟩
    exact (rowIssues_eq_nil_iff fresh listed).mp (none _ (List.mem_map_of_mem listed)) late
  · intro punctual row member
    obtain ⟨entry, listed, rfl⟩ := List.mem_map.mp member
    exact (rowIssues_eq_nil_iff fresh listed).mpr
      (punctual _ (List.fst_mem_of_mem_zipIdx listed))

-----------------------------------------------------------------------------------------
-- Building
-----------------------------------------------------------------------------------------

theorem length_rowsOf
    : (builder.rowsOf platform rounds minHistory).length = rounds.length - minHistory := by
  rw [rowsOf, List.length_map, List.length_zipIdx, List.length_drop]

variable {options : DatasetBuildOptions} {moment : Moment}

theorem build_of_short (ordered : Chronological platform rounds)
    (short : rounds.length ≤ options.minHistory)
    : builder.build platform rounds options moment = .ok (emptyDataset rounds moment) := by
  rw [build, assertChronological_ok_iff.mpr ordered]
  simp [bind, Except.bind, short, pure, Except.pure]

/-- What `build` answers for enough rounds in order. -/
theorem build_of_long (ordered : Chronological platform rounds)
    (long : options.minHistory < rounds.length)
    : builder.build platform rounds options moment
      = ((builder.featureEngine.buildSequence platform rounds options.minHistory).foldlM
          (gather builder platform rounds options.minHistory) {}).bind fun gathered =>
            let issues := detectLeakage platform gathered.rows rounds options.minHistory
            if issues ≠ [] ∧ options.failOnLeakage then
              .error ⟨"Dataset leakage detected: " ++ "; ".intercalate issues, "DATASET_LEAKAGE"⟩
            else
              .ok (builder.assemble platform rounds options.minHistory moment gathered.rows
                issues.isEmpty) := by
  rw [build, assertChronological_ok_iff.mpr ordered]
  simp only [bind, Except.bind, if_neg (Nat.not_le.mpr long), pure, Except.pure, throw,
    throwThe, MonadExceptOf.throw]

theorem build_of_disordered (disordered : ¬ Chronological platform rounds) (dataset : Dataset)
    : builder.build platform rounds options moment ≠ .ok dataset := by
  rw [build]
  cases checked : assertChronological platform rounds with
  | error error => exact nofun
  | ok done => exact absurd (assertChronological_ok_iff.mp checked) disordered

theorem fresh_of_short (short : rounds.length ≤ minHistory) : Fresh rounds minHistory := by
  constructor
  · rw [List.drop_eq_nil_of_le short]
    exact List.nodup_nil
  · rw [List.drop_eq_nil_of_le short]
    exact List.disjoint_nil_right _

theorem punctual_of_short (short : rounds.length ≤ minHistory)
    : Punctual platform rounds minHistory := by
  intro round member
  rw [List.drop_eq_nil_of_le short] at member
  exact absurd member List.not_mem_nil

/-- What a dataset has that is built. -/
structure Exact (builder : DatasetBuilder) (platform : Platform) (rounds : List HistoricalRound)
    (minHistory : Nat) (dataset : Dataset) : Prop where
  rows : dataset.rows = builder.rowsOf platform rounds minHistory
  count : dataset.info.sampleCount = rounds.length - minHistory
  checked : dataset.info.leakageCheckPassed = true ↔ Punctual platform rounds minHistory

/-- When a dataset is built, and what it has then. -/
theorem build_iff
    : ((∃ dataset, builder.build platform rounds options moment = .ok dataset)
        ↔ Chronological platform rounds
          ∧ Fresh rounds options.minHistory
          ∧ (options.failOnLeakage = true → Punctual platform rounds options.minHistory))
      ∧ ∀ dataset, builder.build platform rounds options moment = .ok dataset →
          Exact builder platform rounds options.minHistory dataset := by
  by_cases ordered : Chronological platform rounds
  · by_cases short : rounds.length ≤ options.minHistory
    · rw [build_of_short ordered short]
      refine ⟨⟨fun _ => ⟨ordered, fresh_of_short short, fun _ => punctual_of_short short⟩,
        fun _ => ⟨_, rfl⟩⟩, ?_⟩
      intro dataset built
      cases built
      refine ⟨?_, (Nat.sub_eq_zero_of_le short).symm, fun _ => punctual_of_short short,
        fun _ => rfl⟩
      rw [rowsOf, List.drop_eq_nil_of_le short]
      rfl
    · have long := Nat.not_le.mp short
      obtain ⟨gathers, rows⟩ := gathered_iff builder platform long.le
      rw [build_of_long ordered long]
      cases gathered : (builder.featureEngine.buildSequence platform rounds
          options.minHistory).foldlM (gather builder platform rounds options.minHistory) {} with
      | error error =>
          have stale : ¬ Fresh rounds options.minHistory := by
            intro fresh
            obtain ⟨_, ended⟩ := gathers.mpr fresh
            rw [gathered] at ended
            cases ended
          refine ⟨⟨fun ⟨_, built⟩ => ?_, fun ⟨_, fresh, _⟩ => absurd fresh stale⟩, ?_⟩
          · cases built
          · intro _ built
            cases built
      | ok gathered' =>
          have fresh := gathers.mp ⟨_, gathered⟩
          have leaks := detectLeakage_eq_nil_iff builder platform fresh
          rw [← rows gathered' gathered] at leaks
          dsimp only [Except.bind]
          by_cases fails : detectLeakage platform gathered'.rows rounds options.minHistory ≠ []
              ∧ options.failOnLeakage = true
          · rw [if_pos fails]
            refine ⟨⟨fun ⟨_, built⟩ => ?_, fun ⟨_, _, punctual⟩ =>
              absurd (leaks.mpr (punctual fails.2)) fails.1⟩, ?_⟩
            · cases built
            · intro _ built
              cases built
          · rw [if_neg fails]
            refine ⟨⟨fun _ => ⟨ordered, fresh, fun strict => leaks.mp ?_⟩, fun _ => ⟨_, rfl⟩⟩, ?_⟩
            · by_contra some
              exact fails ⟨some, strict⟩
            · intro dataset built
              cases built
              refine ⟨rows gathered' gathered, ?_, List.isEmpty_iff.trans leaks⟩
              change gathered'.rows.length = _
              rw [rows gathered' gathered, length_rowsOf]
  · refine ⟨⟨fun ⟨dataset, built⟩ => absurd built (build_of_disordered ordered dataset),
      fun ⟨chain, _⟩ => absurd chain ordered⟩, ?_⟩
    exact fun dataset built => absurd built (build_of_disordered ordered dataset)

-----------------------------------------------------------------------------------------
-- What comes later
-----------------------------------------------------------------------------------------

section Later

variable {later others : List HistoricalRound}

theorem Fresh.of_append (fresh : Fresh (rounds ++ later) minHistory) : Fresh rounds minHistory := by
  have kept : (rounds.drop minHistory).Sublist ((rounds ++ later).drop minHistory) := by
    rw [List.drop_append]
    exact List.sublist_append_left _ _
  have before : (rounds.take minHistory).Sublist ((rounds ++ later).take minHistory) := by
    rw [List.take_append]
    exact List.sublist_append_left _ _
  constructor
  · exact fresh.nodup.sublist (kept.map _)
  · intro id early late
    exact fresh.apart ((before.map _).subset early) ((kept.map _).subset late)

theorem Punctual.of_append (punctual : Punctual platform (rounds ++ later) minHistory)
    : Punctual platform rounds minHistory := by
  intro round member
  refine punctual round ?_
  rw [List.drop_append]
  exact List.mem_append_left _ member

/-- Later rounds add rows behind those there are. -/
theorem rowsOf_append
    : builder.rowsOf platform rounds minHistory
      <+: builder.rowsOf platform (rounds ++ later) minHistory := by
  by_cases short : rounds.length ≤ minHistory
  · rw [rowsOf, List.drop_eq_nil_of_le short]
    exact List.nil_prefix
  · have same
        : ((rounds.drop minHistory).zipIdx minHistory).map (fun entry =>
            builder.rowOf platform ((rounds ++ later).take entry.2) entry.1)
          = builder.rowsOf platform rounds minHistory := by
      refine List.map_congr_left fun entry member => ?_
      have inside := List.snd_lt_add_of_mem_zipIdx member
      rw [List.length_drop] at inside
      rw [List.take_append_of_le_length (by omega)]
    rw [rowsOf, rowsOf, List.drop_append_of_le_length (Nat.not_le.mp short).le, List.zipIdx_append,
      List.map_append, same]
    exact List.prefix_append _ _

theorem getElem?_rowsOf {i : Nat} (enough : minHistory ≤ i)
    : (builder.rowsOf platform rounds minHistory)[i - minHistory]?
      = rounds[i]?.map fun round => builder.rowOf platform (rounds.take i) round := by
  rw [rowsOf, List.getElem?_map, List.getElem?_zipIdx, List.getElem?_drop,
    Nat.add_sub_cancel' enough, Option.map_map]
  rfl

/-- The features of a round take nothing from what comes after it is known. -/
theorem features_rowsOf_congr {i : Nat} (enough : minHistory ≤ i)
    (agree : rounds.take i = others.take i) (same : rounds[i]?.map known = others[i]?.map known)
    : ((builder.rowsOf platform rounds minHistory)[i - minHistory]?).map DatasetRow.features
      = ((builder.rowsOf platform others minHistory)[i - minHistory]?).map DatasetRow.features := by
  have features (history : List HistoricalRound)
      : ((builder.rowsOf platform history minHistory)[i - minHistory]?).map DatasetRow.features
        = (history[i]?.map known).map fun known =>
            builder.featureEngine.buildVector platform (history.take i) known.1 known.2 := by
    rw [getElem?_rowsOf enough, Option.map_map, Option.map_map]
    rfl
  rw [features, features, agree, same]

end Later

/-- A dataset is built if the rounds are in order, those with enough history have identifiers of
their own and, unless leakage is let pass, none of them crashed before it started. Its rows are then
those of these rounds; rounds that come later only add rows; and the features of a row are settled
by the rounds before its own, with what is known of that before it runs.
-/
theorem builds_without_leakage (builder : DatasetBuilder) (platform : Platform)
    (options : DatasetBuildOptions)
    : (∀ rounds moment,
        (∃ dataset, builder.build platform rounds options moment = .ok dataset)
        ↔ Chronological platform rounds
          ∧ Fresh rounds options.minHistory
          ∧ (options.failOnLeakage = true → Punctual platform rounds options.minHistory))
      ∧ (∀ rounds moment dataset, builder.build platform rounds options moment = .ok dataset →
          dataset.rows = builder.rowsOf platform rounds options.minHistory
          ∧ dataset.info.sampleCount = rounds.length - options.minHistory
          ∧ (dataset.info.leakageCheckPassed = true
              ↔ Punctual platform rounds options.minHistory))
      ∧ (∀ rounds later moment moment' dataset,
          builder.build platform (rounds ++ later) options moment = .ok dataset →
          ∃ earlier,
            builder.build platform rounds options moment' = .ok earlier
            ∧ earlier.rows <+: dataset.rows)
      ∧ ∀ rounds others moment moment' dataset dataset' i,
          builder.build platform rounds options moment = .ok dataset →
          builder.build platform others options moment' = .ok dataset' →
          options.minHistory ≤ i → rounds.take i = others.take i →
          rounds[i]?.map known = others[i]?.map known →
          (dataset.rows[i - options.minHistory]?).map DatasetRow.features
            = (dataset'.rows[i - options.minHistory]?).map DatasetRow.features := by
  refine ⟨fun rounds moment => build_iff.1, ?_, ?_, ?_⟩
  · intro rounds moment dataset built
    have exact := build_iff.2 dataset built
    exact ⟨exact.rows, exact.count, exact.checked⟩
  · intro rounds later moment moment' dataset built
    obtain ⟨ordered, fresh, punctual⟩ := build_iff.1.mp ⟨dataset, built⟩
    obtain ⟨earlier, builtEarlier⟩
        : ∃ earlier, builder.build platform rounds options moment' = .ok earlier :=
      build_iff.1.mpr
        ⟨ordered.left_of_append, fresh.of_append, fun strict => (punctual strict).of_append⟩
    refine ⟨earlier, builtEarlier, ?_⟩
    rw [(build_iff.2 dataset built).rows, (build_iff.2 earlier builtEarlier).rows]
    exact rowsOf_append
  · intro rounds others moment moment' dataset dataset' i built builtOther enough agree same
    rw [(build_iff.2 dataset built).rows, (build_iff.2 dataset' builtOther).rows]
    exact features_rowsOf_congr enough agree same

end DatasetBuilder

end CrashWave.Datasets
