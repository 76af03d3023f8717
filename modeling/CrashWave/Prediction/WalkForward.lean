import CrashWave.Prediction.Acie.Engine
import CrashWave.Prediction.ValidationMetrics

/-! Walking forward over the rounds: windows that are trained on, validated and tested one behind
the other, for a model that is fitted once in each window and for the adaptive engine that learns
on.
-/

namespace Slides

variable {ε β : Type*}

/-- `while (start + size <= length) { done.push(body(start)); start += step; }`, as far as the fuel
lasts.
-/
def slide (size step length : Nat) (body : Nat → Except ε β)
    : Nat → Nat → List β → Option (Except ε (List β))
  | 0, _, _ => none
  | fuel + 1, start, done =>
      if start + size ≤ length then
        match body start with
        | .error error => some (.error error)
        | .ok item => slide size step length body fuel (start + step) (done ++ [item])
      else
        some (.ok done)

/-- How often a window fits from a place on. -/
def count (size step length start : Nat) : Nat :=
  if start + size ≤ length then (length - (start + size)) / step + 1 else 0

variable {size step length : Nat} {body : Nat → Except ε β}

theorem count_of_fits {start : Nat} (positive : 0 < step) (fits : start + size ≤ length)
    : count size step length start = count size step length (start + step) + 1 := by
  rw [count, if_pos fits, count]
  by_cases more : start + step + size ≤ length
  · have enough : step ≤ length - (start + size) := by omega
    rw [if_pos more, Nat.div_eq_sub_div positive enough]
    congr 3
    omega
  · rw [if_neg more, Nat.div_eq_of_lt (by omega)]

/-- The loop ends, with what its body gives at each place in turn, by induction on the fuel. -/
theorem slide_eq (positive : 0 < step) {fuel start : Nat}
    (enough : count size step length start < fuel) (done : List β)
    : slide size step length body fuel start done
      = some (((List.range' start (count size step length start) step).mapM body).map
          (done ++ ·)) := by
  induction fuel generalizing start done with
  | zero => exact absurd enough (Nat.not_lt_zero _)
  | succ fuel ih =>
      rw [slide]
      by_cases fits : start + size ≤ length
      · have further := count_of_fits positive fits
        rw [further] at enough
        rw [if_pos fits, further, List.range'_succ, List.mapM_cons]
        cases body start with
        | error error => rfl
        | ok item =>
            dsimp only
            rw [ih (Nat.lt_of_succ_lt_succ enough)]
            cases (List.range' (start + step) (count size step length (start + step)) step).mapM
              body with
            | error error => rfl
            | ok items =>
                change some (Except.ok (done ++ [item] ++ items)) = _
                rw [List.append_assoc, List.singleton_append]
                rfl
      · rw [if_neg fits, count, if_neg fits]
        change some (Except.ok done) = some (Except.ok (done ++ []))
        rw [List.append_nil]

/-- What the loop pushes to an empty list. -/
theorem slide_all (positive : 0 < step) {fuel start : Nat}
    (enough : count size step length start < fuel)
    : slide size step length body fuel start []
      = some ((List.range' start (count size step length start) step).mapM body) := by
  rw [slide_eq positive enough]
  cases (List.range' start (count size step length start) step).mapM body <;> rfl

/-- A loop that makes no step and whose window fits never ends, by induction on the fuel. -/
theorem slide_still {start : Nat} {item : β} (fits : start + size ≤ length)
    (goes : body start = .ok item) (fuel : Nat) (done : List β)
    : slide size 0 length body fuel start done = none := by
  induction fuel generalizing done with
  | zero => rfl
  | succ fuel ih =>
      rw [slide, if_pos fits, goes]
      exact ih _

/-- Windows of the size of the step lie side by side, by induction on their number. -/
theorem flatten_slides {α : Type*} (items : List α) (step start count : Nat)
    : ((List.range' start count step).map fun place => (items.drop place).take step).flatten
      = (items.drop start).take (count * step) := by
  induction count generalizing start with
  | zero => rw [Nat.zero_mul, List.take_zero]; rfl
  | succ count ih =>
      have length : (count + 1) * step = step + count * step := by
        rw [Nat.succ_mul, Nat.add_comm]
      rw [List.range'_succ, List.map_cons, List.flatten_cons, ih, length, List.take_add,
        List.drop_drop]

end Slides

namespace Except

variable {ε ε' : Type*} {α β : Type}

/-- What goes on has come so far. -/
theorem eq_ok_of_bind {first : Except ε α} {next : α → Except ε β} {result : β}
    (went : first >>= next = .ok result)
    : ∃ value, first = .ok value ∧ next value = .ok result := by
  cases first with
  | error error => cases went
  | ok value => exact ⟨value, rfl, went⟩

theorem eq_ok_of_mapError {first : Except ε α} {change : ε → ε'} {result : α}
    (went : first.mapError change = .ok result) : first = .ok result := by
  cases first with
  | error error => cases went
  | ok value => exact congrArg Except.ok (Except.ok.inj went)

end Except

namespace CrashWave.Datasets

open JavaScript CrashWave.Backtest CrashWave.History CrashWave.Prediction Slides

structure WalkForwardConfig where
  trainSize : Nat
  valSize : Nat
  testSize : Nat
  stepSize : Nat
  target : Number
  backtest : Option BacktestConfig := none

structure WalkForwardWindow where
  trainFrom : String
  trainTo : String
  valFrom : String
  valTo : String
  testFrom : String
  testTo : String
  validationMetrics : ValidationMetrics
  testMetrics : ValidationMetrics
  backtest : Option BacktestResult

/-- What is thrown in a window. -/
inductive WalkForwardError where
  | dataset (error : CriticalError)
  | evaluation (message : String)
  | backtest (message : String)

/-- What the validator takes of a model: the probabilities of `predict` without a regime, and those
that the model predicts with once its `fit` has returned, if it has one. A promise that `fit`
returns is not awaited.
-/
structure Forecaster where
  probability : FeatureVector → Number → Number
  fit : Option (Dataset → FeatureVector → Number → Number) := none

def Forecaster.fitted (model : Forecaster) (train : Dataset) : FeatureVector → Number → Number :=
  match model.fit with
  | some fit => fit train
  | none => model.probability

/-- `BaselineStatisticalModel`, whose `fit` does nothing. -/
def baselineForecaster (moment : Moment) : Forecaster where
  probability features target :=
    (BaselineStatisticalModel.predict moment features target none).probability
  fit := some fun _ features target =>
    (BaselineStatisticalModel.predict moment features target none).probability

/-- The moments of the datasets of a window. -/
structure WindowMoments where
  train : Moment
  val : Moment
  test : Moment

/-- `rounds.slice(from, from + size)`. -/
def segment (rounds : List HistoricalRound) (start size : Nat) : List HistoricalRound :=
  (rounds.drop start).take size

/-- `round?.createdAt ?? ''`. -/
def createdAt (round : Option HistoricalRound) : String :=
  (round.map HistoricalRound.createdAt).getD ""

/-- The rows of some of the rounds. -/
def rowsAmong (rounds : List HistoricalRound) (rows : List DatasetRow) : List DatasetRow :=
  rows.filter fun row => rounds.any fun round => round.id = row.features.roundId

structure WalkForwardValidator where
  datasetBuilder : DatasetBuilder := {}
  modelFactory : Forecaster

namespace WalkForwardValidator

section Definitions

variable {σ : Type} (validator : WalkForwardValidator) (platform : Platform)
  (predict : σ → PredictRequest → Except String (σ × PredictionSignal)) (initialBalance : ℚ)
  (predictor : Nat → σ) (moments : Nat → WindowMoments) (cfg : WalkForwardConfig)

/-- The rows of the last of some rounds, and how the forecasts on them are judged. -/
def judge (history rounds : List HistoricalRound) (minHistory : Nat) (moment : Moment)
    (forecast : FeatureVector → Number → Number) : Except WalkForwardError ValidationMetrics := do
  let dataset ← (validator.datasetBuilder.build platform (history ++ rounds)
    { minHistory := min 20 minHistory } moment).mapError .dataset
  let rows := rowsAmong rounds dataset.rows
  let scores := rows.map fun row => forecast row.features cfg.target
  (evaluate platform scores rows cfg.target).mapError .evaluation

/-- The backtest over the tested rounds, if one is asked for. -/
def backtested (predictor : σ) (testRounds : List HistoricalRound)
    : Except WalkForwardError (Option BacktestResult) :=
  match cfg.backtest with
  | none => .ok none
  | some config =>
      (some <$> Backtest.run predict { config with target := cfg.target } initialBalance predictor
        testRounds).mapError .backtest

/-- The turn of the loop at a place. -/
def window (rounds : List HistoricalRound) (start : Nat)
    : Except WalkForwardError WalkForwardWindow := do
  let trainRounds := segment rounds start cfg.trainSize
  let valRounds := segment rounds (start + cfg.trainSize) cfg.valSize
  let testRounds := segment rounds (start + cfg.trainSize + cfg.valSize) cfg.testSize
  let trainDataset ← (validator.datasetBuilder.build platform trainRounds
    { minHistory := min 20 (trainRounds.length * 4 / 10) } (moments start).train).mapError .dataset
  let forecast := validator.modelFactory.fitted trainDataset
  let valMetrics ← judge validator platform cfg trainRounds valRounds (trainRounds.length / 2)
    (moments start).val forecast
  let testMetrics ← judge validator platform cfg (trainRounds ++ valRounds) testRounds
    ((trainRounds.length + valRounds.length) / 2) (moments start).test forecast
  let backtestResult ← backtested predict initialBalance cfg (predictor start) testRounds
  return {
    trainFrom := createdAt trainRounds.head?
    trainTo := createdAt trainRounds.getLast?
    valFrom := createdAt valRounds.head?
    valTo := createdAt valRounds.getLast?
    testFrom := createdAt testRounds.head?
    testTo := createdAt testRounds.getLast?
    validationMetrics := valMetrics
    testMetrics
    backtest := backtestResult }

/-- `run`, as far as the fuel lasts. -/
def run (fuel : Nat) (rounds : List HistoricalRound)
    : Option (Except WalkForwardError (List WalkForwardWindow)) :=
  slide (cfg.trainSize + cfg.valSize + cfg.testSize) cfg.stepSize rounds.length
    (window validator platform predict initialBalance predictor moments cfg rounds) fuel 0 []

end Definitions

variable {builder : DatasetBuilder} {platform : Platform} {history rounds : List HistoricalRound}
  {minHistory : Nat}

/-- Of a fresh history the rows of its last rounds are found by their identifiers. -/
theorem rowsAmong_rowsOf (fresh : DatasetBuilder.Fresh (history ++ rounds) minHistory)
    (enough : minHistory ≤ history.length)
    : rowsAmong rounds (builder.rowsOf platform (history ++ rounds) minHistory)
      = builder.rowsOf platform (history ++ rounds) history.length := by
  have rest : (history ++ rounds).drop minHistory = history.drop minHistory ++ rounds :=
    List.drop_append_of_le_length enough
  have length : minHistory + (history.drop minHistory).length = history.length := by
    rw [List.length_drop]
    omega
  have nodup := fresh.nodup
  rw [rest, List.map_append, List.nodup_append] at nodup
  obtain ⟨-, -, apart⟩ := nodup
  have before
      : rowsAmong rounds (((history.drop minHistory).zipIdx minHistory).map fun entry =>
          builder.rowOf platform ((history ++ rounds).take entry.2) entry.1) = [] := by
    rw [rowsAmong, List.filter_eq_nil_iff]
    intro row member found
    obtain ⟨entry, listed, rfl⟩ := List.mem_map.mp member
    obtain ⟨round, among, same⟩ := List.any_eq_true.mp found
    have early : entry.1.id ∈ (history.drop minHistory).map HistoricalRound.id :=
      List.mem_map_of_mem (List.fst_mem_of_mem_zipIdx listed)
    exact apart _ early _ (List.mem_map_of_mem among) (of_decide_eq_true same).symm
  have own
      : rowsAmong rounds ((rounds.zipIdx history.length).map fun entry =>
          builder.rowOf platform ((history ++ rounds).take entry.2) entry.1)
        = (rounds.zipIdx history.length).map fun entry =>
            builder.rowOf platform ((history ++ rounds).take entry.2) entry.1 := by
    rw [rowsAmong, List.filter_eq_self]
    intro row member
    obtain ⟨entry, listed, rfl⟩ := List.mem_map.mp member
    exact List.any_eq_true.mpr
      ⟨entry.1, List.fst_mem_of_mem_zipIdx listed, decide_eq_true rfl⟩
  rw [DatasetBuilder.rowsOf, rest, List.zipIdx_append, List.map_append, rowsAmong,
    List.filter_append, length]
  rw [rowsAmong] at before own
  rw [before, own, List.nil_append, DatasetBuilder.rowsOf, List.drop_left]

section

variable {σ : Type} (validator : WalkForwardValidator) (platform : Platform)
  (predict : σ → PredictRequest → Except String (σ × PredictionSignal)) (initialBalance : ℚ)
  (predictor : Nat → σ) (moments : Nat → WindowMoments) (cfg : WalkForwardConfig)

/-- The metrics are those of the forecasts on the rounds ahead, each from the rounds before it. -/
def JudgedOn (forecast : FeatureVector → Number → Number) (history ahead : List HistoricalRound)
    (metrics : ValidationMetrics) : Prop :=
  let rows := validator.datasetBuilder.rowsOf platform (history ++ ahead) history.length
  evaluate platform (rows.map fun row => forecast row.features cfg.target) rows cfg.target
    = .ok metrics

/-- What is judged are the forecasts on the last rounds. -/
theorem judge_ok (enough : minHistory ≤ history.length) {moment : Moment}
    {forecast : FeatureVector → Number → Number} {metrics : ValidationMetrics}
    (judged
      : judge validator platform cfg history rounds minHistory moment forecast = .ok metrics)
    : JudgedOn validator platform cfg forecast history rounds metrics := by
  rw [judge] at judged
  cases built : validator.datasetBuilder.build platform (history ++ rounds)
      { minHistory := min 20 minHistory } moment with
  | error error =>
      rw [built] at judged
      cases judged
  | ok dataset =>
      have exact := DatasetBuilder.build_iff.2 dataset built
      have fresh := (DatasetBuilder.build_iff.1.mp ⟨dataset, built⟩).2.1
      have among : rowsAmong rounds dataset.rows
          = validator.datasetBuilder.rowsOf platform (history ++ rounds) history.length := by
        rw [exact.rows]
        exact rowsAmong_rowsOf fresh ((Nat.min_le_right _ _).trans enough)
      rw [built] at judged
      change (evaluate platform ((rowsAmong rounds dataset.rows).map fun row =>
        forecast row.features cfg.target) (rowsAmong rounds dataset.rows) cfg.target).mapError _
        = _ at judged
      rw [among] at judged
      exact Except.eq_ok_of_mapError judged

/-- What a window has that is not aborted: a model that was fitted on its training rounds, and the
metrics of its forecasts on the other rounds, each from the rounds of the window before it.
-/
structure Judged (rounds : List HistoricalRound) (start : Nat) (window : WalkForwardWindow)
    (train : Dataset) : Prop where
  fitted
    : train.rows
      = validator.datasetBuilder.rowsOf platform (segment rounds start cfg.trainSize)
          (min 20 ((segment rounds start cfg.trainSize).length * 4 / 10))
  validated
    : JudgedOn validator platform cfg (validator.modelFactory.fitted train)
        (segment rounds start cfg.trainSize)
        (segment rounds (start + cfg.trainSize) cfg.valSize) window.validationMetrics
  tested
    : JudgedOn validator platform cfg (validator.modelFactory.fitted train)
        (segment rounds start cfg.trainSize ++ segment rounds (start + cfg.trainSize) cfg.valSize)
        (segment rounds (start + cfg.trainSize + cfg.valSize) cfg.testSize) window.testMetrics

theorem window_judged {rounds : List HistoricalRound} {start : Nat} {w : WalkForwardWindow}
    (went
      : window validator platform predict initialBalance predictor moments cfg rounds start
        = .ok w)
    : ∃ train, Judged validator platform cfg rounds start w train := by
  rw [window] at went
  obtain ⟨train, trained, went⟩ := Except.eq_ok_of_bind went
  obtain ⟨valMetrics, validated, went⟩ := Except.eq_ok_of_bind went
  obtain ⟨testMetrics, tested, went⟩ := Except.eq_ok_of_bind went
  obtain ⟨backtest, -, went⟩ := Except.eq_ok_of_bind went
  cases went
  refine ⟨train, ?_, ?_, ?_⟩
  · exact (DatasetBuilder.build_iff.2 train (Except.eq_ok_of_mapError trained)).rows
  · exact judge_ok validator platform cfg (Nat.div_le_self _ _) validated
  · refine judge_ok validator platform cfg ?_ tested
    rw [List.length_append]
    exact Nat.div_le_self _ _

/-- The validation walks over all the windows there are and to its end, if it moves at all. What
each window tells are the metrics of forecasts that were made before their rounds, by a model that
was fitted on its training rounds; and windows that move by what they test test every round once.
-/
theorem walks_forward (rounds : List HistoricalRound)
    : let size := cfg.trainSize + cfg.valSize + cfg.testSize
      let windows := count size cfg.stepSize rounds.length 0
      let places := List.range' 0 windows cfg.stepSize
      let turned := window validator platform predict initialBalance predictor moments cfg rounds
      let run := run validator platform predict initialBalance predictor moments cfg
      (0 < cfg.stepSize → ∀ fuel, windows < fuel → run fuel rounds = some (places.mapM turned))
      ∧ (cfg.stepSize = 0 → size ≤ rounds.length → (∃ w, turned 0 = .ok w) →
          ∀ fuel, run fuel rounds = none)
      ∧ (∀ start w, turned start = .ok w →
          ∃ train, Judged validator platform cfg rounds start w train)
      ∧ (cfg.stepSize = cfg.testSize →
          (places.map fun start =>
              segment rounds (start + cfg.trainSize + cfg.valSize) cfg.testSize).flatten
            = segment rounds (cfg.trainSize + cfg.valSize) (windows * cfg.testSize)) := by
  intro size windows places turned run
  refine ⟨?_, ?_, ?_, ?_⟩
  · intro moves fuel enough
    exact slide_all moves enough
  · intro still fits went fuel
    obtain ⟨w, went⟩ := went
    change slide size cfg.stepSize rounds.length turned fuel 0 [] = none
    rw [still]
    exact slide_still ((Nat.zero_add size).symm ▸ fits) went fuel []
  · exact fun start w went => window_judged _ _ _ _ _ _ _ went
  · intro abreast
    have tested := flatten_slides (rounds.drop (cfg.trainSize + cfg.valSize)) cfg.testSize 0 windows
    rw [List.drop_zero] at tested
    refine Eq.trans (congrArg List.flatten ?_) tested
    rw [← abreast]
    refine List.map_congr_left fun start _ => ?_
    rw [segment, List.drop_drop]
    congr 2
    omega

end

end WalkForwardValidator

-----------------------------------------------------------------------------------------
-- The adaptive engine
-----------------------------------------------------------------------------------------

namespace AcieWalkForward

open CrashWave.Acie

structure Config where
  trainSize : Nat := 500
  testSize : Nat := 100
  stepSize : Nat := 100
  entryThreshold : ℚ := 0.58
  target : Number := .finite 1.3

structure AcieWindowResult where
  windowIndex : Nat := 0
  entries : Nat
  hits : Nat
  precision : ℚ
  brier : ℚ
  baselineHitRate : ℚ
  edgeVsBaseline : ℚ
  deriving DecidableEq

structure Aggregate where
  entries : Nat
  hits : Nat
  precision : ℚ
  meanBrier : ℚ
  meanEdge : ℚ
  deriving DecidableEq

structure AcieWalkForwardReport where
  windows : List AcieWindowResult
  aggregate : Aggregate
  summary : String
  deriving DecidableEq

/-- `r.id || r.externalRoundId || name`. -/
def roundName (round : HistoricalRound) (name : String) : String :=
  if truthy round.id then round.id.getD ""
  else if truthy round.externalRoundId then round.externalRoundId.getD ""
  else name

/-- The rounds as the engine is told them, by their places in a part of the window. -/
def inputs (part : String) (start : Nat) (rounds : List HistoricalRound) : List ACIERoundInput :=
  rounds.zipIdx.map fun entry =>
    ⟨roundName entry.1 s!"{part}-{start}-{entry.2}", entry.1.crashPoint⟩

/-- What is thrown at an invalid crash point. -/
structure InvalidCrash where
  deriving DecidableEq

/-- The counts of the loop. -/
structure Tally where
  entries : Nat := 0
  hits : Nat := 0
  brierSum : ℚ := 0
  baselineHits : Nat := 0
  deriving DecidableEq

section Definitions

variable {σ : Type} (models : AcieModels σ) (cfg : Config)

/-- `acie.evaluateNext().psi?.estimatedProbability ?? 0.65`. -/
def forecast (engine : ACIEEngine σ) : ℚ :=
  ((engine.evaluateNext models).pendingContext.map PredictionContext.psiProbability).getD 0.65

/-- Whether a round reached the target. -/
def actual (round : ACIERoundInput) : Nat := if cfg.target ≤ round.crashPoint then 1 else 0

/-- What a forecast of a round counts. -/
def Tally.add (tally : Tally) (p : ℚ) (round : ACIERoundInput) : Tally :=
  let hit := actual cfg round
  let tally :=
    { tally with
      baselineHits := tally.baselineHits + hit
      brierSum := tally.brierSum + (p - hit) ^ 2 }
  if cfg.entryThreshold ≤ p then
    { tally with entries := tally.entries + 1, hits := tally.hits + hit }
  else tally

/-- What a window tells that tested so many rounds. -/
def Tally.result (tally : Tally) (tested : Nat) : AcieWindowResult :=
  let precision := share tally.hits tally.entries
  let baselineHitRate := share tally.baselineHits tested
  { entries := tally.entries
    hits := tally.hits
    precision
    brier := if tested = 0 then 0 else tally.brierSum / tested
    baselineHitRate
    edgeVsBaseline := precision - baselineHitRate }

/-- The turn of the loop over the tested rounds; an invalid crash point throws. -/
def turn (state : ACIEEngine σ × Tally) (round : ACIERoundInput)
    : Except InvalidCrash (ACIEEngine σ × Tally) :=
  let p := forecast models state.1
  let learned := (state.1.evaluateNext models).onCrash models round
  if learned.2 = .invalid then .error {} else .ok (learned.1, state.2.add cfg p round)

/-- The turn of the loop at a place. -/
def window (rounds : List HistoricalRound) (start : Nat)
    : Except InvalidCrash AcieWindowResult := do
  let train := inputs "train" start (segment rounds start cfg.trainSize)
  let test := inputs "test" start (segment rounds (start + cfg.trainSize) cfg.testSize)
  let seeded := ({} : ACIEEngine σ).seedHistory models train
  if .invalid ∈ seeded.2 then
    throw {}
  let (_, tally) ← test.foldlM (turn models cfg) (seeded.1, {})
  return tally.result test.length

def report (platform : Platform) (results : List AcieWindowResult) : AcieWalkForwardReport :=
  let windows := results.zipIdx.map fun entry => { entry.1 with windowIndex := entry.2 }
  let totE := (windows.map AcieWindowResult.entries).sum
  let totH := (windows.map AcieWindowResult.hits).sum
  let meanBrier : ℚ :=
    if windows = [] then 0 else (windows.map AcieWindowResult.brier).sum / windows.length
  let meanEdge : ℚ :=
    if windows = [] then 0 else (windows.map AcieWindowResult.edgeVsBaseline).sum / windows.length
  let precision := share totH totE
  let text (value : ℚ) : String := platform.toFixed (.finite value) 3
  { windows
    aggregate := { entries := totE, hits := totH, precision, meanBrier, meanEdge }
    summary :=
      if windows = [] then "INSUFFICIENT_DATA"
      else s!"ACIE_WF windows={windows.length} precision={text precision} edge={text meanEdge} "
        ++ s!"brier={text meanBrier}" }

/-- `runAcieWalkForward`, as far as the fuel lasts. -/
def runAcieWalkForward (platform : Platform) (fuel : Nat) (rounds : List HistoricalRound)
    : Option (Except InvalidCrash AcieWalkForwardReport) :=
  (slide (cfg.trainSize + cfg.testSize) cfg.stepSize rounds.length (window models cfg rounds) fuel 0
    []).map fun ended => ended.map (report platform)

end Definitions

variable {σ : Type} {models : AcieModels σ} {cfg : Config} {engine : ACIEEngine σ}
  {round : ACIERoundInput}

/-- What the live engine has forecast of the next round. -/
def pending (engine : ACIEEngine σ) : ℚ :=
  (engine.pendingContext.map PredictionContext.psiProbability).getD 0.65

/-- The forecasts of the live engine, each of a round that it is told of next. -/
def liveForecasts (models : AcieModels σ)
    : ACIEEngine σ → List ACIERoundInput → List (ℚ × ACIERoundInput)
  | _, [] => []
  | engine, round :: rest =>
      (pending engine, round) :: liveForecasts models (engine.onCrash models round).1 rest

/-- An engine that has evaluated the next round. -/
def Evaluated (models : AcieModels σ) (engine : ACIEEngine σ) : Prop :=
  engine.evaluateNext models = engine

theorem evaluated_evaluateNext : Evaluated models (engine.evaluateNext models) := rfl

theorem evaluated_onCrash (valid : (engine.onCrash models round).2 ≠ .invalid)
    : Evaluated models (engine.onCrash models round).1 := by
  rw [ACIEEngine.onCrash, ACIEEngine.ingestCrash] at *
  split at valid
  · next known =>
      rw [if_pos known]
      rfl
  · next new =>
      rw [if_neg new]
      dsimp only at valid ⊢
      split at valid
      · split at valid
        · exact absurd rfl valid
        · next positive =>
            rw [if_neg positive]
            rfl
      · exact absurd rfl valid
      · exact absurd rfl valid

theorem evaluated_seedHistory {rounds : List ACIERoundInput}
    (valid : .invalid ∉ (engine.seedHistory models rounds).2)
    : Evaluated models (engine.seedHistory models rounds).1 := by
  simp only [ACIEEngine.seedHistory] at valid ⊢
  generalize engine.seedRounds models (Acie.lastOf 2000 rounds) = result at valid ⊢
  rw [if_neg valid]
  exact evaluated_evaluateNext

/-- The loop runs the live engine and tallies its forecasts, by induction on the rounds. -/
theorem foldlM_turn_live (rounds : List ACIERoundInput) {tally : Tally}
    (evaluated : Evaluated models engine) {ended : ACIEEngine σ × Tally}
    (went : rounds.foldlM (turn models cfg) (engine, tally) = .ok ended)
    : ended.2 = (liveForecasts models engine rounds).foldl
        (fun tally told => tally.add cfg told.1 told.2) tally := by
  induction rounds generalizing engine tally with
  | nil =>
      cases went
      rfl
  | cons round rest ih =>
      rw [List.foldlM_cons] at went
      obtain ⟨⟨learned, counted⟩, turned, went⟩ := Except.eq_ok_of_bind went
      rw [turn, evaluated] at turned
      dsimp only at turned
      split at turned
      · cases turned
      · next valid =>
          have same : (engine.onCrash models round).1 = learned
              ∧ tally.add cfg (forecast models engine) round = counted := by
            simpa using turned
          obtain ⟨rfl, rfl⟩ := same
          have told : forecast models engine = pending engine := by
            rw [forecast, evaluated, pending]
          rw [ih (evaluated_onCrash valid) went, told]
          rfl

/-- What forecasts count, by induction on them. -/
theorem foldl_add (told : List (ℚ × ACIERoundInput)) (tally : Tally)
    : told.foldl (fun tally forecast => tally.add cfg forecast.1 forecast.2) tally
      = { entries := tally.entries + told.countP fun forecast => cfg.entryThreshold ≤ forecast.1
          hits := tally.hits
            + told.countP fun forecast =>
                cfg.entryThreshold ≤ forecast.1 ∧ cfg.target ≤ forecast.2.crashPoint
          brierSum := tally.brierSum
            + (told.map fun forecast => (forecast.1 - actual cfg forecast.2 : ℚ) ^ 2).sum
          baselineHits := tally.baselineHits
            + told.countP fun forecast => cfg.target ≤ forecast.2.crashPoint } := by
  induction told generalizing tally with
  | nil => simp
  | cons forecast rest ih =>
      rw [List.foldl_cons, ih]
      by_cases enters : cfg.entryThreshold ≤ forecast.1 <;>
        by_cases hits : cfg.target ≤ forecast.2.crashPoint <;>
        simp only [Tally.add, actual, enters, hits, if_true, if_false, List.countP_cons,
          List.map_cons, List.sum_cons, decide_true, decide_false, and_self, and_true, and_false,
          Bool.false_eq_true, Tally.mk.injEq] <;>
        refine ⟨?_, ?_, ?_, ?_⟩ <;> first | omega | ring

theorem length_liveForecasts (models : AcieModels σ) (engine : ACIEEngine σ)
    (rounds : List ACIERoundInput)
    : (liveForecasts models engine rounds).length = rounds.length := by
  induction rounds generalizing engine with
  | nil => rfl
  | cons round rest ih => rw [liveForecasts, List.length_cons, List.length_cons, ih]

/-- The forecasts of later rounds come from the engine that was told of the earlier ones, by
induction on these.
-/
theorem liveForecasts_append (models : AcieModels σ) (engine : ACIEEngine σ)
    (before ahead : List ACIERoundInput)
    : liveForecasts models engine (before ++ ahead)
      = liveForecasts models engine before
        ++ liveForecasts models
            (before.foldl (fun engine round => (engine.onCrash models round).1) engine) ahead := by
  induction before generalizing engine with
  | nil => rfl
  | cons round rest ih =>
      rw [List.cons_append, liveForecasts, ih, liveForecasts, List.foldl_cons, List.cons_append]

/-- What a window tells of the forecasts of its tested rounds. -/
structure Tells (cfg : Config) (told : List (ℚ × ACIERoundInput)) (result : AcieWindowResult)
    : Prop where
  entries : result.entries = told.countP fun forecast => cfg.entryThreshold ≤ forecast.1
  hits
    : result.hits
      = told.countP fun forecast =>
          cfg.entryThreshold ≤ forecast.1 ∧ cfg.target ≤ forecast.2.crashPoint
  precision : result.precision * result.entries = result.hits
  brier
    : result.brier * told.length
      = (told.map fun forecast => (forecast.1 - actual cfg forecast.2 : ℚ) ^ 2).sum
  baseline
    : result.baselineHitRate * told.length
      = (told.countP fun forecast => cfg.target ≤ forecast.2.crashPoint : Nat)
  edge : result.edgeVsBaseline = result.precision - result.baselineHitRate
  bounds : 0 ≤ result.precision ∧ result.precision ≤ 1 ∧ |result.edgeVsBaseline| ≤ 1

theorem result_tells (cfg : Config) (told : List (ℚ × ACIERoundInput))
    : Tells cfg told
        ((told.foldl (fun tally forecast => Tally.add cfg tally forecast.1 forecast.2) {}).result
          told.length) := by
  rw [foldl_add]
  simp only [Tally.result, zero_add]
  have among
      : (told.countP fun forecast =>
          cfg.entryThreshold ≤ forecast.1 ∧ cfg.target ≤ forecast.2.crashPoint)
        ≤ told.countP fun forecast => cfg.entryThreshold ≤ forecast.1 :=
    List.countP_mono_left fun forecast _ both => by
      simp only [decide_eq_true_eq] at both ⊢
      exact both.1
  have reached
      : (told.countP fun forecast => cfg.target ≤ forecast.2.crashPoint) ≤ told.length :=
    List.countP_le_length
  have precision := share_bounds among
  have baseline := share_bounds reached
  constructor
  · rfl
  · rfl
  · exact share_mul among
  · by_cases none : told.length = 0
    · obtain rfl := List.eq_nil_of_length_eq_zero none
      simp
    · rw [if_neg none]
      exact div_mul_cancel₀ _ (Nat.cast_ne_zero.mpr none)
  · exact share_mul reached
  · rfl
  · refine ⟨precision.1, precision.2, abs_le.mpr ⟨?_, ?_⟩⟩
    · linarith [precision.1, baseline.2]
    · linarith [precision.2, baseline.1]

theorem window_tells {rounds : List HistoricalRound} {start : Nat} {result : AcieWindowResult}
    (went : window models cfg rounds start = .ok result)
    : Tells cfg
        (liveForecasts models
          (({} : ACIEEngine σ).seedHistory models
            (inputs "train" start (segment rounds start cfg.trainSize))).1
          (inputs "test" start (segment rounds (start + cfg.trainSize) cfg.testSize)))
        result := by
  rw [window] at went
  dsimp only at went
  split at went
  · cases went
  · next valid =>
      obtain ⟨-, -, went⟩ := Except.eq_ok_of_bind went
      obtain ⟨⟨engine, tally⟩, looped, went⟩ := Except.eq_ok_of_bind went
      have told : tally = _ := foldlM_turn_live _ (evaluated_seedHistory valid) looped
      cases went
      rw [told, ← length_liveForecasts models]
      exact result_tells cfg _

/-- The walk over the windows is run to its end if it moves, and every window tells of the forecasts
that the live engine makes which was seeded with the training rounds and is told of the tested
rounds one by one: none of them depends on the round that it is of, or on those after it.
-/
theorem walks_live_path (models : AcieModels σ) (cfg : Config) (platform : Platform)
    (rounds : List HistoricalRound)
    : let windows := count (cfg.trainSize + cfg.testSize) cfg.stepSize rounds.length 0
      let places := List.range' 0 windows cfg.stepSize
      (0 < cfg.stepSize → ∀ fuel, windows < fuel →
        runAcieWalkForward models cfg platform fuel rounds
          = some ((places.mapM (window models cfg rounds)).map (report platform)))
      ∧ (∀ start result, window models cfg rounds start = .ok result →
          Tells cfg
            (liveForecasts models
              (({} : ACIEEngine σ).seedHistory models
                (inputs "train" start (segment rounds start cfg.trainSize))).1
              (inputs "test" start (segment rounds (start + cfg.trainSize) cfg.testSize)))
            result)
      ∧ ∀ (engine : ACIEEngine σ) before round ahead round' ahead',
          ((liveForecasts models engine (before ++ round :: ahead)).map Prod.fst).take
              (before.length + 1)
            = ((liveForecasts models engine (before ++ round' :: ahead')).map Prod.fst).take
                (before.length + 1) := by
  intro windows places
  refine ⟨?_, fun start result went => window_tells went, ?_⟩
  · intro moves fuel enough
    rw [runAcieWalkForward, slide_all moves enough, Option.map_some]
  · intro engine before round ahead round' ahead'
    have first (round : ACIERoundInput) (ahead : List ACIERoundInput)
        : ((liveForecasts models engine (before ++ round :: ahead)).map Prod.fst).take
              (before.length + 1)
          = (liveForecasts models engine before).map Prod.fst
            ++ [pending
              (before.foldl (fun engine round => (engine.onCrash models round).1) engine)] := by
      have length : before.length = ((liveForecasts models engine before).map Prod.fst).length := by
        rw [List.length_map, length_liveForecasts]
      rw [liveForecasts_append, List.map_append, length, List.take_length_add_append,
        liveForecasts]
      rfl
    rw [first, first]

end AcieWalkForward

end CrashWave.Datasets
