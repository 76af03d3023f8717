import CrashWave.Prediction.CrashFeedback
import CrashWave.Prediction.DivergenceLevels
import CrashWave.Prediction.EntryVerdicts

/-! How often a crash is learned: by the adaptive engine once, while it remembers its rounds, and
by the calibration and the divergence monitor twice at every delivery that finds a probability.
-/

namespace CrashWave.Prediction

open Acie Calibration Divergence Incremental JavaScript ModelLifecycle Runs

/-- Every prediction in the window of the divergence monitor is finite, so that it never throws. -/
def FiniteWindow (monitor : LiveDivergenceMonitor) : Prop :=
  ∀ point ∈ monitor.window, ∃ predicted, point.predicted = .finite predicted

section

variable {monitor : LiveDivergenceMonitor}

theorem windowValues_isSome {window : List WindowPoint}
    (finite : ∀ point ∈ window, ∃ predicted, point.predicted = .finite predicted)
    : (windowValues window).isSome = true := by
  induction window with
  | nil => rfl
  | cons point rest ih =>
      obtain ⟨first, others⟩ := List.forall_mem_cons.mp finite
      obtain ⟨predicted, same⟩ := first
      have value : point.predicted.finiteValue = some predicted := by
        rw [same]
        rfl
      obtain ⟨values, found⟩ := Option.isSome_iff_exists.mp (ih others)
      rw [windowValues] at found ⊢
      simp [List.mapM_cons, value, found]

theorem evaluate_window : monitor.evaluate.1.window = monitor.window := by
  unfold LiveDivergenceMonitor.evaluate
  split
  · rfl
  · split
    · rfl
    · exact settle_window

theorem FiniteWindow.evaluate_isSome (finite : FiniteWindow monitor)
    : monitor.evaluate.2.isSome = true := by
  unfold LiveDivergenceMonitor.evaluate
  split
  · rfl
  · have measured : (windowMetrics monitor.window).isSome = true := by
      rw [windowMetrics, Option.isSome_map]
      exact windowValues_isSome finite
    split
    · next nan => simp [nan] at measured
    · rfl

/-- A clamped finite number is finite. -/
theorem clamp_finite (low high value : ℚ)
    : ∃ clamped,
        Number.min (.finite high) (Number.max (.finite low) (.finite value)) = .finite clamped := by
  simp only [Number.max]
  split
  · simp only [Number.min]
    split <;> exact ⟨_, rfl⟩
  · simp only [Number.min]
    split <;> exact ⟨_, rfl⟩

theorem FiniteWindow.record (finite : FiniteWindow monitor) (predicted : ℚ) (actual : Bool)
    : FiniteWindow (monitor.record (.finite predicted) actual) := by
  intro point member
  have among : point ∈ monitor.window ++ [⟨Number.min (.finite 0.99)
      (Number.max (.finite 0.01) (.finite predicted)), actual⟩] := by
    simp only [LiveDivergenceMonitor.record, LiveDivergenceMonitor.pushPoint] at member
    split at member
    · exact List.mem_of_mem_drop member
    · exact member
  rcases List.mem_append.mp among with old | new
  · exact finite point old
  · rw [List.mem_singleton.mp new]
    exact clamp_finite 0.01 0.99 predicted

theorem FiniteWindow.observe (finite : FiniteWindow monitor) (predicted : ℚ) (actual : Bool)
    : FiniteWindow (monitor.observe (.finite predicted) actual).1
      ∧ (monitor.observe (.finite predicted) actual).2.isSome = true := by
  have recorded := finite.record predicted actual
  refine ⟨?_, recorded.evaluate_isSome⟩
  intro point member
  rw [LiveDivergenceMonitor.observe, evaluate_window] at member
  exact recorded point member

theorem FiniteWindow.observeOutcome {controller : ProductionController}
    (finite : FiniteWindow controller.divergence) (predicted : ℚ) (actual : Bool)
    : FiniteWindow (controller.observeOutcome (.finite predicted) actual).1.divergence
      ∧ (controller.observeOutcome (.finite predicted) actual).2.isSome = true := by
  obtain ⟨kept, answered⟩ := finite.observe predicted actual
  unfold ProductionController.observeOutcome
  split
  · next divergence nan =>
      rw [nan] at answered
      cases answered
  · next divergence snapshot observed =>
      rw [observed] at kept
      split
      · split <;> exact ⟨kept, rfl⟩
      · exact ⟨kept, rfl⟩

end

-----------------------------------------------------------------------------------------
-- What one event feeds
-----------------------------------------------------------------------------------------

/-- The crash that an event observes. -/
def LearningEvent.observed : LearningEvent → Option ObservedCrash
  | .crash delivery _ => delivery.observed
  | _ => none

/-- The signal that an event keeps. -/
def LearningEvent.emission (service : EntryDecisionService) : LearningEvent → Option Emission
  | .decide roundId env ctx _ => Prediction.emission service env ctx roundId
  | _ => none

/-- What a crash feeds: a positive probability twice to the calibration and twice to the
divergence monitor.
-/
def fedPairs (last : Option UnitProbability) (crash : ObservedCrash) : List FedPair :=
  match last with
  | none => []
  | some predicted =>
      if 0 < predicted.value then
        let actual := decide (.finite 1.3 ≤ crash.crashPoint)
        [⟨.calibration, crash, predicted, actual⟩, ⟨.divergence, crash, predicted, actual⟩,
          ⟨.calibration, crash, predicted, actual⟩, ⟨.divergence, crash, predicted, actual⟩]
      else []

namespace LearningStack

variable {σ : Type} {models : AcieModels σ} {service : EntryDecisionService}
  {stack : LearningStack σ}

/-- The pairs over all regimes that the calibration was fed. -/
def calibrationPairs (fed : List FedPair) : List Isotonic.Pair :=
  (fed.filter fun pair => pair.sink = .calibration).map fun pair =>
    clampedPair pair.predicted.value pair.actual

/-- There is nothing that feedback can throw at, and the calibration holds the last of the pairs
that it was fed.
-/
def Sound (stack : LearningStack σ) : Prop :=
  FiniteWindow stack.production.divergence
  ∧ 0 < stack.calibration.maxPairs
  ∧ stack.calibration.global.Records stack.calibration.maxPairs (calibrationPairs stack.fed)

/-- Pairs are fed, and nothing else happens to the last probability and the records. -/
structure Feeds (stack after : LearningStack σ) (pairs : List FedPair) : Prop where
  last : after.lastEmittedProbability = stack.lastEmittedProbability
  emissions : after.emissions = stack.emissions
  observed : after.observed = stack.observed
  fed : after.fed = stack.fed ++ pairs
  sound : Sound after

theorem Feeds.refl (sound : Sound stack) : Feeds stack stack [] :=
  ⟨rfl, rfl, rfl, (List.append_nil _).symm, sound⟩

theorem Feeds.trans {first second third : LearningStack σ} {pairs more : List FedPair}
    (before : Feeds first second pairs) (after : Feeds second third more)
    : Feeds first third (pairs ++ more) where
  last := after.last.trans before.last
  emissions := after.emissions.trans before.emissions
  observed := after.observed.trans before.observed
  fed := by rw [after.fed, before.fed, List.append_assoc]
  sound := after.sound

theorem observeCalibration_feeds (sound : Sound stack) (crash : ObservedCrash)
    (predicted : UnitProbability) (actual : Bool)
    : Feeds stack (stack.observeCalibration crash predicted actual)
        [⟨.calibration, crash, predicted, actual⟩] := by
  obtain ⟨finite, positive, records⟩ := sound
  have observed :=
    CalibrationState.observe_records records predicted.value actual "global"
  refine ⟨rfl, rfl, rfl, rfl, finite, ?_, ?_⟩
  · simpa [observeCalibration] using positive
  · simpa [observeCalibration, calibrationPairs] using observed

theorem observeOutcome_feeds (sound : Sound stack) (crash : ObservedCrash)
    (predicted : UnitProbability) (actual : Bool)
    : Feeds stack (stack.observeOutcome crash predicted actual).1
        [⟨.divergence, crash, predicted, actual⟩]
      ∧ (stack.observeOutcome crash predicted actual).2 = false := by
  obtain ⟨finite, positive, records⟩ := sound
  obtain ⟨kept, answered⟩ := finite.observeOutcome predicted.value actual
  refine ⟨⟨rfl, rfl, rfl, rfl, kept, positive, ?_⟩, by simpa [observeOutcome] using answered⟩
  simpa [observeOutcome, calibrationPairs] using records

theorem observeDivergence_feeds (sound : Sound stack) (crash : ObservedCrash)
    (predicted : UnitProbability) (actual : Bool)
    : Feeds stack (stack.observeDivergence crash predicted actual).1
        [⟨.divergence, crash, predicted, actual⟩]
      ∧ (stack.observeDivergence crash predicted actual).2 = false := by
  obtain ⟨finite, positive, records⟩ := sound
  obtain ⟨kept, answered⟩ := finite.observe predicted.value actual
  refine ⟨⟨rfl, rfl, rfl, rfl, kept, positive, ?_⟩, by simpa [observeDivergence] using answered⟩
  simpa [observeDivergence, calibrationPairs] using records

theorem feedbackPredictionPipeline_feeds (sound : Sound stack) (crash : ObservedCrash)
    (predicted : UnitProbability) (actual : Bool)
    : Feeds stack (stack.feedbackPredictionPipeline crash predicted actual).1
        [⟨.divergence, crash, predicted, actual⟩, ⟨.calibration, crash, predicted, actual⟩]
      ∧ (stack.feedbackPredictionPipeline crash predicted actual).2 = false := by
  obtain ⟨outcome, answered⟩ := observeOutcome_feeds sound crash predicted actual
  unfold feedbackPredictionPipeline
  split
  · next after threw =>
      rw [threw] at answered
      cases answered
  · next after passed =>
      rw [passed] at outcome
      have calibrated := outcome.trans
        (observeCalibration_feeds outcome.sound crash predicted actual)
      exact ⟨⟨calibrated.last, calibrated.emissions, calibrated.observed, calibrated.fed,
        calibrated.sound⟩, rfl⟩

/-- The feedback of a crash, which never throws. -/
theorem feedback_feeds (sound : Sound stack) (crash : ObservedCrash)
    : Feeds stack (stack.feedback crash).1 (fedPairs stack.lastEmittedProbability crash)
      ∧ (stack.feedback crash).2 = false := by
  unfold feedback
  cases last : stack.lastEmittedProbability with
  | none => exact ⟨.refl sound, rfl⟩
  | some predicted =>
      simp only [fedPairs]
      split
      · let actual := decide (.finite 1.3 ≤ crash.crashPoint)
        have calibrated := observeCalibration_feeds sound crash predicted actual
        obtain ⟨fed, answered⟩ :=
          feedbackPredictionPipeline_feeds calibrated.sound crash predicted actual
        split
        · next after threw =>
            rw [threw] at answered
            cases answered
        · next after passed =>
            rw [passed] at fed
            obtain ⟨observed, final⟩ :=
              observeDivergence_feeds fed.sound crash predicted actual
            exact ⟨(calibrated.trans fed).trans observed, final⟩
      · exact ⟨.refl sound, rfl⟩

theorem status_feeds (sound : Sound stack) : Feeds stack stack.status [] := by
  refine ⟨rfl, rfl, rfl, (List.append_nil _).symm, ?_, sound.2⟩
  intro point member
  simp only [status, evaluate_window] at member
  exact sound.1 point member

/-- Seeding changes the adaptive engine alone. -/
theorem ensureAcieSeeded_feeds (sound : Sound stack) (recent : List ACIERoundInput)
    : Feeds stack (stack.ensureAcieSeeded models recent) [] := by
  unfold ensureAcieSeeded
  rcases stack.acie.seedHistory models recent with ⟨acie, outcomes⟩
  split
  · exact .refl sound
  · split <;> exact ⟨rfl, rfl, rfl, (List.append_nil _).symm, sound⟩

/-- A crash that is observed is recorded, and feeds what the last probability says. -/
theorem observeCrash_feeds (sound : Sound stack) (crash : ObservedCrash)
    (recent : List ACIERoundInput)
    : Feeds { stack with observed := stack.observed ++ [crash] }
        (stack.observeCrash models crash recent)
        (fedPairs stack.lastEmittedProbability crash) := by
  have seeded : Feeds stack (stack.ensureAcieSeeded models recent) [] :=
    ensureAcieSeeded_feeds sound recent
  let updated : LearningStack σ :=
    { stack.ensureAcieSeeded models recent with
      incremental :=
        (stack.ensureAcieSeeded models recent).incremental.update crash.crashPoint
      observed := (stack.ensureAcieSeeded models recent).observed ++ [crash] }
  have recorded : Feeds { stack with observed := stack.observed ++ [crash] } updated [] :=
    ⟨seeded.last, seeded.emissions, congrArg (· ++ [crash]) seeded.observed, seeded.fed,
      seeded.sound⟩
  obtain ⟨fed, passed⟩ := feedback_feeds recorded.sound crash
  have reported := (recorded.trans fed).trans (status_feeds fed.sound)
  have last : updated.lastEmittedProbability = stack.lastEmittedProbability := seeded.last
  rw [List.nil_append, List.append_nil, last] at reported
  simp only [observeCrash]
  split
  · next threw => cases threw.symm.trans passed
  · exact ⟨reported.last, reported.emissions, reported.observed, reported.fed, reported.sound⟩

/-- What one event leaves of the last probability and adds to the records of what was done. -/
structure Effect (service : EntryDecisionService) (stack after : LearningStack σ)
    (event : LearningEvent) : Prop where
  last : after.lastEmittedProbability
    = ((event.emission service).map (·.probability)).or stack.lastEmittedProbability
  emissions : after.emissions = stack.emissions ++ (event.emission service).toList
  observed : after.observed = stack.observed ++ event.observed.toList
  fed : after.fed = stack.fed
    ++ (event.observed.map (fedPairs stack.lastEmittedProbability)).getD []
  sound : Sound after

theorem Feeds.effect {after : LearningStack σ} {event : LearningEvent}
    (feeds : Feeds stack after []) (silent : event.emission service = none)
    (unobserved : event.observed = none)
    : Effect service stack after event where
  last := by rw [silent, feeds.last]; rfl
  emissions := by rw [silent, feeds.emissions]; simp
  observed := by rw [unobserved, feeds.observed]; simp
  fed := by rw [unobserved, feeds.fed]; rfl
  sound := feeds.sound

/-- Without enough to go on, no signal is kept. -/
theorem emission_of_refused {env : DecisionEnvironment} {ctx : EntryDecisionContext}
    (refused : (ctx.isLive ∧ !env.readyForLive) ∨ !env.historyWarmed ∨ !enoughHistory env ctx)
    (roundId : String)
    : Prediction.emission service env ctx roundId = none := by
  rw [Prediction.emission, keptSignal, if_pos refused]
  rfl

theorem evaluateEntry_effect (sound : Sound stack) (roundId : String) (env : DecisionEnvironment)
    (ctx : EntryDecisionContext) (recent : List ACIERoundInput)
    : Effect service stack (stack.evaluateEntry models service roundId env ctx recent)
        (.decide roundId env ctx recent) := by
  have seeded : Feeds stack (stack.ensureAcieSeeded models recent) [] :=
    ensureAcieSeeded_feeds sound recent
  simp only [evaluateEntry]
  split
  · next refused => exact (Feeds.refl sound).effect (emission_of_refused (by tauto) roundId) rfl
  · split
    · next few => exact seeded.effect (emission_of_refused (.inr (.inr few)) roundId) rfl
    · split
      · next silent =>
          have evaluated : Feeds stack { stack.ensureAcieSeeded models recent with
              acie := (stack.ensureAcieSeeded models recent).acie.evaluateNext models } [] :=
            ⟨seeded.last, seeded.emissions, seeded.observed, seeded.fed, seeded.sound⟩
          exact evaluated.effect silent rfl
      · next kept found =>
          constructor
          · simp [LearningEvent.emission, found]
          · simpa [LearningEvent.emission, found] using seeded.emissions
          · simpa [LearningEvent.observed] using seeded.observed
          · simpa [LearningEvent.observed] using seeded.fed
          · exact seeded.sound

theorem next_effect (sound : Sound stack) (event : LearningEvent)
    : Effect service stack (stack.next models service event) event := by
  cases event with
  | decide roundId env ctx recent => exact evaluateEntry_effect sound roundId env ctx recent
  | crash delivery recent =>
      simp only [next]
      split
      · next ignored => exact (Feeds.refl sound).effect rfl ignored
      · next crash found =>
          have feeds : Feeds _ (stack.observeCrash models crash recent) _ :=
            observeCrash_feeds sound crash recent
          constructor
          · exact feeds.last
          · simpa [LearningEvent.emission] using feeds.emissions
          · simpa [LearningEvent.observed, found] using feeds.observed
          · simpa [LearningEvent.observed, found] using feeds.fed
          · exact feeds.sound
  | heavyEvidence threw =>
      have kept : Feeds stack (stack.next models service (.heavyEvidence threw)) [] := by
        simp only [next]
        split <;> exact ⟨rfl, rfl, rfl, (List.append_nil _).symm, sound⟩
      exact kept.effect rfl rfl
  | refit =>
      have kept : Feeds stack (stack.next models service .refit) [] :=
        ⟨rfl, rfl, rfl, (List.append_nil _).symm, sound.1, sound.2.1,
          CalibrationState.refit_records sound.2.2⟩
      exact kept.effect rfl rfl
  | evaluateDivergence => exact (status_feeds sound).effect rfl rfl
  | manualRecover confirm =>
      have kept : Feeds stack (stack.next models service (.manualRecover confirm)) [] := by
        refine ⟨rfl, rfl, rfl, (List.append_nil _).symm, ?_, sound.2⟩
        intro point member
        simp only [next, LiveDivergenceMonitor.manualRecover] at member
        split at member <;> exact sound.1 point member
      exact kept.effect rfl rfl

-----------------------------------------------------------------------------------------
-- Samples of a round
-----------------------------------------------------------------------------------------

/-- How many pairs a sink was fed at crashes of the round. -/
def samples (stack : LearningStack σ) (sink : FeedbackSink) (roundId : String) : Nat :=
  stack.fed.countP fun pair => pair.sink = sink ∧ pair.crash.roundId = roundId

/-- Every round whose crash was observed is one sample of the calibration, of the divergence
monitor and of the adaptive engine.
-/
def LearnedOnce (stack : LearningStack σ) : Prop :=
  ∀ crash ∈ stack.observed,
    stack.samples .calibration crash.roundId = 1
    ∧ stack.samples .divergence crash.roundId = 1
    ∧ stack.learned.count crash.roundId = 1

instance (stack : LearningStack σ) : Decidable (LearnedOnce stack) :=
  inferInstanceAs (Decidable (∀ crash ∈ stack.observed, _))

/-- A crash feeds both sinks twice or not at all. -/
theorem fedPairs_even (last : Option UnitProbability) (crash : ObservedCrash)
    (sink : FeedbackSink) (roundId : String)
    : Even ((fedPairs last crash).countP fun pair =>
        pair.sink = sink ∧ pair.crash.roundId = roundId) := by
  unfold fedPairs
  split
  · simp
  · split
    · by_cases same : crash.roundId = roundId
      · cases sink <;> simp [same]
      · simp [same]
    · simp

/-- Feedback that cannot throw, and has fed every sink evenly for every round. -/
structure FedEvenly (stack : LearningStack σ) : Prop where
  sound : Sound stack
  even : ∀ sink roundId, Even (stack.samples sink roundId)

theorem FedEvenly.next (fed : FedEvenly stack) (event : LearningEvent)
    : FedEvenly (stack.next models service event) := by
  have effect : Effect service stack (stack.next models service event) event :=
    next_effect fed.sound event
  refine ⟨effect.sound, ?_⟩
  intro sink roundId
  rw [samples, effect.fed, List.countP_append]
  refine (fed.even sink roundId).add ?_
  cases event.observed with
  | none => simp
  | some crash => exact fedPairs_even stack.lastEmittedProbability crash sink roundId

theorem fedEvenly_initial : FedEvenly ({} : LearningStack σ) where
  sound := by
    refine ⟨?_, by simp [CalibrationState.new], .create 2000⟩
    intro point member
    cases member
  even := by simp [samples]

/-- The crashes that a run observes, by run induction. -/
theorem run_observed (sound : Sound stack) (events : List LearningEvent)
    : (run (LearningStack.next models service) stack events).observed
      = stack.observed ++ events.filterMap LearningEvent.observed := by
  induction events generalizing stack with
  | nil => simp [run]
  | cons event rest ih =>
      have effect : Effect service stack (stack.next models service event) event :=
        next_effect sound event
      have later := ih effect.sound
      rw [effect.observed] at later
      cases found : event.observed with
      | none => simpa [run, List.filterMap_cons, found] using later
      | some crash => simpa [run, List.filterMap_cons, found] using later

theorem run_sound (models : AcieModels σ) (service : EntryDecisionService)
    (events : List LearningEvent)
    : Sound (run (LearningStack.next models service) {} events) := by
  have kept (stack : LearningStack σ) (event : LearningEvent) (sound : Sound stack)
      : Sound (stack.next models service event) :=
    (next_effect sound event).sound
  exact run_invariant kept events fedEvenly_initial.sound

/-- What the calibrators over all regimes are fitted to in any run: the last of the pairs that the
calibration was fed.
-/
theorem run_pairsArray (models : AcieModels σ) (service : EntryDecisionService)
    (events : List LearningEvent)
    : let stack := run (LearningStack.next models service) {} events
      let pairs := calibrationPairs stack.fed
      stack.calibration.global.pairsArray stack.calibration.maxPairs
        = pairs.drop (pairs.length - stack.calibration.maxPairs) :=
  (run_sound models service events).2.2.pairsArray_eq

/-- Every crash is learned once in no run but those that observe none: both sinks are fed for a
round an even number of times.
-/
theorem learnedOnce_iff (models : AcieModels σ) (service : EntryDecisionService)
    (events : List LearningEvent)
    : LearnedOnce (run (LearningStack.next models service) {} events)
      ↔ ∀ event ∈ events, event.observed = none := by
  have fed : FedEvenly (run (LearningStack.next models service) {} events) :=
    run_invariant (fun _ event fed => fed.next event) events fedEvenly_initial
  have observed : (run (LearningStack.next models service) {} events).observed
      = events.filterMap LearningEvent.observed := by
    simpa using run_observed fedEvenly_initial.sound events
  constructor
  · intro once
    have none : (run (LearningStack.next models service) {} events).observed = [] := by
      refine List.eq_nil_iff_forall_not_mem.mpr ?_
      intro crash member
      have even := fed.even .calibration crash.roundId
      rw [(once crash member).1] at even
      exact absurd even (by decide)
    rw [observed] at none
    exact List.filterMap_eq_nil_iff.mp none
  · intro unobserved crash member
    rw [observed, List.filterMap_eq_nil_iff.mpr unobserved] at member
    cases member

/-- Models that always expect the same. -/
def steadyModels : AcieModels Unit where
  computeSequenceState _ := ()
  detectRegime _ := .normal
  estimateWithModels _ := (0.65, ∅)
  exp _ := 1

/-- A configuration in live mode. -/
def liveModeConfig : Value := .object [("system", .object [("mode", .string "live")])]

/-- A crash that both bridges deliver in live mode. -/
def deliveredTwice : List LearningEvent :=
  [.crash (.dryRun ⟨some "r1", some 2⟩) [],
    .crash (.live liveModeConfig ⟨some "r1", some 2⟩) []]

/-- The decision about a round that keeps a signal. -/
def decisionKept : LearningEvent :=
  .decide "r1" (warmEnvironment (7 / 10)) (openContext .live) []

/-- The crash of a round is no sample of the calibration or the divergence monitor where no decision
was made, and four of each after one.
-/
theorem crash_not_learned_once
    : (let undecided := run (LearningStack.next steadyModels {}) {} deliveredTwice
      ¬ LearnedOnce undecided ∧ ∀ sink, undecided.samples sink "r1" = 0)
      ∧ (let decided :=
          run (LearningStack.next steadyModels {}) {} (decisionKept :: deliveredTwice)
        ¬ LearnedOnce decided ∧ ∀ sink, decided.samples sink "r1" = 4) := by
  have undecided : ∀ sink,
      (run (LearningStack.next steadyModels {}) {} deliveredTwice).samples sink "r1" = 0 := by
    intro sink
    cases sink <;> decide +kernel
  have decided : ∀ sink,
      (run (LearningStack.next steadyModels {}) {} (decisionKept :: deliveredTwice)).samples
        sink "r1" = 4 := by
    intro sink
    cases sink <;> decide +kernel
  refine ⟨⟨?_, undecided⟩, ?_, decided⟩
  · decide +kernel
  · decide +kernel

-----------------------------------------------------------------------------------------
-- The adaptive engine
-----------------------------------------------------------------------------------------

/-- As long as it has forgotten no round, the engine has learned every named round once and
remembers it.
-/
def Remembers (acie : ACIEEngine σ) (learned : List String) : Prop :=
  acie.processedRoundIds.length < 5000 →
    (learned.filter fun roundId => roundId ≠ "").Nodup
    ∧ ∀ roundId ∈ learned, roundId ≠ "" → roundId ∈ acie.processedRoundIds

section

variable {acie after : ACIEEngine σ} {learned : List String}

/-- Only the rounds that the engine remembers count. -/
theorem Remembers.congr (remembers : Remembers acie learned)
    (same : after.processedRoundIds = acie.processedRoundIds)
    : Remembers after learned := by
  rw [Remembers, same]
  exact remembers

@[simp] theorem decideNext_processedRoundIds (models : AcieModels σ) (skipDecision : Bool)
    (acie : ACIEEngine σ)
    : (acie.decideNext models skipDecision).processedRoundIds = acie.processedRoundIds := by
  cases skipDecision <;> rfl

@[simp] theorem learn_processedRoundIds (models : AcieModels σ) (acie : ACIEEngine σ)
    (roundId : String) (crashPoint : ℚ)
    : (acie.learn models roundId crashPoint).processedRoundIds = acie.processedRoundIds := by
  simp only [ACIEEngine.learn, ACIEEngine.scheduleHeavyEvidence]
  split
  · split <;> rfl
  · rfl

/-- A new round that is marked, and perhaps learned. -/
theorem Remembers.markProcessed (remembers : Remembers acie learned) {roundId : String}
    (new : ¬ (roundId ≠ "" ∧ roundId ∈ acie.processedRoundIds)) {more : List String}
    (own : more = [] ∨ more = [roundId])
    : Remembers (acie.markProcessed roundId) (learned ++ more) := by
  by_cases unnamed : roundId = ""
  · have same : acie.markProcessed roundId = acie := by simp [ACIEEngine.markProcessed, unnamed]
    have nameless : more.filter (fun roundId => roundId ≠ "") = [] := by
      rcases own with rfl | rfl <;> simp [unnamed]
    rw [same]
    intro few
    obtain ⟨once, known⟩ := remembers few
    refine ⟨by rwa [List.filter_append, nameless, List.append_nil], ?_⟩
    intro other member named
    rcases List.mem_append.mp member with old | added
    · exact known other old named
    · have among : other ∈ more.filter (fun roundId => roundId ≠ "") := by simp [added, named]
      rw [nameless] at among
      cases among
  · have fresh : roundId ∉ acie.processedRoundIds := fun known => new ⟨unnamed, known⟩
    intro few
    simp only [ACIEEngine.markProcessed, if_neg unnamed] at few ⊢
    split at few
    · next many =>
        simp only [List.length_append, List.length_singleton, List.length_drop] at many few
        omega
    · next kept =>
        rw [if_neg kept]
        simp only [List.length_append, List.length_singleton] at few
        obtain ⟨once, known⟩ := remembers (by omega)
        rcases own with rfl | rfl
        · refine ⟨by simpa using once, ?_⟩
          intro other member named
          rw [List.append_nil] at member
          exact List.mem_append_left _ (known other member named)
        · refine ⟨?_, ?_⟩
          · rw [List.filter_append, List.filter_singleton]
            simp only [unnamed, ne_eq, not_false_eq_true, decide_true, cond_true]
            refine List.Nodup.append once (List.nodup_singleton _) ?_
            intro other old added
            obtain rfl := List.mem_singleton.mp added
            exact fresh (known other (List.mem_filter.mp old).1 unnamed)
          · intro other member named
            rcases List.mem_append.mp member with old | added
            · exact List.mem_append_left _ (known other old named)
            · exact List.mem_append_right _ added

/-- A crash that is ingested is learned only if it is not remembered. -/
theorem Remembers.ingestCrash (remembers : Remembers acie learned) (models : AcieModels σ)
    (round : ACIERoundInput) (skipDecision : Bool)
    : Remembers (acie.ingestCrash models round skipDecision).1
        (learned ++
          if (acie.ingestCrash models round skipDecision).2 = .learned then [round.roundId]
          else []) := by
  unfold ACIEEngine.ingestCrash
  split
  · simpa using remembers.congr (decideNext_processedRoundIds models skipDecision acie)
  · next new =>
      split
      · split
        · simpa using remembers.markProcessed new (.inl rfl)
        · exact (remembers.markProcessed new (.inr rfl)).congr (by simp)
      · simpa using remembers.markProcessed new (.inl rfl)
      · simpa using remembers.markProcessed new (.inl rfl)

/-- So are the rounds of a seed, by induction on them. -/
theorem Remembers.seedRounds (remembers : Remembers acie learned) (models : AcieModels σ)
    (rounds : List ACIERoundInput)
    : Remembers (acie.seedRounds models rounds).1
        (learned ++ learnedRounds rounds (acie.seedRounds models rounds).2) := by
  induction rounds generalizing acie learned with
  | nil => simpa [ACIEEngine.seedRounds, learnedRounds] using remembers
  | cons round rest ih =>
      have ingested := remembers.ingestCrash models round true
      rw [ACIEEngine.seedRounds]
      generalize acie.ingestCrash models round true = ingest at ingested ⊢
      rcases ingest with ⟨after, outcome⟩
      by_cases invalid : outcome = .invalid
      · simpa [invalid, learnedRounds] using ingested
      · have later := ih ingested
        simp only [if_neg invalid]
        rw [List.append_assoc] at later
        cases outcome with
        | invalid => exact absurd rfl invalid
        | duplicate => simpa [learnedRounds] using later
        | learned => simpa [learnedRounds] using later

@[simp] theorem seedHistory_processedRoundIds (models : AcieModels σ) (acie : ACIEEngine σ)
    (rounds : List ACIERoundInput)
    : (acie.seedHistory models rounds).1.processedRoundIds
      = (acie.seedRounds models (lastOf 2000 rounds)).1.processedRoundIds := by
  simp only [ACIEEngine.seedHistory]
  generalize acie.seedRounds models (lastOf 2000 rounds) = seeded
  split <;> rfl

@[simp] theorem seedHistory_outcomes (models : AcieModels σ) (acie : ACIEEngine σ)
    (rounds : List ACIERoundInput)
    : (acie.seedHistory models rounds).2 = (acie.seedRounds models (lastOf 2000 rounds)).2 := by
  simp only [ACIEEngine.seedHistory]

theorem Remembers.ensureAcieSeeded (remembers : Remembers stack.acie stack.learned)
    (models : AcieModels σ) (recent : List ACIERoundInput)
    : Remembers (stack.ensureAcieSeeded models recent).acie
        (stack.ensureAcieSeeded models recent).learned := by
  have seeded := remembers.seedRounds models (lastOf 2000 recent)
  simp only [LearningStack.ensureAcieSeeded]
  split
  · exact remembers
  · split
    · exact remembers
    · simp only [seedHistory_outcomes]
      exact seeded.congr (seedHistory_processedRoundIds models stack.acie recent)

theorem Remembers.learnCrash (remembers : Remembers stack.acie stack.learned)
    (models : AcieModels σ) (crash : ObservedCrash)
    : Remembers (stack.learnCrash models crash).acie (stack.learnCrash models crash).learned := by
  have ingested := remembers.ingestCrash models ⟨crash.roundId, crash.crashPoint⟩ false
  simp only [LearningStack.learnCrash, ACIEEngine.onCrash]
  by_cases learned : (stack.acie.ingestCrash models ⟨crash.roundId, crash.crashPoint⟩ false).2
      = .learned
  · simpa only [learned, if_true] using ingested
  · simpa only [learned, if_false, List.append_nil] using ingested

theorem feedbackPredictionPipeline_same (stack : LearningStack σ) (crash : ObservedCrash)
    (predicted : UnitProbability) (actual : Bool)
    : let after := (stack.feedbackPredictionPipeline crash predicted actual).1
      after.acie = stack.acie ∧ after.learned = stack.learned
      ∧ after.incremental = stack.incremental := by
  have outcome : (stack.observeOutcome crash predicted actual).1.acie = stack.acie
      ∧ (stack.observeOutcome crash predicted actual).1.learned = stack.learned
      ∧ (stack.observeOutcome crash predicted actual).1.incremental = stack.incremental :=
    ⟨rfl, rfl, rfl⟩
  unfold feedbackPredictionPipeline
  split
  · next after threw =>
      rw [threw] at outcome
      exact outcome
  · next after passed =>
      rw [passed] at outcome
      exact outcome

/-- The feedback leaves the adaptive engine and the incremental one. -/
theorem feedback_same (stack : LearningStack σ) (crash : ObservedCrash)
    : (stack.feedback crash).1.acie = stack.acie
      ∧ (stack.feedback crash).1.learned = stack.learned
      ∧ (stack.feedback crash).1.incremental = stack.incremental := by
  simp only [feedback]
  split
  · exact ⟨rfl, rfl, rfl⟩
  · next predicted _ =>
      split
      · let actual := decide (.finite 1.3 ≤ crash.crashPoint)
        have fed := feedbackPredictionPipeline_same
          (stack.observeCalibration crash predicted actual) crash predicted actual
        split
        · next after threw =>
            rw [threw] at fed
            exact fed
        · next after passed =>
            rw [passed] at fed
            exact fed
      · exact ⟨rfl, rfl, rfl⟩

theorem Remembers.next (remembers : Remembers stack.acie stack.learned) (event : LearningEvent)
    : Remembers (stack.next models service event).acie
        (stack.next models service event).learned := by
  cases event with
  | decide roundId env ctx recent =>
      have seeded := remembers.ensureAcieSeeded models recent
      simp only [LearningStack.next, LearningStack.evaluateEntry]
      split
      · exact remembers
      · split
        · exact seeded
        · split <;> exact seeded.congr rfl
  | crash delivery recent =>
      simp only [LearningStack.next]
      split
      · exact remembers
      · next crash _ =>
          have seeded := remembers.ensureAcieSeeded models recent
          simp only [observeCrash]
          refine Remembers.learnCrash ?_ models crash
          split
          · simp only [feedback_same]
            exact seeded
          · simp only [status, feedback_same]
            exact seeded
  | heavyEvidence threw =>
      simp only [LearningStack.next]
      split
      · exact remembers.congr (stack.acie.runHeavyEvidence_same threw).2.2.1
      · exact remembers
  | refit | evaluateDivergence | manualRecover => exact remembers

/-- In any run the adaptive engine learns a named round at most once, as long as it remembers less
than 5000 rounds.
-/
theorem run_learns_at_most_once (models : AcieModels σ) (service : EntryDecisionService)
    (events : List LearningEvent)
    : let stack := run (LearningStack.next models service) {} events
      stack.acie.processedRoundIds.length < 5000 →
        ∀ roundId ≠ "", stack.learned.count roundId ≤ 1 := by
  intro stack few roundId named
  have kept (stack : LearningStack σ) (event : LearningEvent)
      (remembers : Remembers stack.acie stack.learned)
      : Remembers (stack.next models service event).acie
          (stack.next models service event).learned :=
    remembers.next event
  have initial : Remembers ({} : LearningStack σ).acie ({} : LearningStack σ).learned := by
    intro _
    simp
  obtain ⟨once, _⟩ := run_invariant kept events initial few
  have counted := List.nodup_iff_count_le_one.mp once roundId
  rwa [List.count_filter (by simpa using named)] at counted

end

end LearningStack

end CrashWave.Prediction
