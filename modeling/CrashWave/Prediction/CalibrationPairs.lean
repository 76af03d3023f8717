import CrashWave.Prediction.CrashLearning
import CrashWave.Prediction.EntryVerdicts

/-! Whether the pairs that calibration and divergence monitoring are fed match: the probability of
a signal with the outcome of what it predicted, for its own round.
-/

namespace CrashWave.Prediction

open Acie Incremental JavaScript Runs

-----------------------------------------------------------------------------------------
-- The signals that decisions keep
-----------------------------------------------------------------------------------------

theorem unitProbability_isSome_iff (value : Number)
    : (unitProbability value).isSome = true ↔ inUnitInterval value = true := by
  cases value with
  | finite value =>
      have below : Number.finite value < 0 ↔ value < 0 := by
        change decide (value < ((0 : ℕ) : ℚ)) = true ↔ value < 0
        simp
      have above : 1 < Number.finite value ↔ 1 < value := by
        change decide (((1 : ℕ) : ℚ) < value) = true ↔ 1 < value
        simp
      by_cases bounds : 0 ≤ value ∧ value ≤ 1
      · simp [unitProbability, inUnitInterval, Number.isFinite, below, above, bounds]
      · simp only [unitProbability, dif_neg bounds, inUnitInterval, Number.isFinite, below, above]
        simpa using bounds
  | infinity negative => simp [unitProbability, inUnitInterval, Number.isFinite]
  | nan => simp [unitProbability, inUnitInterval, Number.isFinite]

/-- Every signal that is kept leaves its probability. -/
theorem emission_of_kept {service : EntryDecisionService} {env : DecisionEnvironment}
    {ctx : EntryDecisionContext} {signal : PredictionSignal}
    (kept : keptSignal service env ctx = some signal) (roundId : String)
    : ∃ probability,
        unitProbability signal.probability = some probability
        ∧ emission service env ctx roundId
          = some { roundId, probability, target := signal.target } := by
  have checked : keepsSignal ctx signal = true := by
    unfold keptSignal at kept
    split at kept
    · cases kept
    · exact (Option.filter_eq_some_iff.mp kept).2
  have valid : inUnitInterval signal.probability = true := by
    simp only [keepsSignal, decide_eq_true_eq] at checked
    exact checked.1
  obtain ⟨probability, found⟩ :=
    Option.isSome_iff_exists.mp ((unitProbability_isSome_iff signal.probability).mpr valid)
  exact ⟨probability, found, by simp [emission, kept, found]⟩

/-- A decision returns no signal but the one that it keeps, with its label. -/
theorem keptSignal_of_returned {service : EntryDecisionService} {env : DecisionEnvironment}
    {ctx : EntryDecisionContext} {result : EntryDecisionResult} {signal : PredictionSignal}
    (returned : evaluateEntry service env ctx = some result) (found : result.signal = some signal)
    : ∃ kept,
        keptSignal service env ctx = some kept
        ∧ signal = { kept with modelVersion := "acie-v3" } := by
  have decided : ∃ labelled,
      ¬ (ctx.isLive ∧ !env.readyForLive) ∧ ¬ (!env.historyWarmed) = true
      ∧ decidedSignal service env ctx = some (some labelled) ∧ signal = labelled := by
    unfold evaluateEntry at returned
    split at returned
    · obtain rfl := Option.some_inj.mp returned
      cases found
    · next ready =>
        split at returned
        · obtain rfl := Option.some_inj.mp returned
          cases found
        · next warm =>
            obtain ⟨decided, same, rfl⟩ := Option.map_eq_some_iff.mp returned
            simp only [judge, returnedSignal] at found
            split at found
            · cases found
            · exact ⟨signal, ready, warm, by rw [same, found], rfl⟩
  obtain ⟨labelled, ready, warm, decided, rfl⟩ := decided
  unfold decidedSignal at decided
  split at decided
  · cases decided
  · next enough =>
      split at decided
      · cases decided
      · cases decided
      · next candidate proposed =>
          split at decided
          · next keeps =>
              obtain ⟨after, labels, same⟩ := Option.map_eq_some_iff.mp decided
              obtain rfl := Option.some_inj.mp same
              refine ⟨candidate, ?_, ?_⟩
              · rw [keptSignal, if_neg (by tauto), proposed]
                simp [Option.filter, keeps]
              · unfold labelSignal at labels
                split at labels
                · cases labels
                · exact (Option.some_inj.mp labels).symm
          · cases decided

/-- The signal predicted its outcome: that the crash of its round reaches its target. -/
def Emission.Predicts (kept : Emission) (pair : FedPair) : Prop :=
  kept.roundId = pair.crash.roundId ∧ kept.probability = pair.predicted
  ∧ pair.actual = decide (kept.target ≤ pair.crash.crashPoint)

instance (kept : Emission) (pair : FedPair) : Decidable (kept.Predicts pair) :=
  inferInstanceAs (Decidable (_ ∧ _))

namespace LearningStack

variable {σ : Type} {models : AcieModels σ} {service : EntryDecisionService}
  {stack : LearningStack σ}

/-- Every pair is that of a signal and its outcome. -/
def PairsMatch (stack : LearningStack σ) : Prop :=
  ∀ pair ∈ stack.fed, ∃ kept ∈ stack.emissions, kept.Predicts pair

instance (stack : LearningStack σ) : Decidable (PairsMatch stack) :=
  inferInstanceAs (Decidable (∀ pair ∈ stack.fed, _))

/-- The target of a signal is on the same side of a crash point as 1.3. -/
def SameSide (target crashPoint : Number) : Prop :=
  target ≤ crashPoint ↔ .finite 1.3 ≤ crashPoint

instance (target crashPoint : Number) : Decidable (SameSide target crashPoint) :=
  inferInstanceAs (Decidable (_ ↔ _))

/-- A crash that is observed while a positive probability is remembered is one for whose round a
signal of this probability was kept, with a target on the same side of the crash point as 1.3.
-/
def CrashMatches (stack : LearningStack σ) (event : LearningEvent) : Prop :=
  ∀ crash ∈ event.observed, ∀ predicted ∈ stack.lastEmittedProbability, 0 < predicted.value →
    ∃ kept ∈ stack.emissions,
      kept.roundId = crash.roundId ∧ kept.probability = predicted
      ∧ SameSide kept.target crash.crashPoint

instance (stack : LearningStack σ) (event : LearningEvent)
    : Decidable (CrashMatches stack event) :=
  inferInstanceAs (Decidable (∀ crash ∈ event.observed, _))

/-- The pairs that a crash feeds. -/
theorem mem_fedPairs_iff {last : Option UnitProbability} {crash : ObservedCrash} {pair : FedPair}
    : pair ∈ fedPairs last crash
      ↔ last = some pair.predicted ∧ 0 < pair.predicted.value ∧ pair.crash = crash
        ∧ pair.actual = decide (.finite 1.3 ≤ crash.crashPoint) := by
  obtain ⟨sink, own, predicted, actual⟩ := pair
  unfold fedPairs
  split
  · simp
  · next kept =>
      split
      · next positive =>
          constructor
          · intro member
            cases sink <;> simp_all
          · intro fed
            obtain ⟨same, _, here, outcome⟩ := fed
            cases sink <;> simp_all
      · next unlikely =>
          refine iff_of_false List.not_mem_nil ?_
          intro fed
          obtain ⟨same, positive, _⟩ := fed
          obtain rfl := Option.some_inj.mp same
          exact unlikely positive

/-- A crash feeds matching pairs exactly when it finds the probability of a signal of its own round
whose target the crash point does not tell from 1.3.
-/
theorem pairsMatch_next_iff (sound : Sound stack) (matching : PairsMatch stack)
    (event : LearningEvent)
    : PairsMatch (stack.next models service event) ↔ CrashMatches stack event := by
  have effect : Effect service stack (stack.next models service event) event :=
    next_effect sound event
  cases found : event.observed with
  | none =>
      refine iff_of_true ?_ (by simp [CrashMatches, found])
      intro pair member
      rw [effect.fed, found] at member
      obtain ⟨kept, among, predicts⟩ := matching pair (by simpa using member)
      exact ⟨kept, by rw [effect.emissions]; exact List.mem_append_left _ among, predicts⟩
  | some crash =>
      -- a crash keeps no signal
      have silent : event.emission service = none := by
        cases event with
        | crash delivery recent => rfl
        | _ => cases found
      have emissions : (stack.next models service event).emissions = stack.emissions := by
        rw [effect.emissions, silent]
        simp
      have fed : (stack.next models service event).fed
          = stack.fed ++ fedPairs stack.lastEmittedProbability crash := by
        rw [effect.fed, found]
        rfl
      simp only [PairsMatch, CrashMatches, fed, emissions, found, List.mem_append]
      constructor
      · intro all other same predicted last positive
        obtain rfl := Option.some_inj.mp same
        let actual := decide (.finite 1.3 ≤ crash.crashPoint)
        obtain ⟨kept, among, round, probability, outcome⟩ :=
          all ⟨.calibration, crash, predicted, actual⟩
            (.inr (mem_fedPairs_iff.mpr ⟨last, positive, rfl, rfl⟩))
        refine ⟨kept, among, round, probability, ?_⟩
        exact (decide_eq_decide.mp outcome).symm
      · intro met pair member
        rcases member with old | new
        · exact matching pair old
        · obtain ⟨last, positive, here, outcome⟩ := mem_fedPairs_iff.mp new
          obtain ⟨kept, among, round, probability, side⟩ :=
            met crash rfl pair.predicted last positive
          refine ⟨kept, among, by rw [here]; exact round, probability, ?_⟩
          rw [outcome, here]
          exact decide_eq_decide.mpr side.symm

/-- The probability that is remembered is that of the signal kept last, by run induction. -/
theorem run_last (models : AcieModels σ) (service : EntryDecisionService)
    (events : List LearningEvent)
    : let stack := run (LearningStack.next models service) {} events
      stack.lastEmittedProbability = stack.emissions.getLast?.map (·.probability) := by
  have kept (stack : LearningStack σ) (event : LearningEvent)
      (inv : Sound stack
        ∧ stack.lastEmittedProbability = stack.emissions.getLast?.map (·.probability))
      : Sound (stack.next models service event)
        ∧ (stack.next models service event).lastEmittedProbability
          = (stack.next models service event).emissions.getLast?.map (·.probability) := by
    have effect : Effect service stack (stack.next models service event) event :=
      next_effect inv.1 event
    refine ⟨effect.sound, ?_⟩
    rw [effect.last, effect.emissions]
    cases event.emission service with
    | none => simpa using inv.2
    | some emission => simp
  exact (run_invariant kept events ⟨fedEvenly_initial.sound, rfl⟩).2

/-- The pairs that are fed match in exactly the runs in which every crash finds the probability of
a signal of its own round, whose target the crash point does not tell from 1.3, or none.
-/
theorem always_pairsMatch_iff (models : AcieModels σ) (service : EntryDecisionService)
    (events : List LearningEvent)
    : Always (LearningStack.next models service)
        (fun stack event => PairsMatch (stack.next models service event)) {} events
      ↔ Always (LearningStack.next models service) CrashMatches {} events := by
  have same (stack : LearningStack σ) (event : LearningEvent)
      (inv : Sound stack ∧ PairsMatch stack)
      : PairsMatch (stack.next models service event) ↔ CrashMatches stack event :=
    pairsMatch_next_iff inv.1 inv.2 event
  have kept (stack : LearningStack σ) (event : LearningEvent)
      (inv : Sound stack ∧ PairsMatch stack) (met : CrashMatches stack event)
      : Sound (stack.next models service event)
        ∧ PairsMatch (stack.next models service event) :=
    ⟨(next_effect inv.1 event).sound, (same stack event inv).mpr met⟩
  have initial : PairsMatch ({} : LearningStack σ) := by
    intro pair member
    cases member
  exact always_iff_of_invariant same kept events ⟨fedEvenly_initial.sound, initial⟩

/-- A warm system whose pipeline selects the target 2. -/
def higherTarget : DecisionEnvironment :=
  { warmEnvironment (7 / 10) with
    pipeline := { (warmEnvironment (7 / 10)).pipeline with target := 2 } }

/-- The crash of a round without a decision, after one of another round, and a crash between 1.3
and the target of its own signal.
-/
theorem pairs_mismatch
    : ¬ Always (LearningStack.next steadyModels {})
          (fun stack event => PairsMatch (stack.next steadyModels {} event)) {}
          [.decide "r1" (warmEnvironment (7 / 10)) (openContext .dryRun) [],
            .crash (.direct ⟨"r2", 2⟩) []]
      ∧ ¬ Always (LearningStack.next steadyModels {})
          (fun stack event => PairsMatch (stack.next steadyModels {} event)) {}
          [.decide "r1" higherTarget (openContext .dryRun) [],
            .crash (.direct ⟨"r1", .finite 1.5⟩) []] := by
  decide +kernel

end LearningStack

end CrashWave.Prediction
