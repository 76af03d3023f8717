import Mathlib.Data.Finset.Card
import CrashWave.Prediction.StateRestart

/-! The rounds that the adaptive engine remembers: for which crashes an error leaves the engine as
it was, and for how long a round that was ingested is a duplicate.
-/

namespace CrashWave.Acie

open JavaScript Persisted Prediction Runs

variable {σ : Type}

/-- What happens to an engine, apart from snapshots. -/
inductive EngineEvent where
  | ingestCrash (round : ACIERoundInput) (skipDecision : Bool)
  | seedHistory (rounds : List ACIERoundInput)
  | evaluateNext
  | heavyEvidence (threw : Bool)

/-- Everything that happens to an engine. -/
inductive EngineCall (σ : Type) where
  | event (event : EngineEvent)
  | exportSnapshot
  | importSnapshot (crashPoints : List ℚ) (online : Option (OnlineAdaptiveState ℚ σ))
      (consecutiveLosses : Option Nat)

/-- The ids that an event offers. -/
def EngineEvent.offered : EngineEvent → List String
  | .ingestCrash round _ => [round.roundId]
  | .seedHistory rounds => (lastOf 2000 rounds).map (·.roundId)
  | .evaluateNext | .heavyEvidence _ => []

/-- The ids that a call offers; an import makes them up for the crash points. -/
def EngineCall.offered : EngineCall σ → List String
  | .event happened => happened.offered
  | .exportSnapshot => []
  | .importSnapshot crashPoints _ _ =>
      (lastOf 2000 (ACIEEngine.restoredRounds crashPoints)).map (·.roundId)

/-- The ids of other rounds that are offered. -/
def otherRounds (roundId : String) (calls : List (EngineCall σ)) : Finset String :=
  (calls.flatMap EngineCall.offered).toFinset \ {roundId, ""}

namespace ACIEEngine

/-- An engine after an event; the callback runs if one is set. -/
def after (models : AcieModels σ) (engine : ACIEEngine σ) : EngineEvent → ACIEEngine σ
  | .ingestCrash round skipDecision => (engine.ingestCrash models round skipDecision).1
  | .seedHistory rounds => (engine.seedHistory models rounds).1
  | .evaluateNext => engine.evaluateNext models
  | .heavyEvidence threw => settledEngine engine threw

/-- An engine after a call. -/
def afterCall (models : AcieModels σ) (engine : ACIEEngine σ) : EngineCall σ → ACIEEngine σ
  | .event happened => engine.after models happened
  | .exportSnapshot => engine
  | .importSnapshot crashPoints online consecutiveLosses =>
      engine.importSnapshot models crashPoints online consecutiveLosses

variable {models : AcieModels σ} {engine : ACIEEngine σ} {round : ACIERoundInput}

-----------------------------------------------------------------------------------------
-- Ingesting a round
-----------------------------------------------------------------------------------------

/-- The crash point is one that the engine learns: finite and positive. -/
def ValidCrash (round : ACIERoundInput) : Prop :=
  ∃ crashPoint : ℚ, round.crashPoint = .finite crashPoint ∧ 0 < crashPoint

/-- The engine takes the round for one that it has ingested. -/
def Knows (engine : ACIEEngine σ) (roundId : String) : Prop :=
  roundId ≠ "" ∧ roundId ∈ engine.processedRoundIds

theorem ingestCrash_known (models : AcieModels σ) (known : engine.Knows round.roundId)
    (skipDecision : Bool)
    : engine.ingestCrash models round skipDecision
      = (engine.decideNext models skipDecision, .duplicate) :=
  if_pos known

theorem ingestCrash_valid (models : AcieModels σ) (unknown : ¬ engine.Knows round.roundId)
    {crashPoint : ℚ} (point : round.crashPoint = .finite crashPoint) (positive : 0 < crashPoint)
    (skipDecision : Bool)
    : engine.ingestCrash models round skipDecision
      = (((engine.markProcessed round.roundId).learn models round.roundId crashPoint).decideNext
          models skipDecision, .learned) := by
  refine (if_neg unknown).trans ?_
  rw [point]
  exact if_neg (not_le.mpr positive)

theorem ingestCrash_invalid (models : AcieModels σ) (unknown : ¬ engine.Knows round.roundId)
    (invalid : ¬ ValidCrash round) (skipDecision : Bool)
    : engine.ingestCrash models round skipDecision
      = (engine.markProcessed round.roundId, .invalid) := by
  refine (if_neg unknown).trans ?_
  cases point : round.crashPoint with
  | finite crashPoint =>
      exact if_pos (not_lt.mp fun positive => invalid ⟨crashPoint, point, positive⟩)
  | infinity negative => rfl
  | nan => rfl

/-- A round that is not known is marked, whether it is learned or throws. -/
theorem processedRoundIds_ingestCrash (models : AcieModels σ)
    (unknown : ¬ engine.Knows round.roundId) (skipDecision : Bool)
    : (engine.ingestCrash models round skipDecision).1.processedRoundIds
      = (engine.markProcessed round.roundId).processedRoundIds := by
  have decided (other : ACIEEngine σ)
      : (other.decideNext models skipDecision).processedRoundIds = other.processedRoundIds := by
    cases skipDecision <;> rfl
  by_cases valid : ValidCrash round
  · obtain ⟨crashPoint, point, positive⟩ := valid
    rw [ingestCrash_valid models unknown point positive, decided]
    exact (Seeded.learn_fields models _ round.roundId crashPoint).2.2.2.1
  · rw [ingestCrash_invalid models unknown valid]

/-- A round is remembered at the end, by the loss of the first id if there are 5000 before it. -/
theorem processedRoundIds_markProcessed (engine : ACIEEngine σ) {roundId : String}
    (named : roundId ≠ "")
    : (engine.markProcessed roundId).processedRoundIds
      = (if 5000 ≤ engine.processedRoundIds.length then engine.processedRoundIds.drop 1
          else engine.processedRoundIds) ++ [roundId] := by
  have shifted : ∀ ids : List String, 5000 ≤ ids.length →
      (ids ++ [roundId]).drop 1 = ids.drop 1 ++ [roundId] := by
    intro ids many
    exact List.drop_append_of_le_length (by omega)
  simp only [markProcessed, if_neg named, List.length_append, List.length_singleton]
  by_cases many : 5000 ≤ engine.processedRoundIds.length
  · rw [if_pos many, if_pos (by omega), shifted _ many]
  · rw [if_neg many, if_neg (by omega)]

-----------------------------------------------------------------------------------------
-- Errors
-----------------------------------------------------------------------------------------

/-- If the crash point is refused, the engine is as before, and learns the next valid crash point
of the same round.
-/
structure AtomicOnError (models : AcieModels σ) (engine : ACIEEngine σ) (round : ACIERoundInput)
    (skipDecision : Bool) : Prop where
  unchanged : (engine.ingestCrash models round skipDecision).2 = .invalid →
    (engine.ingestCrash models round skipDecision).1 = engine
  retried : (engine.ingestCrash models round skipDecision).2 = .invalid →
    ∀ later : ACIERoundInput, later.roundId = round.roundId → ValidCrash later →
      ∀ skipLater, ((engine.ingestCrash models round skipDecision).1.ingestCrash models later
        skipLater).2 = .learned

/-- An error leaves the engine as it was exactly if there is none, or the round has no id, or it is
known: the round is marked before its crash point is checked.
-/
theorem atomicOnError_iff (models : AcieModels σ) (engine : ACIEEngine σ)
    (round : ACIERoundInput) (skipDecision : Bool)
    : AtomicOnError models engine round skipDecision
      ↔ ValidCrash round ∨ round.roundId = "" ∨ round.roundId ∈ engine.processedRoundIds := by
  by_cases known : engine.Knows round.roundId
  · have ingested := ingestCrash_known models known skipDecision
    refine iff_of_true ⟨?_, ?_⟩ (.inr (.inr known.2)) <;> rw [ingested] <;> intro refused <;>
      cases refused
  by_cases valid : ValidCrash round
  · obtain ⟨crashPoint, point, positive⟩ := valid
    have ingested := ingestCrash_valid models known point positive skipDecision
    refine iff_of_true ⟨?_, ?_⟩ (.inl ⟨crashPoint, point, positive⟩) <;> rw [ingested] <;>
      intro refused <;> cases refused
  have ingested := ingestCrash_invalid models known valid skipDecision
  by_cases unnamed : round.roundId = ""
  · have unmarked : engine.markProcessed round.roundId = engine := by
      rw [markProcessed, if_pos unnamed]
    rw [unmarked] at ingested
    refine iff_of_true ⟨?_, ?_⟩ (.inr (.inl unnamed))
    · intro _
      rw [ingested]
    · intro _ later same valid skipLater
      obtain ⟨crashPoint, point, positive⟩ := valid
      have unknown : ¬ engine.Knows later.roundId := fun known => known.1 (same.trans unnamed)
      rw [ingested, ingestCrash_valid models unknown point positive]
  · have new : round.roundId ∉ engine.processedRoundIds := fun member => known ⟨unnamed, member⟩
    refine iff_of_false (fun atomic => ?_) (by tauto)
    -- The round is among the marked ones, and was not.
    have same : engine.markProcessed round.roundId = engine := by
      have kept := atomic.unchanged (by rw [ingested])
      rwa [ingested] at kept
    have marked : round.roundId ∈ (engine.markProcessed round.roundId).processedRoundIds := by
      rw [processedRoundIds_markProcessed engine unnamed]
      exact List.mem_append_right _ (List.mem_singleton_self _)
    rw [same] at marked
    exact new marked

/-- A fresh engine keeps a round of which the crash point is refused, and ignores it when it comes
again.
-/
theorem refused_round_lost
    : let refused := (freshEngine 5000 50 0.05).ingestCrash LearningStack.steadyModels
        ⟨"r1", .finite 0⟩ false
      refused.2 = .invalid ∧ refused.1.processedRoundIds = ["r1"]
      ∧ (refused.1.ingestCrash LearningStack.steadyModels ⟨"r1", .finite 2⟩ false).2
        = .duplicate
      ∧ ¬ AtomicOnError LearningStack.steadyModels (freshEngine 5000 50 0.05)
          ⟨"r1", .finite 0⟩ false := by
  intro refused
  have invalid : refused.2 = .invalid := by decide +kernel
  have again : (refused.1.ingestCrash LearningStack.steadyModels ⟨"r1", .finite 2⟩ false).2
      = .duplicate := by
    decide +kernel
  refine ⟨invalid, by decide +kernel, again, fun atomic => ?_⟩
  have learned := atomic.retried invalid ⟨"r1", .finite 2⟩ rfl ⟨2, rfl, by norm_num⟩ false
  cases learned.symm.trans again

-----------------------------------------------------------------------------------------
-- Duplicates
-----------------------------------------------------------------------------------------

/-- The engine remembers a round, and no rounds after it but some of the others, each once. -/
def Recalls (roundId : String) (others : Finset String) (engine : ACIEEngine σ) : Prop :=
  ∃ older newer, engine.processedRoundIds = older ++ roundId :: newer
    ∧ newer.Nodup ∧ ∀ other ∈ newer, other ∈ others

section

variable {roundId : String} {others : Finset String}

theorem Recalls.congr {other : ACIEEngine σ} (recalls : Recalls roundId others engine)
    (same : other.processedRoundIds = engine.processedRoundIds)
    : Recalls roundId others other := by
  obtain ⟨older, newer, shape, rest⟩ := recalls
  exact ⟨older, newer, same.trans shape, rest⟩

theorem Recalls.knows (recalls : Recalls roundId others engine) (named : roundId ≠ "")
    : engine.Knows roundId := by
  obtain ⟨older, newer, shape, -⟩ := recalls
  exact ⟨named, by simp [shape]⟩

/-- A round that is ingested and was not known is the newest one. -/
theorem recalls_ingested (named : round.roundId ≠ "") (skipDecision : Bool)
    (first : (engine.ingestCrash models round skipDecision).2 ≠ .duplicate)
    (others : Finset String)
    : Recalls round.roundId others (engine.ingestCrash models round skipDecision).1 := by
  have unknown : ¬ engine.Knows round.roundId := fun known =>
    first (by rw [ingestCrash_known models known])
  have marked := (processedRoundIds_ingestCrash models unknown skipDecision).trans
    (processedRoundIds_markProcessed engine named)
  exact ⟨_, [], marked, List.nodup_nil, fun other member => absurd member List.not_mem_nil⟩

/-- With few other rounds, the engine still remembers the round after it has marked one of them:
there are not 5000 after it.
-/
theorem Recalls.markProcessed (recalls : Recalls roundId others engine)
    (few : others.card < 5000) (unknown : ¬ engine.Knows round.roundId)
    (among : round.roundId ≠ "" → round.roundId ∈ others)
    : Recalls roundId others (engine.markProcessed round.roundId) := by
  by_cases unnamed : round.roundId = ""
  · rwa [ACIEEngine.markProcessed, if_pos unnamed]
  obtain ⟨older, newer, shape, once, known⟩ := recalls
  have new : round.roundId ∉ newer := fun member =>
    unknown ⟨unnamed, by simp [shape, member]⟩
  have longer : (newer ++ [round.roundId]).Nodup := by
    rw [List.nodup_append]
    refine ⟨once, List.nodup_singleton _, fun other member last single => ?_⟩
    rw [List.mem_singleton.mp single]
    exact fun same => new (same ▸ member)
  have inside : ∀ other ∈ newer ++ [round.roundId], other ∈ others := by
    intro other member
    rcases List.mem_append.mp member with old | last
    · exact known other old
    · rw [List.mem_singleton.mp last]
      exact among unnamed
  have short : newer.length + 1 ≤ others.card := by
    calc newer.length + 1
        = (newer ++ [round.roundId]).length := by simp
      _ = (newer ++ [round.roundId]).toFinset.card := (List.toFinset_card_of_nodup longer).symm
      _ ≤ others.card := Finset.card_le_card fun other member =>
          inside other (List.mem_toFinset.mp member)
  have marked := processedRoundIds_markProcessed engine unnamed
  rw [shape] at marked
  by_cases many : 5000 ≤ (older ++ roundId :: newer).length
  · cases older with
    | nil =>
        simp only [List.nil_append, List.length_cons] at many
        omega
    | cons oldest rest =>
        refine ⟨rest, newer ++ [round.roundId], ?_, longer, inside⟩
        rw [marked, if_pos many]
        simp
  · refine ⟨older, newer ++ [round.roundId], ?_, longer, inside⟩
    rw [marked, if_neg many]
    simp

theorem Recalls.ingestCrash (recalls : Recalls roundId others engine) (few : others.card < 5000)
    (models : AcieModels σ) (skipDecision : Bool)
    (among : round.roundId ∉ ({roundId, ""} : Finset String) → round.roundId ∈ others)
    : Recalls roundId others (engine.ingestCrash models round skipDecision).1 := by
  by_cases known : engine.Knows round.roundId
  · rw [ingestCrash_known models known]
    cases skipDecision
    · exact recalls.congr rfl
    · exact recalls
  · refine Recalls.congr ?_ (processedRoundIds_ingestCrash models known skipDecision)
    refine recalls.markProcessed few known fun named => among ?_
    -- A round that is not known is not the one that is remembered.
    have different : round.roundId ≠ roundId := fun same =>
      known (same ▸ recalls.knows (same ▸ named))
    simp [different, named]

theorem Recalls.seedHistory (recalls : Recalls roundId others engine) (few : others.card < 5000)
    (models : AcieModels σ) (rounds : List ACIERoundInput)
    (among : ∀ round ∈ lastOf 2000 rounds, round.roundId ∉ ({roundId, ""} : Finset String) →
      round.roundId ∈ others)
    : Recalls roundId others (engine.seedHistory models rounds).1 := by
  refine seedHistory_invariant ?_ ?_ recalls
  · exact fun round member _ held => held.ingestCrash few models true (among round member)
  · exact fun _ held => held.congr rfl

theorem Recalls.afterCall (recalls : Recalls roundId others engine) (few : others.card < 5000)
    (models : AcieModels σ) (call : EngineCall σ)
    (among : ∀ offered ∈ call.offered, offered ∉ ({roundId, ""} : Finset String) →
      offered ∈ others)
    : Recalls roundId others (engine.afterCall models call) := by
  cases call with
  | event happened =>
      cases happened with
      | ingestCrash round skipDecision =>
          have inside : round.roundId
              ∈ (EngineCall.event (.ingestCrash round skipDecision) : EngineCall σ).offered :=
            List.mem_singleton_self _
          exact recalls.ingestCrash few models skipDecision (among _ inside)
      | seedHistory rounds =>
          exact recalls.seedHistory few models rounds fun round member =>
            among _ (List.mem_map_of_mem member)
      | evaluateNext => exact recalls.congr rfl
      | heavyEvidence threw =>
          simp only [ACIEEngine.afterCall, after, settledEngine]
          split
          · exact recalls.congr (engine.runHeavyEvidence_same threw).2.2.1
          · exact recalls
  | exportSnapshot => exact recalls
  | importSnapshot crashPoints online consecutiveLosses =>
      simp only [ACIEEngine.afterCall, importSnapshot]
      by_cases none : crashPoints = []
      · rw [if_pos none, if_neg List.not_mem_nil]
        exact recalls.congr rfl
      · have seeded := recalls.seedHistory few models (restoredRounds crashPoints)
          fun round member => among _ (List.mem_map_of_mem member)
        rw [if_neg none]
        generalize engine.seedHistory models (restoredRounds crashPoints) = result at seeded ⊢
        split
        · exact seeded
        · exact seeded.congr rfl

end

/-- A round with an id that was ingested, and not as a duplicate, is a duplicate as long as fewer
than 5000 other ids were offered since: it is not learned, and only the next round is evaluated
again.
-/
theorem ingested_duplicate (models : AcieModels σ) (engine : ACIEEngine σ)
    (round : ACIERoundInput) (skipDecision : Bool) (named : round.roundId ≠ "")
    (first : (engine.ingestCrash models round skipDecision).2 ≠ .duplicate)
    (calls : List (EngineCall σ)) (few : (otherRounds round.roundId calls).card < 5000)
    (again : ACIERoundInput) (same : again.roundId = round.roundId) (skipAgain : Bool)
    : let engine := run (afterCall models) (engine.ingestCrash models round skipDecision).1 calls
      engine.ingestCrash models again skipAgain
        = (engine.decideNext models skipAgain, .duplicate) := by
  have offered : Always (afterCall models)
      (fun _ call => ∀ offered ∈ call.offered, offered ∉ ({round.roundId, ""} : Finset String) →
        offered ∈ otherRounds round.roundId calls)
      (engine.ingestCrash models round skipDecision).1 calls := by
    refine .of_forall_mem fun call member _ id among other => ?_
    refine Finset.mem_sdiff.mpr ⟨List.mem_toFinset.mpr ?_, other⟩
    exact List.mem_flatMap.mpr ⟨call, member, among⟩
  have recalls : Recalls round.roundId (otherRounds round.roundId calls)
      (run (afterCall models) (engine.ingestCrash models round skipDecision).1 calls) :=
    offered.invariant (fun _ call recalls among => recalls.afterCall few models call among)
      (recalls_ingested named skipDecision first _)
  exact ingestCrash_known models (same ▸ recalls.knows named) skipAgain

/-- A round that comes again after another one and a snapshot. -/
theorem ingested_duplicate_again
    : let engine := run (afterCall LearningStack.steadyModels)
        ((freshEngine 5000 50 0.05).ingestCrash LearningStack.steadyModels ⟨"r1", .finite 2⟩
          false).1
        [.event (.ingestCrash ⟨"r2", .finite 1.2⟩ false), .exportSnapshot]
      engine.ingestCrash LearningStack.steadyModels ⟨"r1", .finite 3⟩ false
        = (engine.decideNext LearningStack.steadyModels false, .duplicate) :=
  ingested_duplicate LearningStack.steadyModels (freshEngine 5000 50 0.05) ⟨"r1", .finite 2⟩ false
    (by decide) (by decide +kernel)
    [.event (.ingestCrash ⟨"r2", .finite 1.2⟩ false), .exportSnapshot] (by decide +kernel)
    ⟨"r1", .finite 3⟩ rfl false

/-- One more value, and the last of them. -/
theorem lastOf_concat {α : Type} (count : Nat) (values : List α) (value : α)
    : lastOf (count + 1) (values ++ [value])
      = (if count + 1 ≤ (lastOf (count + 1) values).length
          then (lastOf (count + 1) values).drop 1 else lastOf (count + 1) values) ++ [value] := by
  simp only [lastOf, List.length_append, List.length_singleton, List.length_drop, List.drop_drop]
  by_cases many : count + 1 ≤ values.length
  · rw [if_pos (by omega), List.drop_append_of_le_length (by omega)]
    congr 2
    omega
  · rw [if_neg (by omega), List.drop_append_of_le_length (by omega)]
    congr 2
    omega

/-- The first of more values than asked for is not among them. -/
theorem lastOf_cons {α : Type} {count : Nat} {first : α} {rest : List α}
    (many : count ≤ rest.length)
    : lastOf count (first :: rest) = lastOf count rest := by
  rw [lastOf, List.length_cons, Nat.succ_sub many, List.drop_succ_cons, lastOf]

/-- A crash of each of the rounds. -/
def crashes (roundIds : List String) : List (EngineCall σ) :=
  roundIds.map fun roundId => .event (.ingestCrash ⟨roundId, .finite 2⟩ true)

/-- Of different rounds, the engine remembers the last 5000: by induction on them. -/
theorem processedRoundIds_crashes (models : AcieModels σ)
    (initial : engine.processedRoundIds = []) (roundIds : List String)
    (different : roundIds.Nodup) (named : "" ∉ roundIds)
    : (run (afterCall models) engine (crashes roundIds)).processedRoundIds
      = lastOf 5000 roundIds := by
  induction roundIds using List.reverseRecOn with
  | nil => exact initial
  | append_singleton before roundId ih =>
      rw [List.nodup_append] at different
      obtain ⟨earlier, -, apart⟩ := different
      rw [List.mem_append, not_or] at named
      have held := ih earlier named.1
      have some : roundId ≠ "" := fun same => named.2 (by simp [same])
      have one : run (afterCall models) engine (crashes (before ++ [roundId]))
          = ((run (afterCall models) engine (crashes before)).ingestCrash models
              ⟨roundId, .finite 2⟩ true).1 := by
        simp only [crashes, List.map_append, List.map_cons, List.map_nil, run, List.foldl_append,
          List.foldl_cons, List.foldl_nil]
        rfl
      have unknown : ¬ (run (afterCall models) engine (crashes before)).Knows roundId := by
        intro known
        have among := known.2
        rw [held] at among
        exact apart roundId (List.mem_of_mem_drop among) roundId (List.mem_singleton_self _) rfl
      rw [one, processedRoundIds_ingestCrash models unknown,
        processedRoundIds_markProcessed _ some, held]
      exact (lastOf_concat 4999 before roundId).symm

theorem nodup_restoreIds (count : Nat)
    : ((List.range count).map fun index => s!"restore-{index}").Nodup :=
  List.nodup_range.map fun _ _ same => restoreId_injective same

theorem empty_not_mem_restoreIds (count : Nat)
    : "" ∉ (List.range count).map fun index => s!"restore-{index}" := by
  intro member
  obtain ⟨index, -, same⟩ := List.mem_map.mp member
  have lengths := congrArg String.length same
  simp at lengths

/-- After 5000 other rounds or more, the engine does not know the first one. -/
theorem not_knows_crashes (models : AcieModels σ) (initial : engine.processedRoundIds = [])
    {others : Nat} (many : 5000 ≤ others)
    : ¬ (run (afterCall models) engine
        (crashes ((List.range (others + 1)).map fun index => s!"restore-{index}"))).Knows
          "restore-0" := by
  intro known
  have among := known.2
  rw [processedRoundIds_crashes models initial _ (nodup_restoreIds (others + 1))
    (empty_not_mem_restoreIds (others + 1))] at among
  have later : "restore-0" ∈ ((List.range others).map Nat.succ).map
      fun index => s!"restore-{index}" := by
    rw [List.range_succ_eq_map, List.map_cons, lastOf_cons (by simpa using many)] at among
    exact List.mem_of_mem_drop among
  obtain ⟨index, member, same⟩ := List.mem_map.mp later
  have zero : index = 0 := restoreId_injective same
  simp [zero] at member

/-- A round is learned twice if it has no id, or the engine is restored from a snapshot in between,
or 5000 other ones come in between; and a duplicate evaluates the next round where a seed that threw
has not.
-/
theorem round_learned_twice
    : let models := LearningStack.steadyModels
      let fresh : ACIEEngine Unit := freshEngine 5000 50 0.05
      let named := (fresh.ingestCrash models ⟨"r1", .finite 2⟩ false).1
      let snapshot := named.exportSnapshot
      let restored := fresh.importSnapshot models snapshot.crashPoints (some snapshot.online)
        (some snapshot.consecutiveLosses)
      let full := run (afterCall models) fresh
        (crashes ((List.range 5001).map fun index => s!"restore-{index}"))
      let thrown := (fresh.seedHistory models [⟨"r1", .finite 2⟩, ⟨"r2", .nan⟩]).1
      ((fresh.ingestCrash models ⟨"", .finite 2⟩ false).1.ingestCrash models ⟨"", .finite 2⟩
          false).2 = .learned
      ∧ (restored.ingestCrash models ⟨"r1", .finite 2⟩ false).2 = .learned
      ∧ (full.ingestCrash models ⟨"restore-0", .finite 2⟩ false).2 = .learned
      ∧ thrown.pendingContext.isNone
      ∧ (thrown.ingestCrash models ⟨"r1", .finite 2⟩ false).1.pendingContext.isSome := by
  intro models fresh named snapshot restored full thrown
  have forgotten : ¬ full.Knows "restore-0" := not_knows_crashes models rfl (Nat.le_refl 5000)
  have learned : full.ingestCrash models ⟨"restore-0", .finite 2⟩ false = (_, .learned) :=
    ingestCrash_valid models forgotten rfl (by norm_num) false
  refine ⟨by decide +kernel, by decide +kernel, ?_, by decide +kernel, by decide +kernel⟩
  rw [learned]

end ACIEEngine

end CrashWave.Acie
