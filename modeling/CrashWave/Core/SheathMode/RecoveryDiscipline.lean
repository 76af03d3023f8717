import Mathlib.Data.List.Nodup
import CrashWave.Core.SheathMode.SheathMode
import CrashWave.Runs.Basic

/-! What ends the protection of the sheath mode and what brings it back during a recovery. -/

namespace CrashWave.Sheath

open Runs

variable {opts : SheathModeOptions} {mode : SheathMode}

-----------------------------------------------------------------------------------------
-- The last word on each trigger
-----------------------------------------------------------------------------------------

/-- The last trigger of each id. -/
def latest : List SheathTrigger → List SheathTrigger
  | [] => []
  | trigger :: rest =>
      if rest.any fun other => other.id = trigger.id then latest rest
      else trigger :: latest rest

theorem mem_latest_cons {trigger first : SheathTrigger} {rest : List SheathTrigger}
    : trigger ∈ latest (first :: rest)
      ↔ (trigger = first ∧ first.id ∉ rest.map SheathTrigger.id) ∨ trigger ∈ latest rest := by
  have occurs : (rest.any fun other => other.id = first.id) = true
      ↔ first.id ∈ rest.map SheathTrigger.id := by
    simp
  rw [latest]
  split
  · next again => simp [occurs.mp again]
  · next last => simp [mt occurs.mpr last]

/-- The trigger that comes last is the last one of its id. -/
theorem mem_latest_concat (triggers : List SheathTrigger) (trigger : SheathTrigger)
    : trigger ∈ latest (triggers ++ [trigger]) := by
  induction triggers with
  | nil => simp [latest]
  | cons first rest ih =>
      rw [List.cons_append, mem_latest_cons]
      exact .inr ih

theorem mem_ids_mergeTrigger {active : List SheathTrigger} {trigger : SheathTrigger}
    {id : SheathTriggerId}
    : id ∈ (mergeTrigger active trigger).map SheathTrigger.id
      ↔ id ∈ active.map SheathTrigger.id ∨ id = trigger.id := by
  induction active with
  | nil => simp [mergeTrigger]
  | cons existing rest ih =>
      rw [mergeTrigger]
      split
      · next same =>
          rw [List.map_cons, List.map_cons, List.mem_cons, List.mem_cons, same]
          tauto
      · rw [List.map_cons, List.map_cons, List.mem_cons, List.mem_cons, ih]
        tauto

/-- Merging keeps one trigger for each id. -/
theorem nodup_mergeTrigger {active : List SheathTrigger} (trigger : SheathTrigger)
    (unique : (active.map SheathTrigger.id).Nodup)
    : ((mergeTrigger active trigger).map SheathTrigger.id).Nodup := by
  induction active with
  | nil => simp [mergeTrigger]
  | cons existing rest ih =>
      rw [List.map_cons, List.nodup_cons] at unique
      rw [mergeTrigger]
      split
      · next same =>
          rw [List.map_cons, List.nodup_cons, ← same]
          exact unique
      · next different =>
          rw [List.map_cons, List.nodup_cons, mem_ids_mergeTrigger]
          exact ⟨not_or.mpr ⟨unique.1, different⟩, ih unique.2⟩

theorem nodup_merged {active : List SheathTrigger} (reported : List SheathTrigger)
    (unique : (active.map SheathTrigger.id).Nodup)
    : ((reported.foldl mergeTrigger active).map SheathTrigger.id).Nodup := by
  induction reported generalizing active with
  | nil => exact unique
  | cons trigger rest ih => exact ih (nodup_mergeTrigger trigger unique)

/-- A trigger may move to the front past the ones of other ids. -/
theorem mem_latest_front {trigger moved : SheathTrigger} {before after : List SheathTrigger}
    (absent : moved.id ∉ before.map SheathTrigger.id)
    : trigger ∈ latest (moved :: (before ++ after))
      ↔ trigger ∈ latest (before ++ moved :: after) := by
  induction before with
  | nil => exact Iff.rfl
  | cons first rest ih =>
      rw [List.map_cons, List.mem_cons, not_or] at absent
      have tail := ih absent.2
      rw [mem_latest_cons] at tail
      simp only [List.cons_append, mem_latest_cons, List.map_cons, List.map_append,
        List.mem_cons, List.mem_append] at tail ⊢
      rw [← tail]
      have different := absent.1
      have differ := Ne.symm absent.1
      tauto

/-- One merge leaves the last word on each id as it is. -/
theorem mem_latest_merge {trigger next : SheathTrigger} {active rest : List SheathTrigger}
    (unique : (active.map SheathTrigger.id).Nodup)
    : trigger ∈ latest (mergeTrigger active next ++ rest)
      ↔ trigger ∈ latest (active ++ next :: rest) := by
  induction active with
  | nil => exact Iff.rfl
  | cons existing others ih =>
      rw [List.map_cons, List.nodup_cons] at unique
      rw [mergeTrigger]
      split
      · next same =>
          rw [List.cons_append, mem_latest_front (same ▸ unique.1), List.cons_append,
            mem_latest_cons]
          have occurs : existing.id ∈ (others ++ next :: rest).map SheathTrigger.id := by
            simp [same]
          tauto
      · simp only [List.cons_append, mem_latest_cons, ih unique.2, List.map_append,
          List.mem_append, mem_ids_mergeTrigger, List.map_cons, List.mem_cons, or_assoc]

/-- With one trigger for each id, the merged triggers are the last ones of their ids, by
induction on the report.
-/
theorem mem_merged_iff {trigger : SheathTrigger} {active reported : List SheathTrigger}
    (unique : (active.map SheathTrigger.id).Nodup)
    : trigger ∈ reported.foldl mergeTrigger active ↔ trigger ∈ latest (active ++ reported) := by
  induction reported generalizing active with
  | nil =>
      rw [List.append_nil, List.foldl_nil]
      induction active with
      | nil => exact Iff.rfl
      | cons first rest ih =>
          rw [List.map_cons, List.nodup_cons] at unique
          rw [mem_latest_cons, List.mem_cons, ih unique.2]
          have last := unique.1
          tauto
  | cons next rest ih =>
      rw [List.foldl_cons, ih (nodup_mergeTrigger next unique), mem_latest_merge unique]

-----------------------------------------------------------------------------------------
-- What a call does
-----------------------------------------------------------------------------------------

section Transition

variable {next : SheathState} {triggers : List SheathTrigger}
  {operatorCommand : Option String} {recoveryResults : Option (List RecoveryCheckResult)}

@[simp] theorem transition_state
    : (mode.transition next triggers operatorCommand recoveryResults).state = next := by
  rw [SheathMode.transition]
  split
  · next same => exact same.symm
  · rfl

@[simp] theorem transition_activeTriggers
    : (mode.transition next triggers operatorCommand recoveryResults).activeTriggers
      = mode.activeTriggers := by
  rw [SheathMode.transition]
  split <;> rfl

@[simp] theorem transition_consecutiveRecoveryRounds
    : (mode.transition next triggers operatorCommand recoveryResults).consecutiveRecoveryRounds
      = mode.consecutiveRecoveryRounds := by
  rw [SheathMode.transition]
  split <;> rfl

end Transition

/-- Some trigger has a severity that activates the mode at once. -/
def Alarming (triggers : List SheathTrigger) : Prop :=
  ∃ trigger ∈ triggers, trigger.severity = .critical ∨ trigger.severity = .manual

theorem maxSeverity_alarms_iff {triggers : List SheathTrigger}
    : maxSeverity triggers = some .critical ∨ maxSeverity triggers = some .manual
      ↔ Alarming triggers := by
  simp only [maxSeverity, Alarming, List.any_eq_true, decide_eq_true_eq]
  split_ifs <;> grind

/-- A critical or high severity is the maximum when some trigger has one and none is manual. -/
theorem maxSeverity_rearms_iff {triggers : List SheathTrigger}
    : maxSeverity triggers = some .critical ∨ maxSeverity triggers = some .high
      ↔ (∀ trigger ∈ triggers, trigger.severity ≠ .manual)
        ∧ ∃ trigger ∈ triggers, trigger.severity = .critical ∨ trigger.severity = .high := by
  simp only [maxSeverity, List.any_eq_true, decide_eq_true_eq]
  split_ifs <;> grind

theorem Alarming.mono {triggers others : List SheathTrigger} (alarming : Alarming triggers)
    (included : triggers ⊆ others)
    : Alarming others := by
  obtain ⟨trigger, member, severity⟩ := alarming
  exact ⟨trigger, included member, severity⟩

/-- Without a protection no trigger is active, and none that would activate it while the mode
evaluates.
-/
structure Calm (mode : SheathMode) : Prop where
  normal : mode.state = .normal → mode.activeTriggers = []
  evaluating : mode.state = .sheathEvaluating → ¬ Alarming mode.activeTriggers

/-- A tick that checks the recovery, with whether all its checks passed. -/
def SheathCall.recoveryTick : SheathCall → Option Bool
  | .onRoundTick (some (check :: checks)) =>
      some ((check :: checks).all RecoveryCheckResult.passed)
  | _ => none

/-- How a call may change the mode. -/
inductive SheathEffect (opts : SheathModeOptions) (mode after : SheathMode) (call : SheathCall)
    : Prop
  | kept (calm : Calm after) (state : after.state = mode.state)
      (rounds : after.consecutiveRecoveryRounds = mode.consecutiveRecoveryRounds)
      (unchecked : mode.state = .sheathRecovering → call.recoveryTick = none)
  | evaluate (before : mode.state = .normal) (state : after.state = .sheathEvaluating)
      (calm : ¬ Alarming after.activeTriggers)
  | activate (before : mode.state ≠ .sheathPersistent) (state : after.state = .sheathActive)
  | dismiss (before : mode.state = .sheathEvaluating) (state : after.state = .normal)
      (cleared : after.activeTriggers = [])
  | recover
      (before : mode.state = .sheathActive
        ∨ mode.state = .sheathPersistent ∧ call = .operatorUnsheath)
      (state : after.state = .sheathRecovering) (rounds : after.consecutiveRecoveryRounds = 0)
  | pass (before : mode.state = .sheathRecovering) (state : after.state = .sheathRecovering)
      (tick : call.recoveryTick = some true)
      (rounds : after.consecutiveRecoveryRounds = mode.consecutiveRecoveryRounds + 1)
  | fail (before : mode.state = .sheathRecovering)
      (state : after.state = .sheathRecovering ∨ after.state = .sheathPersistent)
      (tick : call.recoveryTick = some false) (rounds : after.consecutiveRecoveryRounds = 0)
  | recovered (before : mode.state = .sheathRecovering) (state : after.state = .normal)
      (tick : call.recoveryTick = some true)
      (enough : opts.recoveryRequiredRounds ≤ rounds (mode.consecutiveRecoveryRounds + 1))
      (cleared : after.activeTriggers = [])

/-- A report evaluates or activates the protection, or adds to the triggers of one. -/
theorem reportTriggers_effect (calm : Calm mode) (call : SheathCall)
    (unchecked : call.recoveryTick = none) (triggers : List SheathTrigger)
    : SheathEffect opts mode (mode.reportTriggers triggers) call := by
  unfold SheathMode.reportTriggers
  extract_lets merged severity
  have alarms : severity = some .critical ∨ severity = some .manual
      ↔ Alarming merged.activeTriggers := maxSeverity_alarms_iff
  have state : merged.state = mode.state := rfl
  split
  · exact .kept calm rfl rfl fun _ => unchecked
  · split
    · next before =>
        split
        · exact .activate (by simp [before]) transition_state
        · next quiet =>
            refine .evaluate before transition_state ?_
            change ¬ Alarming (merged.transition _ _ _ _).activeTriggers
            rw [transition_activeTriggers]
            exact mt alarms.mpr quiet
    · next before =>
        split
        · exact .activate (by simp [before]) transition_state
        · next quiet =>
            refine .kept ⟨?_, fun _ => mt alarms.mpr quiet⟩ rfl rfl fun _ => unchecked
            simp [state, before]
    · next before =>
        split
        · exact .activate (by simp [before]) transition_state
        · refine .kept ⟨?_, ?_⟩ rfl rfl fun _ => unchecked <;> simp [state, before]
    · next before =>
        refine .kept ⟨?_, ?_⟩ rfl rfl fun _ => unchecked <;> simp [state, before]
    · next before =>
        refine .kept ⟨?_, ?_⟩ rfl rfl fun _ => unchecked <;> simp [state, before]

theorem operatorUnsheath_effect (calm : Calm mode)
    : SheathEffect opts mode mode.operatorUnsheath .operatorUnsheath := by
  rw [SheathMode.operatorUnsheath]
  cases before : mode.state with
  | normal | sheathRecovering => exact .kept calm rfl rfl fun _ => rfl
  | sheathActive => exact .recover (.inl before) (by simp [SheathMode.recover]) rfl
  | sheathPersistent => exact .recover (.inr ⟨before, rfl⟩) (by simp [SheathMode.recover]) rfl
  | sheathEvaluating =>
      -- an evaluated trigger is never critical, so all of them are dropped
      have dropped : (mode.activeTriggers.filter fun trigger => trigger.severity = .critical)
          = [] := by
        rw [List.filter_eq_nil_iff]
        intro trigger member critical
        exact calm.evaluating before ⟨trigger, member, .inl (of_decide_eq_true critical)⟩
      simp only [dropped, if_true]
      exact .dismiss before (by simp) (by simp)

theorem evaluateRound_effect (calm : Calm mode) (before : mode.state = .sheathEvaluating)
    (call : SheathCall)
    : SheathEffect opts mode (mode.evaluateRound opts) call := by
  unfold SheathMode.evaluateRound
  extract_lets counted threshold
  have state : counted.state = mode.state := rfl
  split
  · split
    · exact .activate (by simp [before]) transition_state
    · next cleared =>
        have none : mode.activeTriggers = [] := not_not.mp cleared
        exact .dismiss before transition_state (transition_activeTriggers.trans none)
  · refine .kept ⟨?_, fun _ => calm.evaluating before⟩ rfl rfl ?_
    · simp [state, before]
    · simp [before]

theorem recoverRound_effect (before : mode.state = .sheathRecovering)
    (check : RecoveryCheckResult) (checks : List RecoveryCheckResult)
    : SheathEffect opts mode (mode.recoverRound opts (check :: checks))
        (.onRoundTick (some (check :: checks))) := by
  simp only [SheathMode.recoverRound]
  split
  · next passed =>
      split
      · next enough =>
          exact .recovered before (by simp) (congrArg some passed) enough (by simp)
      · exact .pass before before (congrArg some passed) rfl
  · next failed =>
      have tick : SheathCall.recoveryTick (.onRoundTick (some (check :: checks))) = some false :=
        congrArg some (eq_false_of_ne_true failed)
      split
      · exact .fail before (.inr transition_state) tick (by simp)
      · exact .fail before (.inl before) tick rfl

theorem clearTrigger_effect (calm : Calm mode) (id : SheathTriggerId)
    : SheathEffect opts mode (mode.clearTrigger id) (.clearTrigger id) := by
  simp only [SheathMode.clearTrigger]
  split
  · next cleared => exact .recover (.inl cleared.1) (by simp [SheathMode.recover]) rfl
  · refine .kept ⟨?_, ?_⟩ rfl rfl fun _ => rfl
    · intro normal
      change mode.activeTriggers.filter _ = []
      rw [calm.normal normal, List.filter_nil]
    · intro evaluating alarming
      exact calm.evaluating evaluating (alarming.mono (List.filter_subset_self _))

theorem onRoundTick_effect (calm : Calm mode)
    (recoveryChecks : Option (List RecoveryCheckResult))
    : SheathEffect opts mode (mode.onRoundTick opts recoveryChecks)
        (.onRoundTick recoveryChecks) := by
  unfold SheathMode.onRoundTick
  split
  · next before => exact evaluateRound_effect calm before _
  · next before =>
      split
      · exact .kept calm rfl rfl fun _ => rfl
      · exact .kept calm rfl rfl fun _ => rfl
      · next check checks => exact recoverRound_effect before check checks
  all_goals
    next before => exact .kept calm rfl rfl fun recovering => by simp [before] at recovering

/-- Every call has one of the effects, call by call. -/
theorem next_effect (calm : Calm mode) (call : SheathCall)
    : SheathEffect opts mode (mode.next opts call) call := by
  cases call with
  | reportTriggers triggers =>
      exact reportTriggers_effect calm (.reportTriggers triggers) rfl triggers
  | operatorSheath =>
      exact reportTriggers_effect calm .operatorSheath rfl [SheathMode.operatorTrigger]
  | operatorUnsheath => exact operatorUnsheath_effect calm
  | onRoundTick recoveryChecks => exact onRoundTick_effect calm recoveryChecks
  | clearTrigger id => exact clearTrigger_effect calm id
  | reportPredictionHealth input =>
      rw [SheathMode.next, SheathMode.reportPredictionHealth]
      split
      · exact reportTriggers_effect calm (.reportPredictionHealth input) rfl _
      · exact .kept calm rfl rfl fun _ => rfl

theorem SheathEffect.calm {after : SheathMode} {call : SheathCall}
    (effect : SheathEffect opts mode after call)
    : Calm after := by
  cases effect with
  | kept calm => exact calm
  | evaluate _ state calm => exact ⟨by simp [state], fun _ => calm⟩
  | dismiss _ state cleared => exact ⟨fun _ => cleared, by simp [state]⟩
  | recovered _ state _ _ cleared => exact ⟨fun _ => cleared, by simp [state]⟩
  | activate _ state => exact ⟨by simp [state], by simp [state]⟩
  | recover _ state | pass _ state => exact ⟨by simp [state], by simp [state]⟩
  | fail _ state =>
      rcases state with state | state <;> exact ⟨by simp [state], by simp [state]⟩

-----------------------------------------------------------------------------------------
-- The way back to normal
-----------------------------------------------------------------------------------------

/-- What is seen of a run: whether the mode was active since it was last normal, and the passing
recovery ticks in a row since the recovery was last entered.
-/
structure Recovery where
  armed : Bool := false
  passes : Nat := 0

def Recovery.next (opts : SheathModeOptions) (seen : Recovery) (mode : SheathMode)
    (call : SheathCall)
    : Recovery :=
  let after := (mode.next opts call).state
  { armed := (seen.armed || after = .sheathActive) && after ≠ .normal
    passes :=
      if mode.state ≠ .sheathRecovering ∧ after = .sheathRecovering then 0
      else
        match call.recoveryTick with
        | none => seen.passes
        | some true => seen.passes + 1
        | some false => 0 }

/-- A mode that was active is normal again only when enough recovery ticks in a row have passed
since the recovery was last entered, and a persistent one is left only by the operator.
-/
structure Exits (opts : SheathModeOptions) (seen : SheathMode × Recovery) (call : SheathCall)
    : Prop where
  normal : seen.2.armed → (seen.1.next opts call).state = .normal →
    seen.1.state = .sheathRecovering ∧ call.recoveryTick = some true
      ∧ opts.recoveryRequiredRounds ≤ rounds (seen.2.next opts seen.1 call).passes
  persistent : seen.1.state = .sheathPersistent →
    (seen.1.next opts call).state ≠ .sheathPersistent → call = .operatorUnsheath

/-- What holds of a mode that is reached. -/
structure Protects (mode : SheathMode) : Prop where
  normal : mode.state = .normal → mode.activeTriggers = []
  evaluating : mode.state = .sheathEvaluating →
    ∀ trigger ∈ mode.activeTriggers, trigger.severity ≠ .critical ∧ trigger.severity ≠ .manual
  blocked : mode.isPredictionEntriesBlocked = mode.isBettingSuspended

theorem Calm.protects (calm : Calm mode) : Protects mode := by
  refine ⟨calm.normal, ?_, ?_⟩
  · intro evaluating trigger member
    have quiet := calm.evaluating evaluating
    exact ⟨fun critical => quiet ⟨trigger, member, .inl critical⟩,
      fun manual => quiet ⟨trigger, member, .inr manual⟩⟩
  · by_cases normal : mode.state = .normal
    · simp [SheathMode.isPredictionEntriesBlocked, calm.normal normal]
    · simp [SheathMode.isPredictionEntriesBlocked, SheathMode.isBettingSuspended, normal]

/-- What is seen of a run is what the mode keeps of it. -/
structure Tracked (seen : SheathMode × Recovery) : Prop where
  calm : Calm seen.1
  armed : seen.2.armed = true → seen.1.state ≠ .normal ∧ seen.1.state ≠ .sheathEvaluating
  passes : seen.1.state = .sheathRecovering →
    seen.2.passes = seen.1.consecutiveRecoveryRounds

/-- Every call exits as it may and is tracked, effect by effect. -/
theorem Tracked.step {seen : SheathMode × Recovery} (tracked : Tracked seen) (call : SheathCall)
    : Exits opts seen call
      ∧ Tracked (watched (SheathMode.next opts) (Recovery.next opts) seen call) := by
  obtain ⟨mode, seen⟩ := seen
  have effect : SheathEffect opts mode (mode.next opts call) call := next_effect tracked.calm call
  have armed := tracked.armed
  have passes := tracked.passes
  refine ⟨⟨?_, ?_⟩, effect.calm, ?_, ?_⟩
  all_goals
    simp only [watched, Recovery.next] at armed passes ⊢
    cases effect <;> grind

/-- A mode that was active gets back to normal only through enough recovery ticks in a row, from
whatever state a run has reached.
-/
theorem sheath_exit_discipline (opts : SheathModeOptions) (calls : List SheathCall)
    : Always (watched (SheathMode.next opts) (Recovery.next opts)) (Exits opts) ({}, {}) calls
      ∧ Protects (run (SheathMode.next opts) {} calls) := by
  have initial : Tracked (({}, {}) : SheathMode × Recovery) := by
    refine ⟨⟨fun _ => rfl, ?_⟩, ?_, ?_⟩ <;> simp
  have kept (seen : SheathMode × Recovery) (call : SheathCall) (tracked : Tracked seen)
      : Exits opts seen call
        ∧ Tracked (watched (SheathMode.next opts) (Recovery.next opts) seen call) :=
    tracked.step call
  obtain ⟨exits, tracked⟩ := always_of_kept kept calls initial
  rw [← run_watched_fst (SheathMode.next opts) (Recovery.next opts) ({}, {}) calls]
  exact ⟨exits, tracked.calm.protects⟩

-----------------------------------------------------------------------------------------
-- Alarms during a recovery
-----------------------------------------------------------------------------------------

/-- The triggers that a call reports. -/
def SheathCall.reported : SheathCall → List SheathTrigger
  | .reportTriggers triggers => triggers
  | .operatorSheath => [SheathMode.operatorTrigger]
  | .reportPredictionHealth input => predictionTriggers input
  | .operatorUnsheath | .onRoundTick _ | .clearTrigger _ => []

/-- The call reports a trigger of a severity above medium while the mode recovers. -/
def Alarms (mode : SheathMode) (call : SheathCall) : Prop :=
  mode.state = .sheathRecovering ∧ ∃ trigger ∈ call.reported, trigger.severity ≠ .medium

/-- An alarm during the recovery brings the protection back. -/
def ReArms (opts : SheathModeOptions) (mode : SheathMode) (call : SheathCall) : Prop :=
  Alarms mode call →
    (mode.next opts call).state = .sheathActive
    ∨ (mode.next opts call).state = .sheathPersistent

/-- An alarm finds no manual trigger among the last ones of each id, and a critical or high one. -/
def Unmasked (mode : SheathMode) (call : SheathCall) : Prop :=
  Alarms mode call →
    (∀ trigger ∈ latest (mode.activeTriggers ++ call.reported), trigger.severity ≠ .manual)
    ∧ ∃ trigger ∈ latest (mode.activeTriggers ++ call.reported),
        trigger.severity = .critical ∨ trigger.severity = .high

instance (call : SheathCall) : Decidable (Alarms mode call) :=
  inferInstanceAs (Decidable (_ ∧ ∃ trigger ∈ call.reported, _))

instance (call : SheathCall) : Decidable (ReArms opts mode call) :=
  inferInstanceAs (Decidable (_ → _ ∨ _))

/-- No two active triggers have the same id. -/
def Unique (mode : SheathMode) : Prop := (mode.activeTriggers.map SheathTrigger.id).Nodup

/-- A report merges its triggers, whatever it does besides. -/
theorem reportTriggers_activeTriggers (triggers : List SheathTrigger)
    : (mode.reportTriggers triggers).activeTriggers
      = triggers.foldl mergeTrigger mode.activeTriggers := by
  unfold SheathMode.reportTriggers
  extract_lets merged severity
  split
  · next none => rw [none, List.foldl_nil]
  · split
    all_goals try split
    all_goals first | rfl | exact transition_activeTriggers

/-- A report in a recovery activates the mode when the merged severity is critical or high. -/
theorem reportTriggers_recovering (before : mode.state = .sheathRecovering)
    (triggers : List SheathTrigger) (some_reported : triggers ≠ [])
    : (mode.reportTriggers triggers).state = .sheathActive
        ∨ (mode.reportTriggers triggers).state = .sheathPersistent
      ↔ maxSeverity (triggers.foldl mergeTrigger mode.activeTriggers) = some .critical
        ∨ maxSeverity (triggers.foldl mergeTrigger mode.activeTriggers) = some .high := by
  unfold SheathMode.reportTriggers
  extract_lets merged severity
  have state : merged.state = .sheathRecovering := before
  rw [if_neg some_reported, before]
  dsimp only
  split
  · next rearms => exact iff_of_true (.inl transition_state) rearms
  · next masked => exact iff_of_false (by simp [state]) masked

theorem recover_activeTriggers {operatorCommand : Option String}
    : (mode.recover operatorCommand).activeTriggers = mode.activeTriggers :=
  transition_activeTriggers

theorem evaluateRound_activeTriggers
    : (mode.evaluateRound opts).activeTriggers = mode.activeTriggers := by
  simp only [SheathMode.evaluateRound]
  split_ifs <;> simp

theorem recoverRound_activeTriggers (checks : List RecoveryCheckResult)
    : List.Sublist (mode.recoverRound opts checks).activeTriggers mode.activeTriggers := by
  simp only [SheathMode.recoverRound]
  split_ifs <;> simp

/-- A call adds no trigger but the reported ones, call by call. -/
theorem next_activeTriggers (call : SheathCall)
    : List.Sublist (mode.next opts call).activeTriggers
        (call.reported.foldl mergeTrigger mode.activeTriggers) := by
  have reports (triggers : List SheathTrigger)
      : List.Sublist (mode.reportTriggers triggers).activeTriggers
          (triggers.foldl mergeTrigger mode.activeTriggers) := by
    rw [reportTriggers_activeTriggers]
  cases call with
  | reportTriggers triggers => exact reports triggers
  | operatorSheath => exact reports [SheathMode.operatorTrigger]
  | operatorUnsheath =>
      simp only [SheathMode.next, SheathMode.operatorUnsheath, SheathCall.reported,
        List.foldl_nil]
      split
      · rw [recover_activeTriggers]
      · rw [recover_activeTriggers]
      · split
        · next none => simp [none]
        · exact List.filter_sublist
      · exact .refl _
      · exact .refl _
  | onRoundTick recoveryChecks =>
      simp only [SheathMode.next, SheathMode.onRoundTick, SheathCall.reported, List.foldl_nil]
      split
      · rw [evaluateRound_activeTriggers]
      · split
        · exact .refl _
        · exact .refl _
        · exact recoverRound_activeTriggers _
      all_goals exact .refl _
  | clearTrigger id =>
      simp only [SheathMode.next, SheathMode.clearTrigger, SheathCall.reported, List.foldl_nil]
      split
      · rw [recover_activeTriggers]
        exact List.filter_sublist
      · exact List.filter_sublist
  | reportPredictionHealth input =>
      rw [SheathMode.next, SheathMode.reportPredictionHealth]
      split
      · exact reports _
      · next nothing =>
          have none : predictionTriggers input = [] := by simpa using nothing
          rw [SheathCall.reported, none, List.foldl_nil]

/-- Every call keeps the ids of the active triggers apart. -/
theorem Unique.next (unique : Unique mode) (call : SheathCall) : Unique (mode.next opts call) :=
  (nodup_merged call.reported unique).sublist ((next_activeTriggers call).map _)

/-- An alarm during the recovery brings the protection back exactly when no manual trigger masks
it.
-/
theorem reArms_iff (unique : Unique mode) (call : SheathCall)
    : ReArms opts mode call ↔ Unmasked mode call := by
  have answered (alarms : Alarms mode call)
      : mode.next opts call = mode.reportTriggers call.reported := by
    obtain ⟨_, trigger, reported, _⟩ := alarms
    cases call with
    | reportTriggers triggers => rfl
    | operatorSheath => rfl
    | reportPredictionHealth input =>
        exact if_pos (List.length_pos_of_mem reported)
    | operatorUnsheath | onRoundTick _ | clearTrigger _ => cases reported
  refine forall_congr' fun alarms => ?_
  have some_reported : call.reported ≠ [] := by
    obtain ⟨_, trigger, reported, _⟩ := alarms
    exact List.ne_nil_of_mem reported
  rw [answered alarms, reportTriggers_recovering alarms.1 _ some_reported,
    maxSeverity_rearms_iff]
  simp only [mem_merged_iff unique]

/-- The alarms of a run all bring the protection back exactly when none of them is masked. -/
theorem sheath_rearms_iff (opts : SheathModeOptions) (calls : List SheathCall)
    : Always (SheathMode.next opts) (ReArms opts) {} calls
      ↔ Always (SheathMode.next opts) Unmasked {} calls :=
  always_iff_of_invariant (fun _ call unique => reArms_iff unique call)
    (fun _ call unique _ => unique.next call) calls List.nodup_nil

/-- After an operator's `/sheath` and `/unsheath`, a critical trigger leaves the mode recovering. -/
theorem critical_masked
    : ¬ Always (SheathMode.next {}) (ReArms {}) {}
      [.operatorSheath, .operatorUnsheath, .reportTriggers [⟨.apiFailures, .critical⟩]] := by
  decide

/-- An operator's `/sheath` never brings the protection back during a recovery. -/
theorem operatorSheath_masked (before : mode.state = .sheathRecovering) (unique : Unique mode)
    : ¬ ReArms opts mode .operatorSheath := by
  rw [reArms_iff unique]
  intro unmasked
  have alarms : Alarms mode .operatorSheath :=
    ⟨before, SheathMode.operatorTrigger, List.mem_singleton_self _, by decide⟩
  refine (unmasked alarms).1 SheathMode.operatorTrigger ?_ rfl
  exact mem_latest_concat mode.activeTriggers SheathMode.operatorTrigger

end CrashWave.Sheath
