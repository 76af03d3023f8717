import Mathlib.Order.Fin.Basic
import CrashWave.Prediction.LiveDivergence
import CrashWave.Runs.Basic

/-! When the level of the divergence monitor keeps up with the metrics of its window, and when it
falls by itself.
-/

namespace CrashWave.Divergence

open JavaScript Runs

variable {monitor : LiveDivergenceMonitor} {metrics : WindowMetrics}

-----------------------------------------------------------------------------------------
-- What a call does
-----------------------------------------------------------------------------------------

/-- A required recovery holds the level. -/
theorem evaluatedLevel_of_required (required : monitor.manualRecoveryRequired = true)
    : monitor.evaluatedLevel metrics = monitor.level := by
  simp [LiveDivergenceMonitor.evaluatedLevel, required]

/-- The level falls only without a required recovery, so it is always the evaluated one. -/
theorem settle_level : (monitor.settle metrics).level = monitor.evaluatedLevel metrics := by
  have kept : monitor.manualRecoveryRequired = true →
      monitor.evaluatedLevel metrics = monitor.level := evaluatedLevel_of_required
  unfold LiveDivergenceMonitor.settle
  extract_lets newLevel ece gap brier
  change monitor.manualRecoveryRequired = true → newLevel = monitor.level at kept
  split
  · rfl
  · split
    · rfl
    · next higher lower =>
        change monitor.level = newLevel
        by_cases required : monitor.manualRecoveryRequired = true
        · exact (kept required).symm
        · have free : (!monitor.manualRecoveryRequired) = true := by simpa using required
          have above : ¬ newLevel < monitor.level := fun below => lower ⟨below, free⟩
          exact le_antisymm (not_lt.mp above) (not_lt.mp higher)

theorem settle_window : (monitor.settle metrics).window = monitor.window := by
  simp only [LiveDivergenceMonitor.settle]
  split_ifs <;> rfl

theorem settle_maxWindow : (monitor.settle metrics).maxWindow = monitor.maxWindow := by
  simp only [LiveDivergenceMonitor.settle]
  split_ifs <;> rfl

theorem settle_recoveryGraceRemaining
    : (monitor.settle metrics).recoveryGraceRemaining = monitor.recoveryGraceRemaining := by
  simp only [LiveDivergenceMonitor.settle]
  split_ifs <;> rfl

/-- A recovery is required exactly from level 3 on, and a level is reached on 50 points only. -/
structure Latched (monitor : LiveDivergenceMonitor) : Prop where
  manual : monitor.manualRecoveryRequired = true ↔ 3 ≤ monitor.level
  insufficient : monitor.window.length < 50 → monitor.level = 0
  bounded : monitor.window = [] ∨ ¬ monitor.maxWindow < .finite monitor.window.length

/-- What an evaluation does: it reports level 0 on a small window, throws at a NaN, and else
settles on the metrics of the window.
-/
inductive Evaluated (monitor : LiveDivergenceMonitor)
    : LiveDivergenceMonitor × Option DivergenceSnapshot → Prop
  | insufficient (few : monitor.window.length < 50) {snapshot : DivergenceSnapshot}
      (level : snapshot.level = 0) : Evaluated monitor (monitor, some snapshot)
  | thrown (many : 50 ≤ monitor.window.length) (nan : windowMetrics monitor.window = none)
      : Evaluated monitor (monitor, none)
  | settled (many : 50 ≤ monitor.window.length) {metrics : WindowMetrics}
      (measured : windowMetrics monitor.window = some metrics) {snapshot : DivergenceSnapshot}
      (level : snapshot.level = monitor.evaluatedLevel metrics)
      : Evaluated monitor (monitor.settle metrics, some snapshot)

theorem evaluate_evaluated (monitor : LiveDivergenceMonitor)
    : Evaluated monitor monitor.evaluate := by
  rw [LiveDivergenceMonitor.evaluate]
  split
  · next few => exact .insufficient few rfl
  · next many =>
      split
      · next nan => exact .thrown (not_lt.mp many) nan
      · next metrics measured => exact .settled (not_lt.mp many) measured settle_level

/-- Settling requires a recovery exactly when it reaches level 3. -/
theorem settle_manual (manual : monitor.manualRecoveryRequired = true ↔ 3 ≤ monitor.level)
    : (monitor.settle metrics).manualRecoveryRequired = true
      ↔ 3 ≤ monitor.evaluatedLevel metrics := by
  have kept : monitor.manualRecoveryRequired = true →
      monitor.evaluatedLevel metrics = monitor.level := evaluatedLevel_of_required
  unfold LiveDivergenceMonitor.settle
  extract_lets newLevel ece gap brier
  change monitor.manualRecoveryRequired = true → newLevel = monitor.level at kept
  change _ ↔ 3 ≤ newLevel
  split
  · next higher =>
      rw [Bool.or_eq_true, decide_eq_true_eq, manual]
      exact or_iff_right_of_imp fun reached => reached.trans higher.le
  · next higher =>
      have manual' : monitor.manualRecoveryRequired = true ↔ 3 ≤ newLevel := by
        by_cases required : monitor.manualRecoveryRequired = true
        · rw [kept required, manual]
        · have low : ¬ 3 ≤ newLevel := fun reached =>
            required (manual.mpr (reached.trans (not_lt.mp higher)))
          exact iff_of_false required low
      split <;> exact manual'

theorem Latched.settle (latched : Latched monitor) (many : 50 ≤ monitor.window.length)
    : Latched (monitor.settle metrics) := by
  have unmet : ¬ (monitor.settle metrics).window.length < 50 := by
    rw [settle_window]
    exact not_lt.mpr many
  refine ⟨?_, fun few => absurd few unmet, ?_⟩
  · rw [settle_manual latched.manual, settle_level]
  · rw [settle_window, settle_maxWindow]
    exact latched.bounded

theorem Latched.evaluate (latched : Latched monitor) : Latched monitor.evaluate.1 := by
  have evaluated := evaluate_evaluated monitor
  generalize monitor.evaluate = result at evaluated ⊢
  cases evaluated with
  | insufficient | thrown => exact latched
  | settled many => exact latched.settle many

/-- A full window stays as long as it is, and another one grows. -/
theorem length_pushPoint (monitor : LiveDivergenceMonitor) (predicted : Number) (actual : Bool)
    : (monitor.pushPoint predicted actual).length
      = if monitor.maxWindow < .finite (monitor.window.length + 1 : Nat) then
          monitor.window.length
        else monitor.window.length + 1 := by
  unfold LiveDivergenceMonitor.pushPoint
  extract_lets window
  have length : window.length = monitor.window.length + 1 := by simp [window]
  rw [length]
  split
  · rw [List.length_drop, length]
    rfl
  · exact length

/-- A record keeps the level. -/
theorem Latched.record (latched : Latched monitor) (predicted : Number) (actual : Bool)
    : Latched (monitor.record predicted actual) := by
  have length := length_pushPoint monitor predicted actual
  refine ⟨latched.manual, ?_, ?_⟩
  · intro few
    refine latched.insufficient ?_
    change (monitor.pushPoint predicted actual).length < 50 at few
    rw [length] at few
    split at few <;> omega
  · change monitor.pushPoint predicted actual = []
      ∨ ¬ monitor.maxWindow < .finite (monitor.pushPoint predicted actual).length
    rw [← List.length_eq_zero_iff, length]
    split
    · rw [List.length_eq_zero_iff]
      exact latched.bounded
    · next room => exact .inr room

/-- A window of 50 points leaves room for a grace. -/
theorem Latched.grace (latched : Latched monitor) (many : 50 ≤ monitor.window.length)
    : ¬ monitor.maxWindow.min 100 ≤ 0 := by
  have bounded : ¬ monitor.maxWindow < .finite monitor.window.length :=
    latched.bounded.resolve_left (List.ne_nil_of_length_pos (by omega))
  cases size : monitor.maxWindow with
  | nan => exact Bool.false_ne_true
  | infinity negative =>
      rw [size] at bounded
      cases negative with
      | true => exact absurd rfl bounded
      | false => decide
  | finite value =>
      rw [size] at bounded
      have large : (50 : ℚ) ≤ value := by
        have below : ¬ value < monitor.window.length := fun less => bounded (decide_eq_true less)
        have count : (50 : ℚ) ≤ monitor.window.length := by exact_mod_cast many
        exact count.trans (not_lt.mp below)
      change ¬ (if (Number.finite value) ≤ 100 then Number.finite value else 100) ≤ 0
      split
      · intro small
        have nonpositive : value ≤ 0 := of_decide_eq_true small
        linarith
      · decide

theorem Latched.manualRecover (latched : Latched monitor) (confirm : Bool)
    : Latched (monitor.manualRecover confirm).1 := by
  rw [LiveDivergenceMonitor.manualRecover]
  split
  · refine ⟨?_, fun _ => rfl, latched.bounded⟩
    simp
  · exact latched

/-- Every call keeps the monitor latched, call by call. -/
theorem Latched.next (latched : Latched monitor) (call : DivergenceCall)
    : Latched (monitor.next call) := by
  cases call with
  | observe predicted actual => exact (latched.record predicted actual).evaluate
  | evaluate => exact latched.evaluate
  | manualRecover confirm => exact latched.manualRecover confirm

theorem latched_new (maxWindow : Option Number) : Latched (.new maxWindow) := by
  refine ⟨?_, fun _ => rfl, .inl rfl⟩
  simp [LiveDivergenceMonitor.new]

-----------------------------------------------------------------------------------------
-- Escalation
-----------------------------------------------------------------------------------------

/-- The monitor as a call evaluates it. -/
def LiveDivergenceMonitor.evaluatedBy (monitor : LiveDivergenceMonitor)
    : DivergenceCall → Option LiveDivergenceMonitor
  | .observe predicted actual => some (monitor.record predicted actual)
  | .evaluate => some monitor
  | .manualRecover _ => none

/-- The level that the window implies, with 50 points and outside of a grace. -/
def LiveDivergenceMonitor.windowLevel (monitor : LiveDivergenceMonitor)
    : Option DivergenceLevel :=
  if 50 ≤ monitor.window.length ∧ monitor.recoveryGraceRemaining ≤ 0 then
    (windowMetrics monitor.window).map WindowMetrics.impliedLevel
  else none

/-- A reported level is no lower than the one that the window then implies. -/
def EscalatesFully (monitor : LiveDivergenceMonitor) (call : DivergenceCall) : Prop :=
  ∀ snapshot ∈ (monitor.call call).2, ∀ implied ∈ (monitor.next call).windowLevel,
    implied ≤ snapshot.level

/-- A call does not find level 3 or 4 latched while the window implies a higher one. -/
def Surpassable (monitor : LiveDivergenceMonitor) (call : DivergenceCall) : Prop :=
  ∀ evaluated ∈ monitor.evaluatedBy call, ∀ implied ∈ evaluated.windowLevel,
    3 ≤ monitor.level.val → implied ≤ monitor.level

instance (call : DivergenceCall) : Decidable (EscalatesFully monitor call) :=
  inferInstanceAs (Decidable (∀ snapshot ∈ (monitor.call call).2,
    ∀ implied ∈ (monitor.next call).windowLevel, implied ≤ snapshot.level))

def DivergenceCall.recovers : DivergenceCall → Bool
  | .manualRecover _ => true
  | .observe .. | .evaluate => false

/-- The level is never lowered but by a manual recovery, neither as it is kept nor as reported. -/
def Latches (monitor : LiveDivergenceMonitor) (call : DivergenceCall) : Prop :=
  ¬ call.recovers →
    monitor.level ≤ (monitor.next call).level
    ∧ ∀ snapshot ∈ (monitor.call call).2, monitor.level ≤ snapshot.level

/-- A call does not find level 1 or 2 while the window implies a lower one. -/
def Sustained (monitor : LiveDivergenceMonitor) (call : DivergenceCall) : Prop :=
  ∀ evaluated ∈ monitor.evaluatedBy call, ∀ implied ∈ evaluated.windowLevel,
    monitor.level.val < 3 → monitor.level ≤ implied

instance (call : DivergenceCall) : Decidable (Latches monitor call) :=
  inferInstanceAs (Decidable (¬ call.recovers → monitor.level ≤ (monitor.next call).level
    ∧ ∀ snapshot ∈ (monitor.call call).2, monitor.level ≤ snapshot.level))

/-- Settling keeps the window and the grace, so what the window implies. -/
theorem settle_windowLevel : (monitor.settle metrics).windowLevel = monitor.windowLevel := by
  rw [LiveDivergenceMonitor.windowLevel, settle_window, settle_recoveryGraceRemaining,
    LiveDivergenceMonitor.windowLevel]

/-- Outside of a grace the evaluated level is the implied one, unless a level is latched. -/
theorem Latched.evaluatedLevel (latched : Latched monitor) {implied : DivergenceLevel}
    (measured : windowMetrics monitor.window = some metrics)
    (outside : implied ∈ monitor.windowLevel)
    : monitor.evaluatedLevel metrics = if 3 ≤ monitor.level then monitor.level else implied := by
  unfold LiveDivergenceMonitor.windowLevel at outside
  rw [measured] at outside
  split at outside
  · next settled =>
      obtain rfl : metrics.impliedLevel = implied := Option.some_inj.mp outside
      have manual := latched.manual
      rw [LiveDivergenceMonitor.evaluatedLevel]
      by_cases required : monitor.manualRecoveryRequired = true
      · simp [required, manual.mp required]
      · simp [required, settled.2, mt manual.mpr required]
  · cases outside

/-- Without an implied level, an evaluation keeps the level. -/
theorem evaluatedLevel_of_none (many : 50 ≤ monitor.window.length)
    (measured : windowMetrics monitor.window = some metrics)
    (inside : monitor.windowLevel = none)
    : monitor.evaluatedLevel metrics = monitor.level := by
  unfold LiveDivergenceMonitor.windowLevel at inside
  rw [measured] at inside
  split at inside
  · cases inside
  · next held =>
      have grace : ¬ monitor.recoveryGraceRemaining ≤ 0 := fun ended => held ⟨many, ended⟩
      simp [LiveDivergenceMonitor.evaluatedLevel, grace]

theorem windowLevel_none_of_few (few : monitor.window.length < 50)
    : monitor.windowLevel = none :=
  if_neg fun enough => absurd enough.1 (not_le.mpr few)

theorem windowLevel_none_of_nan (nan : windowMetrics monitor.window = none)
    : monitor.windowLevel = none := by
  rw [LiveDivergenceMonitor.windowLevel, nan]
  exact ite_self _

/-- An evaluation reports the implied level at least exactly when no latched one keeps it down. -/
theorem evaluate_escalates_iff (latched : Latched monitor)
    : (∀ snapshot ∈ monitor.evaluate.2, ∀ implied ∈ monitor.evaluate.1.windowLevel,
        implied ≤ snapshot.level)
      ↔ ∀ implied ∈ monitor.windowLevel, 3 ≤ monitor.level → implied ≤ monitor.level := by
  have evaluated := evaluate_evaluated monitor
  generalize monitor.evaluate = result at evaluated ⊢
  cases evaluated with
  | insufficient few level => simp [windowLevel_none_of_few few]
  | thrown many nan => simp [windowLevel_none_of_nan nan]
  | @settled many metrics measured snapshot level =>
      simp only [Option.mem_some_iff, forall_eq', settle_windowLevel, level]
      refine forall₂_congr fun implied outside => ?_
      rw [latched.evaluatedLevel measured outside]
      by_cases high : 3 ≤ monitor.level
      · simp [high]
      · simp [high]

/-- An evaluation keeps the level up exactly when the window implies no lower one below 3. -/
theorem evaluate_latches_iff (latched : Latched monitor)
    : (monitor.level ≤ monitor.evaluate.1.level
        ∧ ∀ snapshot ∈ monitor.evaluate.2, monitor.level ≤ snapshot.level)
      ↔ ∀ implied ∈ monitor.windowLevel, monitor.level < 3 → monitor.level ≤ implied := by
  have evaluated := evaluate_evaluated monitor
  generalize monitor.evaluate = result at evaluated ⊢
  cases evaluated with
  | insufficient few level =>
      simp [windowLevel_none_of_few few, latched.insufficient few]
  | thrown many nan => simp [windowLevel_none_of_nan nan]
  | @settled many metrics measured snapshot level =>
      simp only [Option.mem_some_iff, forall_eq', settle_level, level, and_self]
      cases window : monitor.windowLevel with
      | none =>
          rw [evaluatedLevel_of_none many measured window]
          simp
      | some implied =>
          rw [latched.evaluatedLevel measured window]
          by_cases high : 3 ≤ monitor.level
          · simp [high, not_lt.mpr high]
          · simp [high, not_le.mp high]

/-- A recovery starts a grace, so its window implies no level. -/
theorem recovered_windowLevel (latched : Latched monitor)
    : (monitor.manualRecover true).1.windowLevel = none := by
  refine if_neg fun enough => ?_
  exact latched.grace enough.1 enough.2

theorem escalatesFully_iff (latched : Latched monitor) (call : DivergenceCall)
    : EscalatesFully monitor call ↔ Surpassable monitor call := by
  cases call with
  | observe predicted actual =>
      have recorded := evaluate_escalates_iff (latched.record predicted actual)
      simp only [Surpassable, LiveDivergenceMonitor.evaluatedBy, Option.mem_some_iff, forall_eq']
      exact recorded
  | evaluate =>
      have evaluated := evaluate_escalates_iff latched
      simp only [Surpassable, LiveDivergenceMonitor.evaluatedBy, Option.mem_some_iff, forall_eq']
      exact evaluated
  | manualRecover confirm =>
      refine iff_of_true ?_ fun _ absent => by cases absent
      cases confirm with
      | false => exact fun _ absent => by cases absent
      | true =>
          intro snapshot _ implied outside
          rw [LiveDivergenceMonitor.next, LiveDivergenceMonitor.call,
            recovered_windowLevel latched] at outside
          cases outside

theorem latches_iff (latched : Latched monitor) (call : DivergenceCall)
    : Latches monitor call ↔ Sustained monitor call := by
  cases call with
  | observe predicted actual =>
      have recorded := evaluate_latches_iff (latched.record predicted actual)
      simp only [Sustained, LiveDivergenceMonitor.evaluatedBy, Option.mem_some_iff, forall_eq']
      exact (forall_prop_of_true Bool.false_ne_true).trans recorded
  | evaluate =>
      have evaluated := evaluate_latches_iff latched
      simp only [Sustained, LiveDivergenceMonitor.evaluatedBy, Option.mem_some_iff, forall_eq']
      exact (forall_prop_of_true Bool.false_ne_true).trans evaluated
  | manualRecover confirm =>
      exact iff_of_true (fun records => absurd rfl records) fun _ absent => by cases absent

/-- A run always reports the implied level at least exactly when it finds no latched level that
the window goes beyond.
-/
theorem escalates_fully_iff (maxWindow : Option Number) (calls : List DivergenceCall)
    : Always LiveDivergenceMonitor.next EscalatesFully (.new maxWindow) calls
      ↔ Always LiveDivergenceMonitor.next Surpassable (.new maxWindow) calls := by
  have kept (monitor : LiveDivergenceMonitor) (call : DivergenceCall)
      (latched : Latched monitor) (_ : Surpassable monitor call)
      : Latched (monitor.next call) := latched.next call
  exact always_iff_of_invariant (fun _ call latched => escalatesFully_iff latched call) kept
    calls (latched_new maxWindow)

/-- 25 wins and 25 losses at a prediction of 0.59 latch level 3, and two losses more, which imply
level 4, leave it there.
-/
theorem level_three_stuck
    : ¬ Always LiveDivergenceMonitor.next EscalatesFully (.new none)
      (List.replicate 25 (.observe (.finite 0.59) true)
        ++ List.replicate 27 (.observe (.finite 0.59) false)) := by
  decide +kernel

/-- A run never lowers the level by itself exactly when, below level 3, the window never implies
a lower one.
-/
theorem level_latches_iff (maxWindow : Option Number) (calls : List DivergenceCall)
    : Always LiveDivergenceMonitor.next Latches (.new maxWindow) calls
      ↔ Always LiveDivergenceMonitor.next Sustained (.new maxWindow) calls := by
  have kept (monitor : LiveDivergenceMonitor) (call : DivergenceCall)
      (latched : Latched monitor) (_ : Sustained monitor call)
      : Latched (monitor.next call) := latched.next call
  exact always_iff_of_invariant (fun _ call latched => latches_iff latched call) kept
    calls (latched_new maxWindow)

/-- 22 wins and 28 losses at a prediction of one half reach level 1, and one win more ends it. -/
theorem level_one_falls
    : ¬ Always LiveDivergenceMonitor.next Latches (.new none)
      (List.replicate 22 (.observe (.finite 0.5) true)
        ++ List.replicate 28 (.observe (.finite 0.5) false)
        ++ [.observe (.finite 0.5) true]) := by
  decide +kernel

end CrashWave.Divergence
