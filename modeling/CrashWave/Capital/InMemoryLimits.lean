import CrashWave.Drawdowns.Basic
import CrashWave.Runs.Basic
import Mathlib.Algebra.Order.Field.Basic
import Mathlib.Data.Rat.Init
import Mathlib.Tactic.Linarith
import Mathlib.Tactic.Ring

/-! `InMemoryCapitalGuard`: the floor and the drawdown limits of a bankroll that is bet with.
Amounts are exact. A reason keeps the values that the source writes into its text.
-/

namespace CrashWave.Capital

open Drawdowns Runs

variable {K : Type*} [Field K] [LinearOrder K]

/-- `CapitalLimitsConfig`. -/
structure CapitalLimitsConfig (K : Type*) where
  maxDrawdownAbs : K
  maxDrawdownPct : K
  panicBalanceFloor : K
  maxStake : K
  startingBankroll : K

/-- Why the capital is locked. -/
inductive LockReason (K : Type*) where
  | panicFloor (balance floor : K)
  | maxDrawdownAbs (drawdown limit : K)
  | maxDrawdownPct (drawdown limit : K)
  deriving DecidableEq

/-- Why a bet is refused. -/
inductive Refusal (K : Type*) where
  | locked (reason : Option (LockReason K))
  | stakeExceedsMax (stake maxStake : K)
  | insufficientBalance
  | wouldBreachPanicFloor
  deriving DecidableEq

/-- `InMemoryCapitalGuard`. -/
structure InMemoryCapitalGuard (K : Type*) where
  peakBankroll : K
  currentBankroll : K
  locked : Bool := false
  lockReason : Option (LockReason K) := none

namespace InMemoryCapitalGuard

variable (config : CapitalLimitsConfig K)

/-- A new guard. -/
def create : InMemoryCapitalGuard K where
  peakBankroll := config.startingBankroll
  currentBankroll := config.startingBankroll

/-- `drawdownAbs`. -/
def drawdownAbs (peak current : K) : K := peak - current

/-- `drawdownPct`: the drawdown as a fraction of a positive peak. -/
def drawdownPct (peak current : K) : K :=
  if 0 < peak then drawdownAbs peak current / peak else 0

/-- What `evaluate` finds to lock the capital for. -/
def breach (guard : InMemoryCapitalGuard K) : Option (LockReason K) :=
  let drawdownAbs := drawdownAbs guard.peakBankroll guard.currentBankroll
  let drawdownPct := drawdownPct guard.peakBankroll guard.currentBankroll
  if guard.currentBankroll ≤ config.panicBalanceFloor then
    some (.panicFloor guard.currentBankroll config.panicBalanceFloor)
  else if config.maxDrawdownAbs ≤ drawdownAbs then
    some (.maxDrawdownAbs drawdownAbs config.maxDrawdownAbs)
  else if config.maxDrawdownPct ≤ drawdownPct then
    some (.maxDrawdownPct drawdownPct config.maxDrawdownPct)
  else none

/-- `evaluate`. It only ever locks. -/
def evaluate (guard : InMemoryCapitalGuard K) : InMemoryCapitalGuard K :=
  match guard.breach config with
  | none => guard
  | some reason => { guard with locked := true, lockReason := some reason }

/-- `updateBalance`. -/
def updateBalance (guard : InMemoryCapitalGuard K) (balance : K) : InMemoryCapitalGuard K :=
  evaluate config
    { guard with
      currentBankroll := balance
      peakBankroll := if guard.peakBankroll < balance then balance else guard.peakBankroll }

/-- `canPlaceBet`, as the reason to refuse, if any. The drawdown is not looked at. -/
def canPlaceBet (guard : InMemoryCapitalGuard K) (stake : K) : Option (Refusal K) :=
  if guard.locked then some (.locked guard.lockReason)
  else if config.maxStake < stake then some (.stakeExceedsMax stake config.maxStake)
  else if guard.currentBankroll < stake then some .insufficientBalance
  else if guard.currentBankroll - stake < config.panicBalanceFloor then
    some .wouldBreachPanicFloor
  else none

/-- A stake that is asked for, and the balance that is reported if it is placed. -/
structure Bet (K : Type*) where
  stake : K
  reported : K

/-- A stake is placed if it is allowed, and then its balance is reported. -/
def step (guard : InMemoryCapitalGuard K) (bet : Bet K) : InMemoryCapitalGuard K :=
  match guard.canPlaceBet config bet.stake with
  | none => guard.updateBalance config bet.reported
  | some _ => guard

/-- The balances that are reported along a run. -/
def balances : InMemoryCapitalGuard K → List (Bet K) → List K
  | _, [] => []
  | guard, bet :: rest =>
      match guard.canPlaceBet config bet.stake with
      | none => bet.reported :: balances (guard.step config bet) rest
      | some _ => balances (guard.step config bet) rest

/-- No stake is negative, and a placed one loses at most itself. -/
def Fair (guard : InMemoryCapitalGuard K) (bet : Bet K) : Prop :=
  0 ≤ bet.stake
  ∧ (guard.canPlaceBet config bet.stake = none →
      guard.currentBankroll - bet.stake ≤ bet.reported)

/-- A fall from this peak to this balance is within both drawdown limits. -/
structure WithinDrawdown (peak balance : K) : Prop where
  abs : drawdownAbs peak balance ≤ config.maxDrawdownAbs
  pct : drawdownPct peak balance ≤ config.maxDrawdownPct

/-- A placed stake leaves the drawdown within the limits whatever is reported. -/
def Safe (guard : InMemoryCapitalGuard K) (bet : Bet K) : Prop :=
  guard.canPlaceBet config bet.stake = none → ∀ reported,
    guard.currentBankroll - bet.stake ≤ reported →
    let next := guard.updateBalance config reported
    WithinDrawdown config next.peakBankroll next.currentBankroll

/-- A placed stake fits between the bankroll and both drawdown limits. -/
def StakeFits (guard : InMemoryCapitalGuard K) (bet : Bet K) : Prop :=
  guard.canPlaceBet config bet.stake = none →
    let fallen := drawdownAbs guard.peakBankroll guard.currentBankroll + bet.stake
    fallen ≤ config.maxDrawdownAbs ∧ fallen ≤ config.maxDrawdownPct * guard.peakBankroll

variable {config} {guard : InMemoryCapitalGuard K} {bet : Bet K}

@[simp] theorem evaluate_currentBankroll
    : (guard.evaluate config).currentBankroll = guard.currentBankroll := by
  unfold evaluate
  cases guard.breach config <;> rfl

@[simp] theorem evaluate_peakBankroll
    : (guard.evaluate config).peakBankroll = guard.peakBankroll := by
  unfold evaluate
  cases guard.breach config <;> rfl

@[simp] theorem updateBalance_currentBankroll (balance : K)
    : (guard.updateBalance config balance).currentBankroll = balance := by
  simp [updateBalance]

@[simp] theorem updateBalance_peakBankroll (balance : K)
    : (guard.updateBalance config balance).peakBankroll = max guard.peakBankroll balance := by
  rw [updateBalance, evaluate_peakBankroll]
  split
  · next above => exact (max_eq_right above.le).symm
  · next below => exact (max_eq_left (not_lt.mp below)).symm

/-- What an allowed stake leaves: it is covered, and its loss does not breach the floor. -/
theorem of_canPlaceBet {stake : K} (allowed : guard.canPlaceBet config stake = none)
    : stake ≤ guard.currentBankroll
      ∧ config.panicBalanceFloor ≤ guard.currentBankroll - stake := by
  unfold canPlaceBet at allowed
  split_ifs at allowed with locked excess uncovered breached
  exact ⟨not_lt.mp uncovered, not_lt.mp breached⟩

theorem step_allowed (allowed : guard.canPlaceBet config bet.stake = none)
    : guard.step config bet = guard.updateBalance config bet.reported := by
  simp only [step, allowed]

theorem step_refused {refusal : Refusal K}
    (refused : guard.canPlaceBet config bet.stake = some refusal)
    : guard.step config bet = guard := by
  simp only [step, refused]

/-- A fair step leaves the bankroll at the floor or above. -/
theorem step_floor (above : config.panicBalanceFloor ≤ guard.currentBankroll)
    (fair : Fair config guard bet)
    : config.panicBalanceFloor ≤ (guard.step config bet).currentBankroll := by
  cases asked : guard.canPlaceBet config bet.stake with
  | none =>
      rw [step_allowed asked, updateBalance_currentBankroll]
      exact (of_canPlaceBet asked).2.trans (fair.2 asked)
  | some refusal => rwa [step_refused asked]

/-- The peak is the highest balance so far, by run induction. -/
theorem isPeak_balances (bets : List (Bet K)) {curve : List K}
    (isPeak : IsPeak curve guard.peakBankroll)
    : IsPeak (curve ++ guard.balances config bets)
        (run (step config) guard bets).peakBankroll := by
  induction bets generalizing guard curve with
  | nil => simpa [balances] using isPeak
  | cons bet rest ih =>
      rw [run_cons]
      cases asked : guard.canPlaceBet config bet.stake with
      | none =>
          have next : IsPeak (curve ++ [bet.reported]) (guard.step config bet).peakBankroll := by
            rw [step_allowed asked, updateBalance_peakBankroll]
            exact isPeak.concat bet.reported
          simpa [balances, asked] using ih next
      | some refusal =>
          have next : IsPeak curve (guard.step config bet).peakBankroll := by
            rwa [step_refused asked]
          simpa [balances, asked] using ih next

variable [IsStrictOrderedRing K]

omit [IsStrictOrderedRing K] in
theorem step_le_peak (below : guard.currentBankroll ≤ guard.peakBankroll)
    : (guard.step config bet).currentBankroll ≤ (guard.step config bet).peakBankroll := by
  cases asked : guard.canPlaceBet config bet.stake with
  | none => simp [step_allowed asked]
  | some refusal => rwa [step_refused asked]

omit [IsStrictOrderedRing K] in
/-- At the peak there is no drawdown. -/
theorem withinDrawdown_peak (abs : 0 < config.maxDrawdownAbs) (pct : 0 < config.maxDrawdownPct)
    (peak : K) : WithinDrawdown config peak peak where
  abs := by simpa [drawdownAbs] using abs.le
  pct := by simpa [drawdownPct, drawdownAbs] using pct.le

/-- Below a positive peak the second limit is its fraction of the peak. -/
theorem withinDrawdown_iff {peak balance : K} (positive : 0 < peak)
    : WithinDrawdown config peak balance
      ↔ drawdownAbs peak balance ≤ config.maxDrawdownAbs
        ∧ drawdownAbs peak balance ≤ config.maxDrawdownPct * peak := by
  have fraction : drawdownPct peak balance ≤ config.maxDrawdownPct
      ↔ drawdownAbs peak balance ≤ config.maxDrawdownPct * peak := by
    rw [drawdownPct, if_pos positive, div_le_iff₀ positive]
  exact ⟨fun within => ⟨within.abs, fraction.mp within.pct⟩,
    fun bounds => ⟨bounds.1, fraction.mpr bounds.2⟩⟩

/-- Below a peak that is not positive nothing can be staked. -/
theorem stake_eq_zero (below : guard.currentBankroll ≤ guard.peakBankroll)
    (worthless : guard.peakBankroll ≤ 0) (nonneg : 0 ≤ bet.stake)
    (allowed : guard.canPlaceBet config bet.stake = none)
    : guard.peakBankroll = 0 ∧ guard.currentBankroll = 0 ∧ bet.stake = 0 := by
  have covered := (of_canPlaceBet allowed).1
  refine ⟨?_, ?_, ?_⟩ <;> linarith

/-- A step is safe whatever is reported exactly if its stake fits. -/
theorem safe_iff_stakeFits (abs : 0 < config.maxDrawdownAbs)
    (pct : 0 < config.maxDrawdownPct) (below : guard.currentBankroll ≤ guard.peakBankroll)
    (nonneg : 0 ≤ bet.stake)
    : Safe config guard bet ↔ StakeFits config guard bet := by
  refine forall_congr' fun allowed => ?_
  simp only [updateBalance_currentBankroll, updateBalance_peakBankroll]
  rcases le_or_gt guard.peakBankroll 0 with worthless | positive
  · obtain ⟨noPeak, nothing, noStake⟩ := stake_eq_zero below worthless nonneg allowed
    rw [noPeak, nothing, noStake]
    constructor
    · intro _
      simpa [drawdownAbs] using abs.le
    · intro _ reported more
      rw [sub_zero] at more
      rw [max_eq_right more]
      exact withinDrawdown_peak abs pct reported
  · constructor
    · intro safe
      -- the worst report is the loss of the whole stake
      have worst := safe (guard.currentBankroll - bet.stake) le_rfl
      rw [max_eq_left (by linarith), withinDrawdown_iff positive] at worst
      have lost : drawdownAbs guard.peakBankroll (guard.currentBankroll - bet.stake)
          = drawdownAbs guard.peakBankroll guard.currentBankroll + bet.stake := by
        rw [drawdownAbs, drawdownAbs]
        ring
      rwa [lost] at worst
    · intro fits reported more
      rcases le_total guard.peakBankroll reported with higher | lower
      · rw [max_eq_right higher]
        exact withinDrawdown_peak abs pct reported
      · have fallen : drawdownAbs guard.peakBankroll reported
            ≤ drawdownAbs guard.peakBankroll guard.currentBankroll + bet.stake := by
          rw [drawdownAbs, drawdownAbs]
          linarith
        rw [max_eq_left lower, withinDrawdown_iff positive]
        exact ⟨fallen.trans fits.1, fallen.trans fits.2⟩

/-- A fair step whose stake fits keeps the drawdown within the limits. -/
theorem step_withinDrawdown (abs : 0 < config.maxDrawdownAbs)
    (pct : 0 < config.maxDrawdownPct) (below : guard.currentBankroll ≤ guard.peakBankroll)
    (within : WithinDrawdown config guard.peakBankroll guard.currentBankroll)
    (fair : Fair config guard bet) (fits : StakeFits config guard bet)
    : WithinDrawdown config (guard.step config bet).peakBankroll
        (guard.step config bet).currentBankroll := by
  cases asked : guard.canPlaceBet config bet.stake with
  | none =>
      rw [step_allowed asked]
      exact (safe_iff_stakeFits abs pct below fair.1).mpr fits asked bet.reported
        (fair.2 asked)
  | some refusal => rwa [step_refused asked]

/-- Along every fair run the bankroll stays at the floor or above. The steps are safe whatever
is reported exactly if every stake fits, and then the drawdown from the highest balance so far
stays within both limits.
-/
theorem limits_along_run (config : CapitalLimitsConfig K)
    (above : config.panicBalanceFloor < config.startingBankroll)
    (abs : 0 < config.maxDrawdownAbs) (pct : 0 < config.maxDrawdownPct)
    (bets : List (Bet K)) (fair : Always (step config) (Fair config) (create config) bets)
    : let reached := run (step config) (create config) bets
      let curve := config.startingBankroll :: balances config (create config) bets
      config.panicBalanceFloor ≤ reached.currentBankroll
      ∧ (Always (step config) (Safe config) (create config) bets
          ↔ Always (step config) (StakeFits config) (create config) bets)
      ∧ (Always (step config) (StakeFits config) (create config) bets →
          ∃ peak, IsPeak curve peak ∧ WithinDrawdown config peak reached.currentBankroll) := by
  let Below : InMemoryCapitalGuard K → Prop := fun guard =>
    guard.currentBankroll ≤ guard.peakBankroll
  have start : Below (create config) := le_rfl
  refine ⟨?_, ⟨?_, ?_⟩, ?_⟩
  · exact fair.invariant (fun _ _ => step_floor) above.le
  · intro safe
    refine (fair.and safe).of_invariant (fun guard bet below law => ?_) start
    exact ⟨(safe_iff_stakeFits abs pct below law.1.1).mp law.2, step_le_peak below⟩
  · intro fits
    refine (fair.and fits).of_invariant (fun guard bet below law => ?_) start
    exact ⟨(safe_iff_stakeFits abs pct below law.1.1).mpr law.2, step_le_peak below⟩
  · intro fits
    refine ⟨_, isPeak_balances bets (isPeak_singleton (create config).peakBankroll), ?_⟩
    let Inv : InMemoryCapitalGuard K → Prop := fun guard =>
      Below guard ∧ WithinDrawdown config guard.peakBankroll guard.currentBankroll
    have initial : Inv (create config) := ⟨start, withinDrawdown_peak abs pct _⟩
    have kept : ∀ guard bet, Inv guard →
        Fair config guard bet ∧ StakeFits config guard bet → Inv (guard.step config bet) :=
      fun guard bet inv law =>
        ⟨step_le_peak inv.1, step_withinDrawdown abs pct inv.1 inv.2 law.1 law.2⟩
    exact ((fair.and fits).invariant kept initial).2

/-- A bankroll of 5000 with a floor of 100, that may fall by 1000 and by a fifth. -/
def fifthOfFiveThousand : CapitalLimitsConfig ℚ where
  maxDrawdownAbs := 1000
  maxDrawdownPct := 1 / 5
  panicBalanceFloor := 100
  maxStake := 700
  startingBankroll := 5000

/-- A stake of 700 that is lost, and one of 300 that is won. -/
def lossAndGain : List (Bet ℚ) :=
  [{ stake := 700, reported := 4300 }, { stake := 300, reported := 4900 }]

/-- Those two stakes fit. -/
theorem lossAndGain_limits
    : let start := create fifthOfFiveThousand
      let reached := run (step fifthOfFiveThousand) start lossAndGain
      100 ≤ reached.currentBankroll
      ∧ ∃ peak, IsPeak (5000 :: balances fifthOfFiveThousand start lossAndGain) peak
        ∧ WithinDrawdown fifthOfFiveThousand peak reached.currentBankroll := by
  have fair : Always (step fifthOfFiveThousand) (Fair fifthOfFiveThousand)
      (create fifthOfFiveThousand) lossAndGain := by
    refine ⟨⟨?_, fun _ => ?_⟩, ⟨?_, fun _ => ?_⟩, trivial⟩ <;> decide +kernel
  have fits : Always (step fifthOfFiveThousand) (StakeFits fifthOfFiveThousand)
      (create fifthOfFiveThousand) lossAndGain := by
    refine ⟨fun _ => ?_, fun _ => ?_, trivial⟩ <;> decide +kernel
  have limits := limits_along_run fifthOfFiveThousand (by decide +kernel) (by decide +kernel)
    (by decide +kernel) lossAndGain fair
  exact ⟨limits.1, limits.2.2 fits⟩

/-- Two lost stakes of 700 are both allowed, and the second one makes the bankroll fall by more
than 1000 and by more than a fifth.
-/
theorem two_losses_exceed
    : let start := create fifthOfFiveThousand
      let losses := [{ stake := 700, reported := 4300 }, { stake := 700, reported := 3600 }]
      let reached := run (step fifthOfFiveThousand) start losses
      Always (step fifthOfFiveThousand) (Fair fifthOfFiveThousand) start losses
      ∧ IsPeak (5000 :: balances fifthOfFiveThousand start losses) 5000
      ∧ fifthOfFiveThousand.maxDrawdownAbs < drawdownAbs 5000 reached.currentBankroll
      ∧ fifthOfFiveThousand.maxDrawdownPct < drawdownPct 5000 reached.currentBankroll := by
  intro start losses reached
  refine ⟨⟨⟨?_, fun _ => ?_⟩, ⟨?_, fun _ => ?_⟩, trivial⟩, ?_, ?_, ?_⟩
  · decide +kernel
  · decide +kernel
  · decide +kernel
  · decide +kernel
  · have peak : (run (step fifthOfFiveThousand) start losses).peakBankroll = 5000 := by
      decide +kernel
    have isPeak : IsPeak (5000 :: balances fifthOfFiveThousand start losses)
        (run (step fifthOfFiveThousand) start losses).peakBankroll :=
      isPeak_balances losses (isPeak_singleton start.peakBankroll)
    rwa [peak] at isPeak
  · decide +kernel
  · decide +kernel

end InMemoryCapitalGuard

end CrashWave.Capital
