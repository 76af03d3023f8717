import CrashWave.Betting.RiskStateProvider
import CrashWave.JavaScript.Number
import CrashWave.JavaScript.Value
import CrashWave.Runs.Basic

/-! `BalanceTracker`, the balance that was last observed and whether the last attempt to read it
failed; `ExecutionSafeguards.checkPreFlight`, the checks before a live action, where a reason keeps
the values that the source writes into its text; and whether an unknown balance closes both
entry checks. The tracker remembers a failed parse next to the balance it had before; the risk
input takes the balance without the mark, and the safeguards take a balance that is no number
for a sufficient one. The times and the identifiers of a snapshot are left out, since neither
entry check reads them.
-/

namespace CrashWave.Ledger

open JavaScript

/-- Where a balance was read. -/
inductive BalanceSource where
  | ui
  | api
  | websocket
  | estimated
  deriving DecidableEq

namespace BalanceTracker

/-- `BalanceSnapshot`. -/
structure Snapshot where
  balance : Number
  source : BalanceSource
  deriving DecidableEq

end BalanceTracker

/-- `BalanceTracker`. -/
structure BalanceTracker where
  maxHistorySize : Nat := 1000
  snapshots : List BalanceTracker.Snapshot := []
  lastKnownBalance : Option Number := none
  lastKnownSource : Option BalanceSource := none
  unparseable : Bool := false
  deriving DecidableEq

namespace BalanceTracker

/-- The history that is kept: `slice(-maxHistorySize)` of one that is too long, which keeps
everything for a size of zero.
-/
def trimmed (maxHistorySize : Nat) (snapshots : List Snapshot) : List Snapshot :=
  if maxHistorySize < snapshots.length ∧ maxHistorySize ≠ 0 then
    snapshots.drop (snapshots.length - maxHistorySize)
  else snapshots

/-- `record`. Whatever its balance, a snapshot counts as a successful parse. -/
def record (tracker : BalanceTracker) (snapshot : Snapshot) : BalanceTracker :=
  { tracker with
    snapshots := trimmed tracker.maxHistorySize (tracker.snapshots ++ [snapshot])
    lastKnownBalance := some snapshot.balance
    lastKnownSource := some snapshot.source
    unparseable := false }

/-- `markUnparseable`. The balance that was known stays. -/
def markUnparseable (tracker : BalanceTracker) : BalanceTracker :=
  { tracker with unparseable := true }

/-- `clearUnparseable`. -/
def clearUnparseable (tracker : BalanceTracker) : BalanceTracker :=
  { tracker with unparseable := false }

/-- `clear`. The mark stays. -/
def clear (tracker : BalanceTracker) : BalanceTracker :=
  { tracker with snapshots := [], lastKnownBalance := none, lastKnownSource := none }

/-- `getCurrentBalance`, which does not look at the mark. -/
def getCurrentBalance (tracker : BalanceTracker) : Option Number := tracker.lastKnownBalance

/-- `getConservativeBalance`. -/
def getConservativeBalance (tracker : BalanceTracker) (buffer : Number) : Option Number :=
  match tracker.lastKnownBalance with
  | none => none
  | some balance =>
      if tracker.unparseable then none else some (Number.max 0 (balance - buffer))

/-- The calls that change a tracker. -/
inductive Operation where
  | record (snapshot : Snapshot)
  | markUnparseable
  | clearUnparseable
  | clear
  deriving DecidableEq

/-- One call. -/
def step (tracker : BalanceTracker) : Operation → BalanceTracker
  | .record snapshot => tracker.record snapshot
  | .markUnparseable => tracker.markUnparseable
  | .clearUnparseable => tracker.clearUnparseable
  | .clear => tracker.clear

/-- A failed parse, or a snapshot whose balance is no number. -/
def Operation.LosesBalance : Operation → Prop
  | .markUnparseable => True
  | .record snapshot => snapshot.balance = .nan
  | .clearUnparseable | .clear => False

/-- A snapshot whose balance is a number. -/
def Operation.Valid : Operation → Prop
  | .record snapshot => snapshot.balance ≠ .nan
  | .markUnparseable | .clearUnparseable | .clear => False

/-- The calls have lost the balance, and no valid snapshot has come in since. -/
def BalanceUnknown (operations : List Operation) : Prop :=
  ∃ before lost after,
    operations = before ++ lost :: after
    ∧ lost.LosesBalance ∧ ∀ later ∈ after, ¬ later.Valid

/-- A snapshot without a buffer is what is known, but never below zero. -/
theorem getConservativeBalance_zero {tracker : BalanceTracker} {balance : Number}
    (known : tracker.lastKnownBalance = some balance) (parsed : tracker.unparseable = false)
    : tracker.getConservativeBalance 0 = some (Number.max 0 balance) := by
  have unbuffered : balance - 0 = balance := by
    cases balance with
    | finite value =>
        exact congrArg Number.finite (by simp : value + -((0 : Nat) : ℚ) = value)
    | infinity negative => rfl
    | nan => rfl
  simp [getConservativeBalance, known, parsed, unbuffered]

end BalanceTracker

end CrashWave.Ledger

-----------------------------------------------------------------------------------------
-- The checks before a live action
-----------------------------------------------------------------------------------------

namespace CrashWave.Betting

open CrashWave.Core CrashWave.Ledger JavaScript Runs

/-- What the checks read of `SafeguardsConfig`. -/
structure SafeguardsConfig where
  minBalanceForEntry : Number := 700
  balanceBuffer : Number := 700

/-- What the health of the system reads of a latency. -/
structure LatencySnapshot where
  operation : String
  exceeded : Bool

inductive HealthStatus where
  | healthy
  | degraded
  | critical
  deriving DecidableEq

/-- Why an action is refused. -/
inductive PreFlightReason where
  | modeNotLive
  | balanceUnparseable
  | balanceUnknown
  | insufficientBalance (currentBalance requiredBalance : Number)
  | dailyLimitReached (entriesToday : Nat) (maxEntries : Number)
  | healthCritical
  deriving DecidableEq

/-- `PreFlightResult`. -/
structure PreFlightResult where
  approved : Bool
  reason : Option PreFlightReason := none
  currentBalance : Option Number := none
  dailyEntriesRemaining : Option Number := none
  healthStatus : Option HealthStatus := none
  deriving DecidableEq

/-- `getLatencyViolationRate`. -/
def getLatencyViolationRate (latencyHistory : List LatencySnapshot) (operation : String) : ℚ :=
  let samples := latencyHistory.filter (·.operation = operation)
  if samples.length = 0 then 0
  else (samples.filter (·.exceeded)).length / samples.length

/-- `getHealthStatus`. -/
def getHealthStatus (latencyHistory : List LatencySnapshot) : HealthStatus :=
  let placement := getLatencyViolationRate latencyHistory "PLACED"
  let cashOut := getLatencyViolationRate latencyHistory "CASHED_OUT"
  if 1 / 2 < placement ∨ 1 / 2 < cashOut then .critical
  else if 1 / 5 < placement ∨ 1 / 5 < cashOut then .degraded
  else .healthy

/-- The safeguards with what their sources answer at the time of a check. -/
structure ExecutionSafeguards where
  tracker : BalanceTracker
  /-- `dailyCounter.getCount()`. -/
  entriesToday : Nat
  appConfig : Value
  config : SafeguardsConfig := {}
  latencyHistory : List LatencySnapshot := []

namespace ExecutionSafeguards

/-- `appConfig.betting.maxDailyEntries`, where a missing bound is no number. -/
def maxEntries (safeguards : ExecutionSafeguards) : Number :=
  ((safeguards.appConfig.getPath ["betting", "maxDailyEntries"]).map Value.toNumber).getD .nan

/-- `minBalanceForEntry + balanceBuffer + stake`. -/
def requiredBalance (config : SafeguardsConfig) (stake : Number) : Number :=
  config.minBalanceForEntry + config.balanceBuffer + stake

/-- The daily limit and the health, once the balance is found sufficient. -/
def checkLimits (safeguards : ExecutionSafeguards) (currentBalance : Number)
    : PreFlightResult :=
  let entriesToday := safeguards.entriesToday
  let maxEntries := safeguards.maxEntries
  let remaining := maxEntries - .finite entriesToday
  let healthStatus := getHealthStatus safeguards.latencyHistory
  if maxEntries ≤ .finite entriesToday then
    { approved := false
      reason := some (.dailyLimitReached entriesToday maxEntries)
      currentBalance := some currentBalance
      dailyEntriesRemaining := some 0 }
  else if healthStatus = .critical then
    { approved := false
      reason := some .healthCritical
      currentBalance := some currentBalance
      dailyEntriesRemaining := some remaining
      healthStatus := some healthStatus }
  else
    { approved := true
      currentBalance := some currentBalance
      dailyEntriesRemaining := some remaining
      healthStatus := some healthStatus }

/-- `checkPreFlight` of a request with this stake. -/
def checkPreFlight (safeguards : ExecutionSafeguards) (stake : Number) : PreFlightResult :=
  let tracker := safeguards.tracker
  if ¬ Value.isText "live" (safeguards.appConfig.getPath ["system", "mode"]) then
    { approved := false, reason := some .modeNotLive }
  else if tracker.unparseable then
    { approved := false, reason := some .balanceUnparseable }
  else
    match (tracker.getConservativeBalance 0).or tracker.getCurrentBalance with
    | none => { approved := false, reason := some .balanceUnknown }
    | some currentBalance =>
        let required := requiredBalance safeguards.config stake
        if currentBalance < required then
          { approved := false
            reason := some (.insufficientBalance currentBalance required)
            currentBalance := some currentBalance }
        else safeguards.checkLimits currentBalance

/-- An approved entry has a balance that parsed and is not below the required one. -/
theorem balance_of_approved {safeguards : ExecutionSafeguards} {stake : Number}
    (approved : (safeguards.checkPreFlight stake).approved = true)
    : safeguards.tracker.unparseable = false
      ∧ ∃ balance, safeguards.tracker.lastKnownBalance = some balance
        ∧ ¬ Number.max 0 balance < requiredBalance safeguards.config stake := by
  simp only [checkPreFlight] at approved
  split at approved
  · exact absurd approved Bool.false_ne_true
  · split at approved
    · exact absurd approved Bool.false_ne_true
    · next parsed =>
        have parsed : safeguards.tracker.unparseable = false := Bool.eq_false_iff.mpr parsed
        refine ⟨parsed, ?_⟩
        cases known : safeguards.tracker.lastKnownBalance with
        | none =>
            simp [BalanceTracker.getConservativeBalance, BalanceTracker.getCurrentBalance,
              known] at approved
        | some balance =>
            rw [BalanceTracker.getConservativeBalance_zero known parsed,
              Option.some_or] at approved
            refine ⟨balance, rfl, fun below => ?_⟩
            simp [below] at approved

end ExecutionSafeguards

-----------------------------------------------------------------------------------------
-- An unknown balance
-----------------------------------------------------------------------------------------

/-- An entry with the settings that both checks judge it by. -/
structure EntrySettings where
  appConfig : Value
  safeguards : SafeguardsConfig
  stake : Number

/-- What else the checks look at. The provider takes its settings and its balance from
elsewhere.
-/
structure EntrySurroundings where
  provider : RiskStateProvider
  roundState : Option RoundState
  signal : Option RiskSignal
  circuitOpen : Bool
  buildTime : Number
  riskTime : Number
  entriesToday : Nat
  latencyHistory : List LatencySnapshot

namespace EntrySettings

variable (settings : EntrySettings) (tracker : BalanceTracker)
  (surroundings : EntrySurroundings)

/-- The state that `RiskStateProvider.build` hands to the risk engine. -/
def riskInput : RiskEvaluationInput :=
  let provider :=
    { surroundings.provider with
      config := settings.appConfig
      currentBalance := tracker.getCurrentBalance }
  { provider.build surroundings.buildTime surroundings.roundState with
    predictionSignal := surroundings.signal }

/-- `RiskEngine.evaluate` on that state. -/
def riskVerdict : RiskEvaluationResult :=
  evaluateRisk surroundings.circuitOpen surroundings.riskTime
    (settings.riskInput tracker surroundings)

/-- `ExecutionSafeguards.checkPreFlight` of the entry. -/
def preFlight : PreFlightResult :=
  ExecutionSafeguards.checkPreFlight
    { tracker
      entriesToday := surroundings.entriesToday
      appConfig := settings.appConfig
      config := settings.safeguards
      latencyHistory := surroundings.latencyHistory }
    settings.stake

/-- In live mode both checks reject the entry, whatever else they find. -/
def Closed : Prop :=
  ∀ surroundings, (settings.riskInput tracker surroundings).mode = .live →
    (settings.riskVerdict tracker surroundings).approved = false
    ∧ (settings.preFlight tracker surroundings).approved = false

/-- The balance that the risk engine asks for. -/
def riskRequirement : Number :=
  configNumber settings.appConfig ["betting", "stakePerEntry"] 700
    + configNumber settings.appConfig ["risk", "balanceBuffer"] 0

/-- The balance that the safeguards ask for. -/
def preFlightRequirement : Number :=
  ExecutionSafeguards.requiredBalance settings.safeguards settings.stake

/-- The calls that leave the checks closed: no balance that is no number is recorded, the
parse fails only while the balance known from before would not do for the risk engine, and
the mark is taken back only while that balance would not do for the safeguards.
-/
def KeepsClosed : BalanceTracker.Operation → Prop
  | .record snapshot => snapshot.balance ≠ .nan
  | .markUnparseable =>
      ∀ balance, tracker.lastKnownBalance = some balance → ¬ settings.riskRequirement ≤ balance
  | .clearUnparseable =>
      tracker.unparseable = true →
        ∀ balance, tracker.lastKnownBalance = some balance →
          Number.max 0 balance < settings.preFlightRequirement
  | .clear => True

/-- The balance known from before, if any, does for neither check. -/
def Insufficient : Prop :=
  ∀ balance, tracker.lastKnownBalance = some balance →
    ¬ settings.riskRequirement ≤ balance
    ∧ (tracker.unparseable = false →
        Number.max 0 balance < settings.preFlightRequirement)

variable {settings tracker surroundings}

/-- The risk engine approves no live entry on a balance that does not do. -/
theorem Insufficient.riskVerdict (short : settings.Insufficient tracker)
    (live : (settings.riskInput tracker surroundings).mode = .live)
    : (settings.riskVerdict tracker surroundings).approved = false := by
  apply Bool.eq_false_iff.mpr
  intro approved
  obtain ⟨-, hard, -⟩ := evaluateRisk_approved.mp approved
  obtain ⟨known, enough⟩ := ((hardConditions_live_iff live).mp hard).balanceSufficient
  change tracker.lastKnownBalance ≠ none at known
  change settings.riskRequirement ≤ tracker.lastKnownBalance.getD 0 at enough
  obtain ⟨balance, found⟩ := Option.ne_none_iff_exists'.mp known
  rw [found, Option.getD_some] at enough
  exact (short balance found).1 enough

/-- The safeguards approve no entry on such a balance either. -/
theorem Insufficient.preFlight (short : settings.Insufficient tracker)
    : (settings.preFlight tracker surroundings).approved = false := by
  apply Bool.eq_false_iff.mpr
  intro approved
  obtain ⟨parsed, balance, known, enough⟩ := ExecutionSafeguards.balance_of_approved approved
  exact enough ((short balance known).2 parsed)

theorem Insufficient.closed (short : settings.Insufficient tracker) : settings.Closed tracker :=
  fun _ live => ⟨short.riskVerdict live, short.preFlight⟩

/-- A call that loses the balance leaves one that does not do. -/
theorem insufficient_of_losesBalance {operation : BalanceTracker.Operation}
    (lost : operation.LosesBalance) (kept : settings.KeepsClosed tracker operation)
    : settings.Insufficient (tracker.step operation) := by
  cases operation with
  | record snapshot => exact absurd lost kept
  | markUnparseable => exact fun balance known => ⟨kept balance known, nofun⟩
  | clearUnparseable => exact lost.elim
  | clear => exact lost.elim

/-- Every call but a valid snapshot leaves it so. -/
theorem Insufficient.step {operation : BalanceTracker.Operation}
    (short : settings.Insufficient tracker)
    (kept : settings.KeepsClosed tracker operation ∧ ¬ operation.Valid)
    : settings.Insufficient (tracker.step operation) := by
  obtain ⟨kept, invalid⟩ := kept
  cases operation with
  | record snapshot => exact absurd kept invalid
  | markUnparseable => exact fun balance known => ⟨kept balance known, nofun⟩
  | clearUnparseable =>
      intro balance known
      refine ⟨(short balance known).1, fun _ => ?_⟩
      -- the mark was up, or the balance did not do for the safeguards already
      cases parsed : tracker.unparseable with
      | true => exact kept parsed balance known
      | false => exact (short balance known).2 parsed
  | clear => exact nofun

/-- In a run whose calls all leave the checks closed, they are closed in every state from the
loss of the balance to the next valid snapshot.
-/
theorem closed_while_balanceUnknown (settings : EntrySettings) (maxHistorySize : Nat)
    {operations : List BalanceTracker.Operation}
    (lawful
      : Always BalanceTracker.step settings.KeepsClosed { maxHistorySize } operations)
    {before after : List BalanceTracker.Operation} (split : operations = before ++ after)
    (unknown : BalanceTracker.BalanceUnknown before)
    : settings.Closed (run BalanceTracker.step { maxHistorySize } before) := by
  subst split
  obtain ⟨earlier, lost, later, rfl, loses, invalid⟩ := unknown
  have upTo := (always_append.mp lawful).1
  obtain ⟨-, keptLost, keptLater⟩ := always_append.mp upTo
  have short := insufficient_of_losesBalance loses keptLost
  have final := (keptLater.and (Always.of_forall_mem fun operation member _ =>
    invalid operation member)).invariant (fun _ _ => Insufficient.step) short
  have reached : run BalanceTracker.step { maxHistorySize } (earlier ++ lost :: later)
      = run BalanceTracker.step
          (BalanceTracker.step (run BalanceTracker.step { maxHistorySize } earlier) lost)
          later := by
    simp [run]
  rw [reached]
  exact final.closed

/-- A live entry of 700 with the default buffers. -/
def liveEntry : EntrySettings where
  appConfig := .object [("system", .object [("mode", .string "live")]),
    ("betting", .object [("stakePerEntry", .number 700), ("maxDailyEntries", .number 100)]),
    ("risk", .object [("balanceBuffer", .number 700)])]
  safeguards := {}
  stake := 700

/-- Healthy surroundings in which a round starts with a good signal. -/
def readyToEnter : EntrySurroundings where
  provider :=
    { config := .null
      currentBalance := none
      dailyCount := some 0
      context := none
      live :=
        { browserHealthy := some true
          gameAdapterHealthy := some true
          cooldownElapsed := some true
          sessionAuthenticated := some true
          gameLoaded := some true
          operatorAuthorized := some true }
      lastConfirmedEntries := 0 }
  roundState := some (.starting "r1" .high)
  signal := some
    { predictionId := "p1"
      probability := .finite (1 / 2)
      confidence := .finite (1 / 2)
      target := 2
      expiresAt := .iso 60000
      dataQuality := 1 }
  circuitOpen := false
  buildTime := 1000
  riskTime := 1000
  entriesToday := 0
  latencyHistory := []

/-- A balance too small for the entry, and then a failed parse. -/
def smallBalanceLost : List BalanceTracker.Operation :=
  [.record { balance := 900, source := .ui }, .markUnparseable, .clearUnparseable]

/-- The mark may be taken back again while the balance is that small. -/
theorem smallBalanceLost_closed
    : liveEntry.Closed (run BalanceTracker.step { maxHistorySize := 1000 } smallBalanceLost) := by
  have lawful : Always BalanceTracker.step liveEntry.KeepsClosed { maxHistorySize := 1000 }
      smallBalanceLost := by
    refine ⟨nofun, ?_, ?_, trivial⟩
    · rintro _ ⟨⟩
      decide +kernel
    · rintro - _ ⟨⟩
      decide +kernel
  have unknown : BalanceTracker.BalanceUnknown smallBalanceLost :=
    ⟨[.record { balance := 900, source := .ui }], .markUnparseable, [.clearUnparseable], rfl,
      trivial, by simp [BalanceTracker.Operation.Valid]⟩
  exact closed_while_balanceUnknown liveEntry 1000 lawful (List.append_nil _).symm unknown

/-- After a failed parse the risk engine approves an entry on the balance known from before,
and the safeguards approve one on a balance that is no number.
-/
theorem unknownBalance_approved
    : (let failed := [.record { balance := 5000, source := .api }, .markUnparseable]
      let tracker := run BalanceTracker.step {} failed
      BalanceTracker.BalanceUnknown failed
      ∧ (liveEntry.riskVerdict tracker readyToEnter).approved = true
      ∧ ¬ liveEntry.Closed tracker)
      ∧ (let noNumber := [.record { balance := .nan, source := .api }]
        let tracker := run BalanceTracker.step {} noNumber
        BalanceTracker.BalanceUnknown noNumber
        ∧ (liveEntry.preFlight tracker readyToEnter).approved = true
        ∧ ¬ liveEntry.Closed tracker) := by
  have stale
      : (liveEntry.riskVerdict
          (run BalanceTracker.step {}
            [.record { balance := 5000, source := .api }, .markUnparseable])
          readyToEnter).approved = true := by
    decide +kernel
  have noNumber
      : (liveEntry.preFlight
          (run BalanceTracker.step {} [.record { balance := .nan, source := .api }])
          readyToEnter).approved = true := by
    decide +kernel
  constructor
  · refine ⟨⟨[_], .markUnparseable, [], rfl, trivial, nofun⟩, stale, fun closed => ?_⟩
    exact absurd stale (Bool.eq_false_iff.mp (closed readyToEnter (by decide +kernel)).1)
  · refine ⟨⟨[], _, [], rfl, rfl, nofun⟩, noNumber, fun closed => ?_⟩
    exact absurd noNumber (Bool.eq_false_iff.mp (closed readyToEnter (by decide +kernel)).2)

end EntrySettings

end CrashWave.Betting
