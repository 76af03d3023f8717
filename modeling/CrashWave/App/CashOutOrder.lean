import CrashWave.App.Orchestration
import CrashWave.Betting.ExecutionModeGate
import CrashWave.JavaScript.Number
import CrashWave.Runs.Basic
import CrashWave.Types

/-! Cash-outs against crashes: the live cash-out executor, a gated click on the page and the state
it reports; when the live bridge requests one, and what the executor may say about it.
-/

namespace CrashWave.Betting

open JavaScript

/-- A call of a cash-out to the page. The last one, which the adapters of the cash-out
controller offer, waits until the game confirms the cash-out.
-/
inductive CashOutCall where
  | waitForButton (visible : Bool)
  | click (clicked : Bool)
  | waitForCashOutConfirmation (confirmed : Bool)
  deriving DecidableEq

/-- The result of a live cash-out. -/
structure LiveCashOutResult where
  success : Bool
  betId : String
  roundId : String
  state : BetState
  cashOutMultiplier : Option Number := none
  pnl : Option Number := none
  error : Option String
  deriving DecidableEq

/-- The executor: whether a page that is not closed is bound, and the mode it was built in. -/
structure LiveCashOutExecutor where
  pageUsable : Bool
  systemMode : Option String
  stopped : Bool := false
  targetMultiplier : Number := .finite (13 / 10)

/-- What the page does: the message it throws while the button is awaited or clicked. -/
structure CashOutPage where
  waitError : Option String := none
  clickError : Option String := none
  deriving DecidableEq

/-- What a cash-out returns, with the calls it made. -/
structure CashOutOutcome where
  result : LiveCashOutResult
  calls : List CashOutCall := []

/-- A cash-out that failed. -/
def cashOutFailed (betId roundId error : String) : LiveCashOutResult where
  success := false
  betId := betId
  roundId := roundId
  state := .failed
  error := some error

/-- The gate of the executor; its own mode stands before the one of the environment. -/
def LiveCashOutExecutor.blocked (executor : LiveCashOutExecutor) (env : ExecutionEnv)
    (dryRun : Bool) : Option String :=
  let mode := toLowerCase ((executor.systemMode.or env.appSystemMode).getD "")
  realExecutionBlockReason env dryRun (some mode)

/-- `cashOut`: the click that does not throw is reported as a cash-out. -/
def LiveCashOutExecutor.cashOut (executor : LiveCashOutExecutor) (env : ExecutionEnv)
    (page : CashOutPage) (betId roundId : String) (dryRun : Bool) : CashOutOutcome :=
  match executor.blocked env dryRun with
  | some reason => { result := cashOutFailed betId roundId reason }
  | none =>
      if executor.stopped ∨ !executor.pageUsable then
        { result := cashOutFailed betId roundId "PAGE_OR_STOPPED" }
      else
        match page.waitError, page.clickError with
        | some error, _ =>
            { result := cashOutFailed betId roundId error, calls := [.waitForButton false] }
        | none, some error =>
            { result := cashOutFailed betId roundId error
              calls := [.waitForButton true, .click false] }
        | none, none =>
            { result :=
                { success := true
                  betId := betId
                  roundId := roundId
                  state := .cashedOut
                  cashOutMultiplier := some executor.targetMultiplier
                  error := none }
              calls := [.waitForButton true, .click true] }

/-- The outcome reports `CASHED_OUT` only with a confirmation of the cash-out. -/
def CashOutOutcome.Confirmed (outcome : CashOutOutcome) : Prop :=
  outcome.result.state = .cashedOut → .waitForCashOutConfirmation true ∈ outcome.calls

instance (outcome : CashOutOutcome) : Decidable outcome.Confirmed :=
  inferInstanceAs (Decidable (_ → _))

/-- The click of the executor goes through: the gate is open, the page is usable, and neither
the wait for the button nor the click throws.
-/
def LiveCashOutExecutor.ClicksThrough (executor : LiveCashOutExecutor) (env : ExecutionEnv)
    (page : CashOutPage) (dryRun : Bool) : Prop :=
  executor.blocked env dryRun = none ∧ executor.stopped = false
  ∧ executor.pageUsable = true ∧ page.waitError = none ∧ page.clickError = none

/-- A report of the executor is confirmed exactly when its click does not go through. -/
theorem cashOut_confirmed_iff (executor : LiveCashOutExecutor) (env : ExecutionEnv)
    (page : CashOutPage) (betId roundId : String) (dryRun : Bool)
    : (executor.cashOut env page betId roundId dryRun).Confirmed
      ↔ ¬ executor.ClicksThrough env page dryRun := by
  unfold LiveCashOutExecutor.cashOut LiveCashOutExecutor.ClicksThrough
    CashOutOutcome.Confirmed
  cases executor.blocked env dryRun with
  | some reason => simp [cashOutFailed]
  | none =>
      by_cases unusable : executor.stopped = true ∨ executor.pageUsable = false
      · rcases unusable with stopped | closed
        · simp [stopped, cashOutFailed]
        · simp [closed, cashOutFailed]
      · simp only [not_or, Bool.not_eq_true, Bool.not_eq_false] at unusable
        obtain ⟨active, usable⟩ := unusable
        cases page.waitError with
        | some error => simp [active, usable, cashOutFailed]
        | none =>
            cases page.clickError with
            | some error => simp [active, usable, cashOutFailed]
            | none => simp [active, usable]

end CrashWave.Betting

-----------------------------------------------------------------------------------------
-- Cash-outs against crashes
-----------------------------------------------------------------------------------------

namespace CrashWave.App

open CrashWave.Betting CrashWave.Core CrashWave.DryRun CrashWave.Prediction JavaScript Runs

/-- The rounds whose crash has been observed, after an input. -/
def observeCrash (crashed : List String) (_ : Application) : Input → List String
  | .roundCrashed payload => payload.roundId.toList ++ crashed
  | _ => crashed

/-- The application with the rounds that have crashed. -/
def crashStep : Application × List String → Input → Application × List String :=
  watched Application.next observeCrash

/-- The input requests a cash-out only for a round whose crash has not been observed. -/
def CashOutBeforeCrash (state : Application × List String) (input : Input) : Prop :=
  ∀ roundId, .cashOut roundId ∈ (state.1.step input).2
    → roundId ∉ observeCrash state.2 state.1 input

/-- The input is no valid crash of a round with an open live bet, in live mode and with a
cash-out executor.
-/
def CrashesNoOpenBet (app : Application) (input : Input) : Prop :=
  ∀ payload roundId crashPoint, input = .roundCrashed payload
    → payload.valid = some (roundId, crashPoint)
    → bridgeMode app.runtime.config "" = "live" → app.liveCashOutExecutor = true
    → roundId ∉ app.openLiveBets

/-- A valid payload names its round. -/
theorem roundId_of_valid {payload : CrashPayload} {roundId : String} {crashPoint : Number}
    (valid : payload.valid = some (roundId, crashPoint)) : payload.roundId = some roundId := by
  unfold CrashPayload.valid at valid
  cases given : payload.roundId with
  | none => simp [given] at valid
  | some other =>
      simp only [given, Option.getD_some] at valid
      split at valid
      · cases valid
      · simpa using congrArg (Option.map Prod.fst) valid

/-- A crash requests a cash-out exactly for a round with an open live bet, in live mode and
with a cash-out executor.
-/
theorem cashOut_mem_crashRound {app : Application} {payload : CrashPayload} {roundId : String}
    : .cashOut roundId ∈ (app.crashRound payload).2
      ↔ ∃ crashPoint, payload.valid = some (roundId, crashPoint)
        ∧ bridgeMode app.runtime.config "" = "live" ∧ app.liveCashOutExecutor = true
        ∧ roundId ∈ app.openLiveBets := by
  simp only [Application.crashRound, onRoundCrashedForLive, Application.liveDeps]
  by_cases live : bridgeMode app.runtime.config "" = "live"
  · cases valid : payload.valid with
    | none => simp [live]
    | some crash =>
        obtain ⟨rid, crashPoint⟩ := crash
        by_cases due : rid ∈ app.openLiveBets ∧ app.liveCashOutExecutor = true
        · simp only [live, due, and_self, if_true, Option.map_some, Option.toList_some,
            List.mem_singleton, Action.cashOut.injEq, Option.some.injEq, Prod.mk.injEq,
            not_true_eq_false, if_false, true_and, ne_eq]
          constructor
          · rintro rfl
            exact ⟨crashPoint, ⟨rfl, rfl⟩, due.1⟩
          · rintro ⟨_, ⟨rfl, -⟩, -⟩
            rfl
        · simp only [live, due, if_false, Option.map_none, Option.toList_none,
            List.not_mem_nil, false_iff, ne_eq, not_true_eq_false, Option.some.injEq,
            Prod.mk.injEq]
          rintro ⟨_, ⟨rfl, -⟩, -, executor, openBet⟩
          exact due ⟨openBet, executor⟩
  · simp [live]

/-- An input obeys the order exactly when it crashes no round with an open live bet. -/
theorem cashOutBeforeCrash_iff {state : Application × List String} {input : Input}
    : CashOutBeforeCrash state input ↔ CrashesNoOpenBet state.1 input := by
  constructor
  · rintro ordered payload roundId crashPoint rfl valid live executor openBet
    refine ordered roundId ?_ ?_
    · exact cashOut_mem_crashRound.mpr ⟨crashPoint, valid, live, executor, openBet⟩
    · simp [observeCrash, roundId_of_valid valid]
  · intro silent roundId member _
    cases Application.causes_of_step member with
    | cashesOut requested =>
        obtain ⟨crashPoint, valid, live, executor, openBet⟩ :=
          cashOut_mem_crashRound.mp requested
        exact silent _ roundId crashPoint rfl valid live executor openBet

/-- In a run the live bridge requests cash-outs before their crashes exactly when no step is a
valid crash of a round with an open live bet; and a report of the executor is confirmed
exactly when its click does not go through.
-/
theorem cashOut_lawful_iff (app : Application) (inputs : List Input)
    : (Always crashStep CashOutBeforeCrash (app, []) inputs
        ↔ Always crashStep (fun state input => CrashesNoOpenBet state.1 input) (app, []) inputs)
      ∧ ∀ (executor : LiveCashOutExecutor) (env : ExecutionEnv) (page : CashOutPage)
          (betId roundId : String) (dryRun : Bool),
        (executor.cashOut env page betId roundId dryRun).Confirmed
        ↔ ¬ executor.ClicksThrough env page dryRun := by
  refine ⟨⟨?_, ?_⟩, cashOut_confirmed_iff⟩
  · exact Always.mono fun state input => cashOutBeforeCrash_iff.mp
  · exact Always.mono fun state input => cashOutBeforeCrash_iff.mpr

/-- The cash-out of a round whose bet was placed is requested by its crash, and a click on
the button is reported as a cash-out with nothing confirmed.
-/
theorem cashOut_after_crash_unconfirmed
    : ¬ Always crashStep CashOutBeforeCrash (liveSession, [])
        [.roundStarted "r1", .settle 0 approvedAnswer, .settle 0 { placed := true },
          .roundCrashed { roundId := some "r1", crashPoint := some 2 }]
      ∧ ¬ (LiveCashOutExecutor.cashOut { pageUsable := true, systemMode := some "live" }
        { allowRealExecution := some "true" } {} "r1" "r1" false).Confirmed := by
  refine ⟨?_, by decide +kernel⟩
  rintro ⟨-, -, -, ordered, -⟩
  exact ordered "r1" (by decide +kernel) (by decide +kernel)

end CrashWave.App
