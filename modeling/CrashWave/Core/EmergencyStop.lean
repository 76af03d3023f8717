import CrashWave.Persistence.BetDurability
import CrashWave.Persistence.BetQueries
import CrashWave.Persistence.BetRepository
import CrashWave.Runs.Basic

/-! `EmergencyStop.trigger` next to an executor that creates and advances bets, and what it does to
the bets. Every query and every update is a step of its own; the bets are moved by the executor in
between. The pages of a stop hold a hundred bets of each state, and it overwrites whatever a listed
bet has become since.
-/

namespace CrashWave.Core

open CrashWave.Persistence

/-- The configuration that a trigger reads. -/
structure EmergencyStopConfig where
  attemptCancelPending : Bool := true
  preserveState : Bool := true
  notifyOperator : Bool := true

/-- What a trigger reports. -/
structure EmergencyStopResult where
  haltedExecutors : Bool
  cancelledPendingBets : Nat
  preservedState : Bool
  operatorNotified : Bool
  reason : String
  deriving DecidableEq

/-- Where a trigger stands: the query it awaits, or the bets that it has still to cancel and
those it has.
-/
inductive StopPhase where
  | armed
  | readingPending
  | readingReserved (pending : List String)
  | cancelling (toCancel : List String) (cancelled : Nat)
  | preserving (cancelled : Nat)
  | finished (result : EmergencyStopResult)
  deriving DecidableEq

/-- A bet in this state waits to be placed. -/
def waits (state : BetState) : Bool := state = .pending ∨ state = .reserved

/-- How far a bet in this state is on its way. -/
def progress : BetState → Nat
  | .pending => 0
  | .reserved => 1
  | .placed => 2
  | .confirmed => 3
  | .active => 4
  | .cashOutRequested => 5
  | .cashedOut | .lost | .failed | .unknown | .reconciled => 6

/-- The bets, the trigger, its reason, and the bets that waited when it began. -/
structure StopSystem where
  tables : BetTables
  phase : StopPhase := .armed
  reason : String := ""
  waitedAtTrigger : List String := []

/-- The bets that wait. -/
def waitingBets (tables : BetTables) : List String :=
  (tables.rows.filter fun row => waits row.state).map (·.id)

namespace StopSystem

variable (system : StopSystem)

/-- The result when a step of the trigger itself throws. -/
def errorResult (haltedExecutors : Bool) (cancelled : Nat) (preserved : Bool)
    (message : String) : EmergencyStopResult where
  haltedExecutors
  cancelledPendingBets := cancelled
  preservedState := preserved
  operatorNotified := false
  reason := system.reason ++ " (execution error: " ++ message ++ ")"

/-- `trigger` up to its first query; `stopError` is what halting an executor throws. A stop
that is not armed only reports that it was triggered already.
-/
def trigger (config : EmergencyStopConfig) (reason : String) (stopError : Option String)
    : StopSystem :=
  if system.phase ≠ .armed then system
  else
    let begun := { system with reason, waitedAtTrigger := waitingBets system.tables }
    match stopError with
    | some message =>
        { begun with phase := .finished (begun.errorResult false 0 false message) }
    | none =>
        { begun with
          phase := if config.attemptCancelPending then .readingPending else .preserving 0 }

/-- The first query of `cancelPendingBets`; where it fails, nothing is cancelled. -/
def readPending (fails : Bool) : StopSystem :=
  if system.phase ≠ .readingPending then system
  else
    match system.tables.findByState .pending 100 fails with
    | .error _ => { system with phase := .preserving 0 }
    | .ok pending => { system with phase := .readingReserved (pending.map (·.id)) }

/-- The second query. -/
def readReserved (fails : Bool) : StopSystem :=
  match system.phase with
  | .readingReserved pending =>
      match system.tables.findByState .reserved 100 fails with
      | .error _ => { system with phase := .preserving 0 }
      | .ok reserved =>
          { system with phase := .cancelling (pending ++ reserved.map (·.id)) 0 }
  | _ => system

/-- The next bet of the loop of `cancelPendingBets`. -/
def cancelNext (now : Int) (faults : BetFaults) : StopSystem :=
  match system.phase with
  | .cancelling [] cancelled => { system with phase := .preserving cancelled }
  | .cancelling (id :: rest) cancelled =>
      let outcome :=
        system.tables.updateState id .failed (some "Cancelled by emergency stop") now faults
      let cancelled :=
        match outcome.2 with
        | .ok _ => cancelled + 1
        | .error _ => cancelled
      { system with tables := outcome.1, phase := .cancelling rest cancelled }
  | _ => system

/-- The end of `trigger`: the state is preserved, and the events are emitted. -/
def finish (config : EmergencyStopConfig) (preserved : Bool) (emitError : Option String)
    : StopSystem :=
  match system.phase with
  | .preserving cancelled =>
      let preservedState := config.preserveState && preserved
      match emitError with
      | some message =>
          { system with
            phase := .finished (system.errorResult true cancelled preservedState message) }
      | none =>
          { system with
            phase :=
              .finished
                { haltedExecutors := true
                  cancelledPendingBets := cancelled
                  preservedState
                  operatorNotified := config.notifyOperator
                  reason := system.reason } }
  | _ => system

/-- The executor moves a bet on its way; it never moves one back. -/
def advance (id : String) (state : BetState) (now : Int) (faults : BetFaults) : StopSystem :=
  match system.tables.bets.get id with
  | some row =>
      if progress row.state < progress state then
        { system with tables := (system.tables.updateState id state none now faults).1 }
      else system
  | none => system

end StopSystem

/-- What happens: the steps of the trigger, each with the failures it meets, and those of
the executor.
-/
inductive StopInput where
  | trigger (reason : String) (stopError : Option String)
  | readPending (fails : Bool)
  | readReserved (fails : Bool)
  | cancelNext (now : Int) (faults : BetFaults)
  | finish (preserved : Bool) (emitError : Option String)
  | create (input : CreateBetInput) (id : String) (now : Int) (faults : BetFaults)
  | advance (id : String) (state : BetState) (now : Int) (faults : BetFaults)

/-- One step. -/
def stopStep (config : EmergencyStopConfig) (system : StopSystem) : StopInput → StopSystem
  | .trigger reason stopError => system.trigger config reason stopError
  | .readPending fails => system.readPending fails
  | .readReserved fails => system.readReserved fails
  | .cancelNext now faults => system.cancelNext now faults
  | .finish preserved emitError => system.finish config preserved emitError
  | .create input id now faults =>
      { system with tables := (system.tables.create input id now faults).1 }
  | .advance id state now faults => system.advance id state now faults

end CrashWave.Core

-----------------------------------------------------------------------------------------
-- What a stop does
-----------------------------------------------------------------------------------------

namespace CrashWave.Core

open CrashWave.Persistence JavaScript Runs

/-- A bet in this state was placed, or has gone further. -/
def advanced (state : BetState) : Bool := !waits state && state ≠ .failed

/-- An update of the trigger leaves a bet that has advanced. -/
def KeepsAdvanced (config : EmergencyStopConfig) (system : StopSystem) (input : StopInput)
    : Prop :=
  match input, system.phase with
  | .cancelNext _ _, .cancelling (id :: _) _ =>
      ∀ row, system.tables.bets.get id = some row → advanced row.state = true
        → (stopStep config system input).tables.bets.get id = some row
  | _, _ => True

/-- Every bet that waited when the stop was triggered has left that state. -/
def AllCancelled (system : StopSystem) : Prop :=
  ∀ id ∈ system.waitedAtTrigger, ∀ row,
    system.tables.bets.get id = some row → waits row.state = false

/-- A trigger that is finished, and was able to halt the executors, has cancelled every bet
that waited when it began.
-/
def FinishedClean (system : StopSystem) : Prop :=
  ∀ result, system.phase = .finished result → result.haltedExecutors = true
    → AllCancelled system

/-- The query for bets of a state succeeds and its page has room for all of them, or no bet
waits any more.
-/
def ReadsAll (tables : BetTables) (state : BetState) (fails : Bool) : Prop :=
  (fails = false ∧ (tables.rows.countP fun row => row.state = state) ≤ 100)
  ∨ waitingBets tables = []

/-- What is passed to cancel a bet. -/
def cancellation : UpdateBetInput :=
  { state := some .failed, failureReason := some (some "Cancelled by emergency stop") }

/-- A step of the trigger goes well: it is configured to cancel, its pages hold all bets that
wait, the update of a bet that still waits lands, and that of a bet that has advanced does
not. Where halting an executor throws, the trigger ends there.
-/
def StopGoesWell (config : EmergencyStopConfig) (system : StopSystem) : StopInput → Prop
  | .trigger _ stopError =>
      system.phase = .armed → stopError = none
      → config.attemptCancelPending = true ∨ waitingBets system.tables = []
  | .readPending fails =>
      system.phase = .readingPending → ReadsAll system.tables .pending fails
  | .readReserved fails =>
      ∀ pending, system.phase = .readingReserved pending
        → ReadsAll system.tables .reserved fails
  | .cancelNext _ faults =>
      ∀ id rest cancelled row, system.phase = .cancelling (id :: rest) cancelled
        → system.tables.bets.get id = some row
        → (waits row.state = true → Lands system.tables id cancellation faults row)
          ∧ (advanced row.state = true → ¬ Lands system.tables id cancellation faults row)
  | _ => True

/-- Where the trigger will still find a bet that waits, by its phase. -/
def Awaited (phase : StopPhase) (id : String) (state : BetState) : Prop :=
  match phase with
  | .armed | .readingPending => True
  | .readingReserved pending => state = .reserved ∨ id ∈ pending
  | .cancelling toCancel _ => id ∈ toCancel
  | .preserving _ => False
  | .finished result => result.haltedExecutors = false

/-- Every bet that waited at the trigger is still there, and the trigger will find it if it
still waits.
-/
structure Sweeping (system : StopSystem) : Prop where
  present : ∀ id ∈ system.waitedAtTrigger, (system.tables.bets.get id).isSome = true
  awaited
    : ∀ id ∈ system.waitedAtTrigger, ∀ row, system.tables.bets.get id = some row
      → waits row.state = true → Awaited system.phase id row.state

variable {config : EmergencyStopConfig} {system : StopSystem}

/-- The bets that wait are those whose row does. -/
theorem mem_waitingBets {tables : BetTables} {id : String}
    : id ∈ waitingBets tables
      ↔ ∃ row, tables.bets.get id = some row ∧ waits row.state = true := by
  simp only [waitingBets, List.mem_map, List.mem_filter, mem_rows_iff]
  constructor
  · rintro ⟨_, ⟨⟨id, row, found, rfl⟩, waiting⟩, rfl⟩
    exact ⟨row, found, waiting⟩
  · rintro ⟨row, found, waiting⟩
    exact ⟨{ row with id }, ⟨⟨id, row, found, rfl⟩, waiting⟩, rfl⟩

theorem not_waits_of_none {tables : BetTables} (none : waitingBets tables = []) {id : String}
    {row : BetRecord} (found : tables.bets.get id = some row)
    : ¬ waits row.state = true := by
  intro waiting
  have member := mem_waitingBets.mpr ⟨row, found, waiting⟩
  rw [none] at member
  cases member

theorem Sweeping.of_awaited {tables : BetTables} {phase : StopPhase}
    {waitedAtTrigger : List String}
    (present : ∀ id ∈ waitedAtTrigger, (tables.bets.get id).isSome = true)
    (awaited : ∀ id row, tables.bets.get id = some row → waits row.state = true
      → id ∈ waitedAtTrigger → Awaited phase id row.state)
    (reason : String)
    : Sweeping { tables, phase, reason, waitedAtTrigger } :=
  ⟨present, fun id waited row found waiting => awaited id row found waiting waited⟩

/-- The trigger records the bets that wait, and awaits them all. -/
theorem sweeping_trigger {reason : String} {stopError : Option String}
    (sweeping : Sweeping system) (well : StopGoesWell config system (.trigger reason stopError))
    : Sweeping (system.trigger config reason stopError) := by
  unfold StopSystem.trigger
  split
  · exact sweeping
  · next armed =>
      have present : ∀ id ∈ waitingBets system.tables,
          (system.tables.bets.get id).isSome = true := by
        intro id waiting
        obtain ⟨row, found, -⟩ := mem_waitingBets.mp waiting
        rw [found]
        rfl
      cases stopError with
      | some message =>
          refine .of_awaited present ?_ reason
          intros
          rfl
      | none =>
          refine .of_awaited present ?_ reason
          intro id row found waiting _
          rcases well (not_not.mp armed) rfl with enabled | none
          · simp [enabled, Awaited]
          · exact absurd waiting (not_waits_of_none none found)

/-- The first query lists the pending bets; a reserved one is left to the second. -/
theorem sweeping_readPending {fails : Bool} (sweeping : Sweeping system)
    (well : StopGoesWell config system (.readPending fails))
    : Sweeping (system.readPending fails) := by
  unfold StopSystem.readPending
  split
  · exact sweeping
  · next reading =>
      rcases well (not_not.mp reading) with ⟨rfl, fits⟩ | none
      · obtain ⟨page, read, complete⟩ := findByState_complete fits
        rw [read]
        refine .of_awaited sweeping.present ?_ system.reason
        intro id row found waiting _
        simp only [waits, Bool.decide_or, Bool.or_eq_true, decide_eq_true_eq] at waiting
        exact waiting.elim (fun pending => .inr (complete id row found pending)) .inl
      · split <;>
          exact .of_awaited sweeping.present
            (fun _ _ found waiting _ => absurd waiting (not_waits_of_none none found))
            system.reason

/-- The second query adds the reserved ones. -/
theorem sweeping_readReserved {fails : Bool} (sweeping : Sweeping system)
    (well : StopGoesWell config system (.readReserved fails))
    : Sweeping (system.readReserved fails) := by
  unfold StopSystem.readReserved
  split
  · next pending reading =>
      rcases well pending reading with ⟨rfl, fits⟩ | none
      · obtain ⟨page, read, complete⟩ := findByState_complete fits
        rw [read]
        refine .of_awaited sweeping.present ?_ system.reason
        intro id row found waiting waited
        have listed := sweeping.awaited id waited row found waiting
        rw [reading] at listed
        rcases listed with reserved | listed
        · exact List.mem_append_right _ (complete id row found reserved)
        · exact List.mem_append_left _ listed
      · split <;>
          exact .of_awaited sweeping.present
            (fun _ _ found waiting _ => absurd waiting (not_waits_of_none none found))
            system.reason
  · exact sweeping

/-- A bet whose cancellation lands if it waits does not wait afterwards. -/
theorem not_waits_cancelled {tables : BetTables} {id : String} {now : Int}
    {faults : BetFaults} {row : BetRecord}
    (lands : ∀ row, tables.bets.get id = some row → waits row.state = true
      → Lands tables id cancellation faults row)
    (found : (tables.update id cancellation now faults).1.bets.get id = some row)
    : ¬ waits row.state = true := by
  have cancelled : ∀ before : BetRecord,
      ¬ waits (before.updated cancellation now).state = true := by
    intro before
    simp [BetRecord.updated, cancellation, waits]
  rcases get_update_cases tables id cancellation now faults id with
    kept | ⟨before, -, -, changed⟩
  · intro waiting
    have changed := update_bets_of_lands now
      (lands row (kept.symm.trans found) waiting)
    rw [changed, Map.get_set_self] at found
    exact cancelled row (Option.some.inj found ▸ waiting)
  · obtain rfl := Option.some.inj (changed.symm.trans found)
    exact cancelled before

/-- An update cancels the next bet if it still waits, and touches no other one. -/
theorem sweeping_cancelNext {now : Int} {faults : BetFaults} (sweeping : Sweeping system)
    (well : StopGoesWell config system (.cancelNext now faults))
    : Sweeping (system.cancelNext now faults) := by
  unfold StopSystem.cancelNext
  split
  · next cancelled done =>
      refine .of_awaited sweeping.present ?_ system.reason
      intro id row found waiting waited
      have listed := sweeping.awaited id waited row found waiting
      rw [done] at listed
      cases listed
  · next first rest cancelled cancelling =>
      refine .of_awaited (fun id waited => isSome_get_update (sweeping.present id waited)) ?_
        system.reason
      intro id row found waiting waited
      have found : (system.tables.update first cancellation now faults).1.bets.get id
          = some row := found
      by_cases same : id = first
      · subst same
        exact absurd waiting (not_waits_cancelled (fun row here =>
          (well id rest cancelled row cancelling here).1) found)
      · rw [get_update_of_ne same] at found
        have listed := sweeping.awaited id waited row found waiting
        rw [cancelling] at listed
        exact (List.mem_cons.mp listed).resolve_left same
  · exact sweeping

theorem Awaited.of_reserved {phase : StopPhase} {id : String} {old new : BetState}
    (awaited : Awaited phase id old) (reserved : new = .reserved)
    : Awaited phase id new := by
  cases phase with
  | readingReserved pending => exact .inl reserved
  | _ => exact awaited

theorem waits_of_onward {old new : BetState} (onward : progress old < progress new)
    (waiting : waits new = true)
    : waits old = true ∧ new = .reserved := by
  cases new with
  | reserved => cases old <;> first | exact ⟨rfl, rfl⟩ | exact absurd onward (by decide)
  | pending => exact absurd onward (Nat.not_lt_zero _)
  | _ => cases waiting

/-- What the executor does to a bet does not hide it: a bet that still waits is where it
was, or has become reserved.
-/
theorem sweeping_advance {id : String} {state : BetState} {now : Int} {faults : BetFaults}
    (sweeping : Sweeping system) : Sweeping (system.advance id state now faults) := by
  unfold StopSystem.advance
  split
  · next row here =>
      split
      · next onward =>
          refine .of_awaited (fun id waited => isSome_get_update (sweeping.present id waited)) ?_
            system.reason
          intro other row' found waiting waited
          rcases get_update_cases system.tables id { state := some state } now faults other with
            kept | ⟨before, lands, rfl, changed⟩
          · have found := kept.symm.trans found
            exact sweeping.awaited other waited row' found waiting
          · obtain rfl : row = before := Option.some.inj (here.symm.trans lands.1.found)
            obtain rfl := Option.some.inj (changed.symm.trans found)
            have moved := waits_of_onward onward waiting
            exact (sweeping.awaited _ waited row here moved.1).of_reserved moved.2
      · exact sweeping
  · exact sweeping

/-- A new bet does not matter to the sweep. -/
theorem sweeping_create {input : CreateBetInput} {id : String} {now : Int}
    {faults : BetFaults} (sweeping : Sweeping system)
    : Sweeping { system with tables := (system.tables.create input id now faults).1 } := by
  have kept : ∀ other ∈ system.waitedAtTrigger,
      (system.tables.create input id now faults).1.bets.get other
        = system.tables.bets.get other := by
    intro other waited
    have present := sweeping.present other waited
    refine (get_create_cases system.tables input id now faults other).resolve_right ?_
    rintro ⟨absent, -, -⟩
    rw [absent] at present
    cases present
  constructor
  · intro other waited
    rw [kept other waited]
    exact sweeping.present other waited
  · intro other waited row found waiting
    rw [kept other waited] at found
    exact sweeping.awaited other waited row found waiting

/-- The end of the trigger comes when no bet is awaited any more. -/
theorem sweeping_finish {preserved : Bool} {emitError : Option String}
    (sweeping : Sweeping system) : Sweeping (system.finish config preserved emitError) := by
  unfold StopSystem.finish
  split
  · next cancelled preserving =>
      have nobody : ∀ result id row, system.tables.bets.get id = some row
          → waits row.state = true → id ∈ system.waitedAtTrigger
          → Awaited (.finished result) id row.state := by
        intro result id row found waiting waited
        have awaited := sweeping.awaited id waited row found waiting
        rw [preserving] at awaited
        exact awaited.elim
      cases emitError with
      | none => exact .of_awaited sweeping.present (nobody _) system.reason
      | some message => exact .of_awaited sweeping.present (nobody _) system.reason
  · exact sweeping

/-- Every step that goes well keeps the sweep complete. -/
theorem sweeping_step {input : StopInput} (sweeping : Sweeping system)
    (well : StopGoesWell config system input)
    : Sweeping (stopStep config system input) := by
  cases input with
  | trigger reason stopError => exact sweeping_trigger sweeping well
  | readPending fails => exact sweeping_readPending sweeping well
  | readReserved fails => exact sweeping_readReserved sweeping well
  | cancelNext now faults => exact sweeping_cancelNext sweeping well
  | finish preserved emitError => exact sweeping_finish sweeping
  | create input id now faults => exact sweeping_create sweeping
  | advance id state now faults => exact sweeping_advance sweeping

/-- A step that goes well leaves the bets that have advanced. -/
theorem keepsAdvanced_step {input : StopInput} (well : StopGoesWell config system input)
    : KeepsAdvanced config system input := by
  unfold KeepsAdvanced
  split
  · next now faults id rest cancelled cancelling =>
      intro row found ahead
      have misses := (well id rest cancelled row cancelling found).2 ahead
      have kept : (system.tables.update id cancellation now faults).1 = system.tables := by
        refine update_of_not_lands fun before lands => misses ?_
        obtain rfl : row = before := Option.some.inj (found.symm.trans lands.1.found)
        exact lands
      simp only [stopStep, StopSystem.cancelNext, cancelling]
      exact (congrArg (·.bets.get id) kept).trans found
  · trivial

/-- In every run of a trigger and an executor whose steps go well, no update overwrites a
bet that has advanced, and a trigger that halted the executors and finished has cancelled
every bet that waited when it began.
-/
theorem trigger_cancels_all (config : EmergencyStopConfig) (tables : BetTables)
    (inputs : List StopInput)
    (well : Always (stopStep config) (StopGoesWell config) { tables } inputs)
    : Always (stopStep config) (KeepsAdvanced config) { tables } inputs
      ∧ FinishedClean (run (stopStep config) { tables } inputs) := by
  have initial : Sweeping { tables } := .of_awaited (by simp) (by simp) ""
  refine ⟨well.mono fun _ _ => keepsAdvanced_step, ?_⟩
  have sweeping := well.invariant (fun _ _ => sweeping_step) initial
  intro result finished halted id waited row found
  have awaited := sweeping.awaited id waited row found
  rw [finished] at awaited
  simpa [Awaited, halted] using awaited

/-- The steps of a trigger that has this many bets to cancel, up to its last update. -/
def triggerSteps (bets : Nat) : List StopInput :=
  [.trigger "operator" none, .readPending false, .readReserved false]
  ++ List.replicate (bets + 1) (.cancelNext 9 {})

/-- Without failures the update of a listed bet goes well while it waits. -/
theorem goesWell_cancelNext {first : String} {listed : List String} {done : Nat}
    {row : BetRecord} {now : Int} (cancelling : system.phase = .cancelling (first :: listed) done)
    (found : system.tables.bets.get first = some row) (waiting : waits row.state = true)
    : StopGoesWell config system (.cancelNext now {}) := by
  intro id rest cancelled other phase here
  cases cancelling.symm.trans phase
  obtain rfl : row = other := Option.some.inj (found.symm.trans here)
  refine ⟨fun _ => ⟨⟨rfl, found, rfl, rfl, rfl, rfl, rfl⟩, ?_⟩, ?_⟩
  · simp [EventInsertFails]
  · simp [advanced, waiting]

/-- A pending and a reserved bet are cancelled while another one is confirmed meanwhile. -/
theorem trigger_cancels_two
    : let tables := betsOf
        [betRow "bet-1" .pending 1, betRow "bet-2" .reserved 2, betRow "bet-3" .placed 3]
      let inputs :=
        triggerSteps 2 ++ [.advance "bet-3" .confirmed 9 {}, .finish true none]
      let ended := run (stopStep {}) { tables } inputs
      Always (stopStep {}) (KeepsAdvanced {}) { tables } inputs
      ∧ FinishedClean ended
      ∧ ended.tables.rows.map (·.state) = [.failed, .failed, .confirmed] := by
  intro tables inputs ended
  have well : Always (stopStep {}) (StopGoesWell {}) { tables } inputs := by
    refine ⟨fun _ _ => .inl rfl, fun _ => .inl (by decide +kernel),
      fun _ _ => .inl (by decide +kernel),
      goesWell_cancelNext (by rfl) (by rfl) (by rfl),
      goesWell_cancelNext (by rfl) (by rfl) (by rfl), ?_, trivial, trivial, trivial⟩
    intro _ _ _ _ phase
    cases phase
  exact ⟨(trigger_cancels_all {} tables inputs well).1,
    (trigger_cancels_all {} tables inputs well).2, by decide +kernel⟩

/-- Of a hundred and one pending bets the oldest stays pending, and a bet that was confirmed
after it was listed is overwritten.
-/
theorem trigger_leaves_and_overwrites
    : let many := betsOf ((List.range 101).map fun n => betRow (toString n) .pending n)
      let ended := run (stopStep {}) { tables := many } (triggerSteps 100 ++ [.finish true none])
      let one := betsOf [betRow "bet-1" .pending 1]
      let race : List StopInput :=
        [.trigger "operator" none, .readPending false, .readReserved false,
          .advance "bet-1" .confirmed 9 {}, .cancelNext 9 {}]
      (ended.tables.bets.get "0" = some (betRow "0" .pending 0) ∧ ¬ FinishedClean ended)
      ∧ ((run (stopStep {}) { tables := one } race).tables.bets.get "bet-1").map (·.state)
          = some .failed
        ∧ ¬ Always (stopStep {}) (KeepsAdvanced {}) { tables := one } race := by
  intro many ended one race
  obtain ⟨stays, finished, waited⟩ : ended.tables.bets.get "0" = some (betRow "0" .pending 0)
      ∧ ended.phase = .finished ⟨true, 100, true, true, "operator"⟩
      ∧ "0" ∈ ended.waitedAtTrigger := by decide +kernel
  refine ⟨⟨stays, ?_⟩, by decide +kernel, ?_⟩
  · intro clean
    cases clean _ finished rfl "0" waited _ stays
  · rintro ⟨-, -, -, -, kept, -⟩
    exact absurd (kept _ rfl rfl) (by decide +kernel)

end CrashWave.Core
