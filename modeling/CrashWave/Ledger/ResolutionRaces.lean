import CrashWave.Ledger.RecoverySweep
import CrashWave.Runs.Basic

/-! Sweeps of several recovery services and resolutions by operators over one repository. Each
reads that a bet is unknown, awaits, and then writes without looking again; the bets that were
read and are not done with are in flight.
-/

namespace CrashWave.Ledger

open CrashWave.Persistence JavaScript Runs

/-- A bet that was read as unknown: by the sweep of a service, or for an operator. -/
inductive Resolution where
  | recover (service : Nat) (bet : BetRecord)
  | resolve (manual : ManualResolution)
  deriving DecidableEq

/-- The bet that is to be resolved. -/
def Resolution.betId : Resolution → String
  | .recover _ bet => bet.id
  | .resolve manual => manual.betId

/-- The resolution belongs to the sweep of the service. -/
def Resolution.sweptBy (service : Nat) : Resolution → Bool
  | .recover other _ => other = service
  | .resolve _ => false

/-- The bets, the services whose sweep runs, the resolutions in flight in the order in which
they were read, and the bets that an update has changed.
-/
structure ResolutionSystem where
  tables : BetTables
  reconciling : List Nat := []
  inFlight : List Resolution := []
  changed : List String := []

/-- What happens: a sweep reads its page, takes its next bet, or ends when there is none; an
operator's resolution is checked, or updates its bet.
-/
inductive ResolutionInput where
  | beginSweep (service : Nat) (pageFails : Bool)
  | recoverNext (service : Nat) (answers : BetRecoveryAnswers)
  | checkManual (manual : ManualResolution) (fails : Bool)
  | updateManual (manual : ManualResolution) (now : Int) (faults : BetFaults)

namespace ResolutionSystem

variable (system : ResolutionSystem)

/-- The bets in flight. -/
def held : List String := system.inFlight.map (·.betId)

/-- A resolution is done with, and has left these tables. -/
def finish (resolution : Resolution) (tables : BetTables) : ResolutionSystem :=
  { system with
    tables
    inFlight := system.inFlight.erase resolution
    changed :=
      if tables.bets.get resolution.betId = system.tables.bets.get resolution.betId then
        system.changed
      else system.changed ++ [resolution.betId] }

/-- `runRecoverySweep` up to its page; a service whose sweep runs does not begin another. -/
def beginSweep (recovery : UnknownStateRecovery) (service : Nat) (pageFails : Bool)
    : ResolutionSystem :=
  if service ∈ system.reconciling then system
  else
    match system.tables.findByState .unknown recovery.maxBetsPerSweep pageFails with
    | .error _ => system
    | .ok unknownBets =>
        { system with
          reconciling := service :: system.reconciling
          inFlight := system.inFlight ++ unknownBets.map (.recover service) }

/-- The next bet of a sweep, with the answers that were awaited for it. -/
def recoverNext (recovery : UnknownStateRecovery) (service : Nat)
    (answers : BetRecoveryAnswers) : ResolutionSystem :=
  match system.inFlight.find? (·.sweptBy service) with
  | some (.recover other bet) =>
      system.finish (.recover other bet)
        (recovery.recoverBet system.tables bet answers).1
  | _ => { system with reconciling := system.reconciling.erase service }

/-- `manualResolve` up to its update. -/
def checkManual (manual : ManualResolution) (fails : Bool) : ResolutionSystem :=
  match manual.check system.tables fails with
  | .error _ => system
  | .ok _ => { system with inFlight := system.inFlight ++ [.resolve manual] }

/-- The update of `manualResolve`. -/
def updateManual (manual : ManualResolution) (now : Int) (faults : BetFaults)
    : ResolutionSystem :=
  if .resolve manual ∈ system.inFlight then
    system.finish (.resolve manual)
      (system.tables.update manual.betId manual.update now faults).1
  else system

end ResolutionSystem

/-- One step; the services differ in their configuration. -/
def resolutionStep (services : Nat → UnknownStateRecovery) (system : ResolutionSystem)
    : ResolutionInput → ResolutionSystem
  | .beginSweep service pageFails =>
      system.beginSweep (services service) service pageFails
  | .recoverNext service answers => system.recoverNext (services service) service answers
  | .checkManual manual fails => system.checkManual manual fails
  | .updateManual manual now faults => system.updateManual manual now faults

/-- The bet has an outcome: it is there, and not unknown. -/
def Resolved (tables : BetTables) (id : String) : Prop :=
  ∃ row, tables.bets.get id = some row ∧ row.state ≠ .unknown

/-- A step overwrites no outcome. -/
def KeepsOutcomes (services : Nat → UnknownStateRecovery) (system : ResolutionSystem)
    (input : ResolutionInput) : Prop :=
  ∀ id, Resolved system.tables id
    → (resolutionStep services system input).tables.bets.get id = system.tables.bets.get id

/-- A step does not read a bet that is in flight. -/
def ReadsExclusively (services : Nat → UnknownStateRecovery) (system : ResolutionSystem)
    : ResolutionInput → Prop
  | .beginSweep service pageFails =>
      service ∉ system.reconciling → pageFails = false
      → ∀ bet, Listed (services service) system.tables bet → bet.id ∉ system.held
  | .checkManual manual fails => fails = false → manual.betId ∉ system.held
  | _ => True

/-- No bet is in flight twice, those in flight are unknown, and those that were changed have
an outcome and were changed once.
-/
structure Exclusive (system : ResolutionSystem) : Prop where
  distinct : system.held.Nodup
  unknown : ∀ id ∈ system.held, StillUnknown system.tables id
  once : system.changed.Nodup
  resolved : ∀ id ∈ system.changed, Resolved system.tables id

variable {services : Nat → UnknownStateRecovery} {system : ResolutionSystem}
variable {tables : BetTables}

-----------------------------------------------------------------------------------------
-- What one party writes
-----------------------------------------------------------------------------------------

/-- Only this bet can differ between the tables, and where it does it has an outcome. -/
structure Settles (before after : BetTables) (id : String) : Prop where
  others : ∀ other, other ≠ id → after.bets.get other = before.bets.get other
  outcome : after.bets.get id = before.bets.get id ∨ Resolved after id

/-- An update to a state other than unknown settles its bet. -/
theorem settles_update {input : UpdateBetInput} {state : BetState}
    (named : input.state = some state) (final : state ≠ .unknown) (id : String) (now : Int)
    (faults : BetFaults)
    : Settles tables (tables.update id input now faults).1 id := by
  refine ⟨fun other different => get_update_of_ne different, ?_⟩
  rcases get_update_cases tables id input now faults id with kept | ⟨before, -, -, changed⟩
  · exact .inl kept
  · refine .inr ⟨_, changed, ?_⟩
    simpa [BetRecord.updated, named] using final

/-- The recovery of a bet settles it, or leaves it. -/
theorem settles_recoverBet (recovery : UnknownStateRecovery) (tables : BetTables)
    (bet : BetRecord) (answers : BetRecoveryAnswers)
    : Settles tables (recovery.recoverBet tables bet answers).1 bet.id := by
  cases established : recovery.establish bet answers with
  | error reason =>
      rw [recoverBet_of_error established]
      exact ⟨fun _ _ => rfl, .inl rfl⟩
  | ok settlement =>
      obtain ⟨evidence, status⟩ := settlement
      rw [(recoverBet_of_ok established).1]
      exact settles_update rfl (settled_ne_unknown status) bet.id answers.now answers.faults

theorem settles_manual (manual : ManualResolution) (tables : BetTables) (now : Int)
    (faults : BetFaults)
    : Settles tables (tables.update manual.betId manual.update now faults).1 manual.betId := by
  have final : manual.newState.betState ≠ .unknown := by
    cases manual.newState <;> decide
  exact settles_update rfl final manual.betId now faults

/-- A bet with an outcome that is not settled again keeps it. -/
theorem Settles.resolved {before after : BetTables} {id other : String}
    (settles : Settles before after id) (resolved : Resolved before other)
    : Resolved after other := by
  by_cases same : other = id
  · subst same
    rcases settles.outcome with kept | changed
    · rwa [Resolved, kept]
    · exact changed
  · rwa [Resolved, settles.others other same]

theorem not_resolved_of_stillUnknown {id : String} (unknown : StillUnknown tables id)
    : ¬ Resolved tables id := by
  obtain ⟨row, found, isUnknown⟩ := unknown
  rintro ⟨other, here, outcome⟩
  obtain rfl : row = other := Option.some.inj (found.symm.trans here)
  exact outcome isUnknown

-----------------------------------------------------------------------------------------
-- Steps
-----------------------------------------------------------------------------------------

theorem keeps_finish {resolution : Resolution} (exclusive : Exclusive system)
    (member : resolution ∈ system.inFlight)
    (settles : Settles system.tables tables resolution.betId) {id : String}
    (resolved : Resolved system.tables id)
    : (system.finish resolution tables).tables.bets.get id = system.tables.bets.get id := by
  refine settles.others id fun same => ?_
  have unknown := exclusive.unknown _ (List.mem_map_of_mem member)
  exact not_resolved_of_stillUnknown unknown (same ▸ resolved)

/-- The bets that stay in flight are others, since none is in flight twice. -/
theorem exclusive_finish {resolution : Resolution} (exclusive : Exclusive system)
    (member : resolution ∈ system.inFlight)
    (settles : Settles system.tables tables resolution.betId)
    : Exclusive (system.finish resolution tables) := by
  have split := (List.perm_cons_erase member).map Resolution.betId
  have parted := split.nodup_iff.mp exclusive.distinct
  rw [List.map_cons, List.nodup_cons] at parted
  obtain ⟨gone, distinct⟩ := parted
  have unknown := exclusive.unknown _ (List.mem_map_of_mem member)
  have stillInFlight : ∀ id ∈ (system.finish resolution tables).held,
      StillUnknown tables id := by
    intro id waits
    have other : id ≠ resolution.betId := fun same => gone (same ▸ waits)
    rw [StillUnknown, settles.others id other]
    exact exclusive.unknown id (split.mem_iff.mpr (List.mem_cons_of_mem _ waits))
  have kept : ∀ id ∈ system.changed, Resolved tables id := fun id member =>
    settles.resolved (exclusive.resolved id member)
  by_cases same : tables.bets.get resolution.betId = system.tables.bets.get resolution.betId
  · refine ⟨distinct, stillInFlight, ?_, ?_⟩
    · simpa [ResolutionSystem.finish, same] using exclusive.once
    · simpa [ResolutionSystem.finish, same] using kept
  · have fresh : resolution.betId ∉ system.changed := fun member =>
      not_resolved_of_stillUnknown unknown (exclusive.resolved _ member)
    refine ⟨distinct, stillInFlight, ?_, ?_⟩
    · simpa [ResolutionSystem.finish, same, List.nodup_append] using
        ⟨exclusive.once, fun id member equal => fresh (equal ▸ member)⟩
    · intro id member
      simp only [ResolutionSystem.finish, same, if_false, List.mem_append,
        List.mem_singleton] at member
      rcases member with earlier | rfl
      · exact kept id earlier
      · exact settles.outcome.resolve_left same

/-- Reading bets that are unknown and not in flight keeps them all exclusive. -/
theorem exclusive_read {read : List Resolution} (exclusive : Exclusive system)
    (reconciling : List Nat) (distinct : (read.map Resolution.betId).Nodup)
    (unknown : ∀ resolution ∈ read, StillUnknown system.tables resolution.betId)
    (free : ∀ resolution ∈ read, resolution.betId ∉ system.held)
    : Exclusive { system with reconciling, inFlight := system.inFlight ++ read } := by
  refine ⟨?_, ?_, exclusive.once, exclusive.resolved⟩
  · rw [ResolutionSystem.held, List.map_append, List.nodup_append]
    refine ⟨exclusive.distinct, distinct, ?_⟩
    rintro id held other fresh rfl
    obtain ⟨resolution, member, rfl⟩ := List.mem_map.mp fresh
    exact free resolution member held
  · intro id member
    rw [ResolutionSystem.held, List.map_append, List.mem_append] at member
    rcases member with held | fresh
    · exact exclusive.unknown id held
    · obtain ⟨resolution, member, rfl⟩ := List.mem_map.mp fresh
      exact unknown resolution member

/-- An operator's resolution that passes its check finds an unknown bet. -/
theorem stillUnknown_of_check {manual : ManualResolution} {fails : Bool}
    (passes : manual.check tables fails = .ok ())
    : fails = false ∧ StillUnknown tables manual.betId := by
  unfold ManualResolution.check BetTables.findById at passes
  cases fails with
  | true => cases passes
  | false =>
      refine ⟨rfl, ?_⟩
      cases found : tables.bets.get manual.betId with
      | none => simp [found] at passes
      | some row =>
          refine ⟨row, found, ?_⟩
          by_contra outcome
          simp [found, mapRow, outcome] at passes

theorem listed_of_read {recovery : UnknownStateRecovery} {pageFails : Bool}
    {page : List BetRecord}
    (read : tables.findByState .unknown recovery.maxBetsPerSweep pageFails = .ok page)
    : pageFails = false ∧ ∀ bet ∈ page, Listed recovery tables bet := by
  cases pageFails with
  | true => cases read
  | false => exact ⟨rfl, fun bet member => ⟨page, read, member⟩⟩

/-- A step that reads no bet in flight overwrites no outcome and keeps what is in flight
exclusive.
-/
theorem resolutionStep_exclusive {input : ResolutionInput} (exclusive : Exclusive system)
    (reads : ReadsExclusively services system input)
    : KeepsOutcomes services system input
      ∧ Exclusive (resolutionStep services system input) := by
  cases input with
  | beginSweep service pageFails =>
      simp only [KeepsOutcomes, resolutionStep, ResolutionSystem.beginSweep]
      split
      · exact ⟨fun _ _ => rfl, exclusive⟩
      · next idle =>
          split
          · exact ⟨fun _ _ => rfl, exclusive⟩
          · next page read =>
              obtain ⟨works, listed⟩ := listed_of_read read
              refine ⟨fun _ _ => rfl, exclusive_read exclusive _ ?_ ?_ ?_⟩
              · simpa [Function.comp_def, Resolution.betId] using findByState_nodup read
              · simpa [Resolution.betId] using fun bet member => (listed bet member).stillUnknown
              · simpa [Resolution.betId] using fun bet member =>
                  reads idle works bet (listed bet member)
  | recoverNext service answers =>
      simp only [KeepsOutcomes, resolutionStep, ResolutionSystem.recoverNext]
      split
      · next other bet next =>
          have member := List.mem_of_find?_eq_some next
          have settles := settles_recoverBet (services service) system.tables bet answers
          exact ⟨fun id resolved => keeps_finish exclusive member settles resolved,
            exclusive_finish exclusive member settles⟩
      · exact ⟨fun _ _ => rfl, ⟨exclusive.distinct, exclusive.unknown, exclusive.once,
          exclusive.resolved⟩⟩
  | checkManual manual fails =>
      simp only [KeepsOutcomes, resolutionStep, ResolutionSystem.checkManual]
      split
      · exact ⟨fun _ _ => rfl, exclusive⟩
      · next passes =>
          obtain ⟨works, unknown⟩ := stillUnknown_of_check passes
          refine ⟨fun _ _ => rfl, exclusive_read exclusive _ (by simp) ?_ ?_⟩
          · simpa [Resolution.betId] using unknown
          · simpa [Resolution.betId] using reads works
  | updateManual manual now faults =>
      simp only [KeepsOutcomes, resolutionStep, ResolutionSystem.updateManual]
      split
      · next member =>
          have settles := settles_manual manual system.tables now faults
          exact ⟨fun id resolved => keeps_finish exclusive member settles resolved,
            exclusive_finish exclusive member settles⟩
      · exact ⟨fun _ _ => rfl, exclusive⟩

/-- In every run of sweeps and resolutions in which no step reads a bet that is in flight, no
outcome is overwritten and each bet is resolved at most once.
-/
theorem resolved_once_of_exclusive (services : Nat → UnknownStateRecovery)
    (tables : BetTables) (inputs : List ResolutionInput)
    (reads : Always (resolutionStep services) (ReadsExclusively services) { tables } inputs)
    : Always (resolutionStep services) (KeepsOutcomes services) { tables } inputs
      ∧ (run (resolutionStep services) { tables } inputs).changed.Nodup := by
  have initial : Exclusive { tables } := ⟨.nil, by simp [ResolutionSystem.held], .nil, by simp⟩
  obtain ⟨kept, exclusive⟩ :=
    Always.of_invariant_run (fun _ _ => resolutionStep_exclusive) reads initial
  exact ⟨kept, exclusive.once⟩

/-- The provider establishes that a bet was cashed out at twice its stake. -/
def cashedOutAnswers : BetRecoveryAnswers where
  round := .ok (some { finalConfirmedCrashPoint := some "3", observedCrashPoint := some "3" })
  evidence := .ok { status := some .cashedOut, cashOutMultiplier := some 2, source := "provider" }
  now := 9

/-- An operator takes the bet for lost. -/
def lostBet (betId : String) : ManualResolution where
  betId
  newState := .lost
  pnl := .finite (-700)

/-- A service with a page of one bet sweeps the later bet while an operator resolves the
earlier one.
-/
theorem sweep_and_operator_apart
    : let services (_ : Nat) : UnknownStateRecovery :=
        { maxBetsPerSweep := 1, evidenceProvider := true }
      let tables := betsOf [betRow "bet-1" .unknown 1, betRow "bet-2" .unknown 2]
      let inputs : List ResolutionInput :=
        [.beginSweep 0 false, .checkManual (lostBet "bet-1") false,
          .updateManual (lostBet "bet-1") 8 {}, .recoverNext 0 cashedOutAnswers]
      let ended := run (resolutionStep services) { tables } inputs
      ended.changed = ["bet-1", "bet-2"] ∧ ended.changed.Nodup
      ∧ ended.tables.rows.map (·.state) = [.lost, .cashedOut] := by
  intro services tables inputs ended
  have reads : Always (resolutionStep services) (ReadsExclusively services) { tables } inputs :=
    ⟨fun _ _ _ _ => List.not_mem_nil, fun _ => by decide +kernel, trivial, trivial, trivial⟩
  exact ⟨by decide +kernel, (resolved_once_of_exclusive services tables inputs reads).2,
    by decide +kernel⟩

/-- The operator resolves a bet between the sweep's read and its write: the recorded loss is
overwritten.
-/
theorem sweep_overwrites_operator
    : let services (_ : Nat) : UnknownStateRecovery := { evidenceProvider := true }
      let tables := betsOf [betRow "bet-1" .unknown 1]
      let before : List ResolutionInput :=
        [.beginSweep 0 false, .checkManual (lostBet "bet-1") false,
          .updateManual (lostBet "bet-1") 8 {}]
      let outcome (inputs : List ResolutionInput) :=
        ((run (resolutionStep services) { tables } inputs).tables.bets.get "bet-1").map
          fun row => (row.state, row.pnl, row.confirmedCashOutMultiplier)
      let sweeps := before ++ [.recoverNext 0 cashedOutAnswers]
      outcome before = some (.lost, some (.finite (-700)), none)
      ∧ outcome sweeps = some (.cashedOut, some 700, some 2)
      ∧ ¬ Always (resolutionStep services) (KeepsOutcomes services) { tables } sweeps
      ∧ ¬ (run (resolutionStep services) { tables } sweeps).changed.Nodup := by
  intro services tables before outcome sweeps
  refine ⟨by decide +kernel, by decide +kernel, ?_, by decide +kernel⟩
  rintro ⟨-, -, -, keeps, -⟩
  have kept := congrArg (Option.map BetRecord.state)
    (keeps "bet-1" ⟨_, rfl, by decide +kernel⟩)
  exact absurd kept (by decide +kernel)

end CrashWave.Ledger
