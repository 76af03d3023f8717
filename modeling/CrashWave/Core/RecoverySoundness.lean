import CrashWave.Core.RecoveryCycle
import CrashWave.Ledger.RecoverySweep

/-! When `runRecovery` lets betting resume with no bet unknown. The sweep answers for its page
only, and nothing at all next to another sweep; the reconciliation counts the rest, unless it
is not required or its count fails, which is taken for zero.
-/

namespace CrashWave.Core

open CrashWave.Persistence CrashWave.Ledger JavaScript

/-- A recovery lets betting resume only where no bet is unknown. -/
def Sound (outcome : RecoveryOutcome) : Prop :=
  outcome.result.canResume = true → ∀ id, ¬ StillUnknown outcome.tables id

/-- The observed balance is known, and within the tolerance of the expected one. -/
def BalanceMatches (tolerance : Number) (findings : BalanceFindings) : Prop :=
  ∃ expected actual, findings.expectedBalance = .ok expected
    ∧ findings.currentBalance = some actual
    ∧ (actual - expected).roundToCents.abs ≤ tolerance

/-- There are bets to sweep, and no other sweep is running. -/
def Sweeps (services : RecoveryServices) (tables : BetTables) : Prop :=
  services.unknownStateRecovery.isReconciling = false ∧ ∃ id, StillUnknown tables id

/-- Something other than a count of unknown bets keeps betting from being resumed. -/
inductive Blocked (config : RecoveryManagerConfig) (services : RecoveryServices)
    (tables : BetTables) (events : RecoveryEvents) : Prop
  | uncounted (fails : events.countFails = true)
  | unlisted (sweeps : Sweeps services tables) (fails : events.pageFails = true)
  | unreported (sweeps : Sweeps services tables) (bet : BetRecord)
    (listed : Listed services.unknownStateRecovery tables bet)
    (unresolved : ¬ Reported services.unknownStateRecovery bet (events.answers bet.id))
  | uncomputed (fails : events.balance.aggregate = none)
  | mismatched (requires : config.requireBalanceReconciliationBeforeResume = true)
    (off : ¬ BalanceMatches services.tolerance events.balance)

/-- Every unknown bet is swept and recorded: there is none, or no other sweep is running, the
page has room for all of them, and the settlement of each is written.
-/
def AllRecorded (services : RecoveryServices) (tables : BetTables) (events : RecoveryEvents)
    : Prop :=
  (∀ id, ¬ StillUnknown tables id)
  ∨ services.unknownStateRecovery.isReconciling = false
    ∧ (tables.rows.countP fun row => row.state = .unknown)
      ≤ services.unknownStateRecovery.maxBetsPerSweep
    ∧ ∀ id row, tables.bets.get id = some row → row.state = .unknown
      → Recorded services.unknownStateRecovery (mapRow { row with id }) (events.answers id)

/-- The reconciliation is required, and its count of the unknown bets works. -/
def Counted (config : RecoveryManagerConfig) (events : RecoveryEvents) : Prop :=
  config.requireBalanceReconciliationBeforeResume = true ∧ events.balance.countFails = false

variable {config : RecoveryManagerConfig} {services : RecoveryServices} {tables : BetTables}
variable {events : RecoveryEvents}

theorem unknownCount_eq_zero
    : (tables.rows.countP fun row => row.state = .unknown) = 0
      ↔ ∀ id, ¬ StillUnknown tables id := by
  rw [countP_rows_eq_zero]
  simp [StillUnknown]

/-- What lets betting resume. -/
theorem evaluateResumption_iff {stillUnknown : Option Nat} {reconciled : Option Bool}
    {errors : Nat}
    : evaluateResumption config stillUnknown reconciled errors = true
      ↔ errors = 0
        ∧ (config.requireZeroUnknownBeforeResume = true → stillUnknown.getD 0 = 0)
        ∧ (config.requireBalanceReconciliationBeforeResume = true
          → reconciled ≠ some false) := by
  unfold evaluateResumption
  split
  · next failed => exact iff_of_false Bool.false_ne_true fun resumes => by omega
  · next clean =>
      split
      · next unknown =>
          refine iff_of_false Bool.false_ne_true fun resumes => ?_
          have none := resumes.2.1 unknown.1
          omega
      · next none =>
          split
          · next off =>
              exact iff_of_false Bool.false_ne_true fun resumes => resumes.2.2 off.1 off.2
          · next matching =>
              refine iff_of_true rfl ⟨by omega, fun requires => ?_, fun requires off => ?_⟩
              · by_contra some
                exact none ⟨requires, Nat.pos_of_ne_zero some⟩
              · exact matching ⟨requires, off⟩

/-- What a sweep of the recovery leaves unknown. -/
theorem stillUnknown_sweepUnknown {id : String}
    : StillUnknown
        (sweepUnknown services tables events
          (tables.rows.countP fun row => row.state = .unknown)).1 id
      ↔ StillUnknown tables id
        ∧ (services.unknownStateRecovery.isReconciling = false → events.pageFails = false
          → ∀ bet, Listed services.unknownStateRecovery tables bet → bet.id = id
            → ¬ Recorded services.unknownStateRecovery bet (events.answers bet.id)) := by
  unfold sweepUnknown
  split
  · exact stillUnknown_sweep
  · next none =>
      have nobody := unknownCount_eq_zero.mp (Nat.eq_zero_of_not_pos none) id
      exact iff_of_false nobody fun unknown => nobody unknown.1

/-- The sweep of a recovery is clean exactly when it reports every bet that it lists. -/
theorem sweepUnknown_clean (services : RecoveryServices) (tables : BetTables)
    (events : RecoveryEvents)
    : let swept :=
        sweepUnknown services tables events
          (tables.rows.countP fun row => row.state = .unknown)
      stepErrors "Bet recovery failed: " swept.2 = []
        ∧ ((swept.2.bind Except.toOption).map (·.stillUnknown)).getD 0 = 0
      ↔ Sweeps services tables
        → events.pageFails = false ∧ ∀ bet, Listed services.unknownStateRecovery tables bet
          → Reported services.unknownStateRecovery bet (events.answers bet.id) := by
  unfold sweepUnknown
  split
  · next some =>
      have unknown : ∃ id, StillUnknown tables id := by
        by_contra none
        have zero := unknownCount_eq_zero.mpr (not_exists.mp none)
        omega
      simp only [Sweeps, unknown, and_true]
      rw [← sweep_clears_iff]
      cases (services.unknownStateRecovery.runRecoverySweep tables events.pageFails
        events.answers).2 <;> simp [stepErrors, Except.toOption]
  · next none =>
      have nobody := unknownCount_eq_zero.mp (Nat.eq_zero_of_not_pos none)
      simp [stepErrors, Sweeps, nobody]

/-- The expected balance is computed exactly when its query works. -/
theorem expectedBalance_cases (findings : BalanceFindings)
    : findings.aggregate = none ∧ findings.expectedBalance = .error "RECONCILE_COMPUTE_FAILED"
      ∨ findings.aggregate ≠ none ∧ ∃ expected, findings.expectedBalance = .ok expected := by
  unfold BalanceFindings.expectedBalance
  cases findings.aggregate with
  | none => exact .inl ⟨rfl, rfl⟩
  | some row =>
      refine .inr ⟨Option.some_ne_none row, ?_⟩
      dsimp only
      split
      · exact ⟨_, rfl⟩
      · split <;> exact ⟨_, rfl⟩

/-- The unresolved bets are none where the count fails, or where there are none. -/
theorem countUnresolvedBets_eq_zero {fails : Bool}
    : countUnresolvedBets tables fails = 0
      ↔ (fails = false → ∀ id, ¬ StillUnknown tables id) := by
  cases fails with
  | true => simp [countUnresolvedBets, BetTables.countByState]
  | false =>
      simp only [countUnresolvedBets, BetTables.countByState, Bool.false_eq_true, if_false,
        true_implies]
      exact unknownCount_eq_zero

/-- The reconciliation does not stand in the way exactly when its balance is computed and, if
it is required, matches while it counts no unknown bet.
-/
theorem reconcile_clean (config : RecoveryManagerConfig) (tolerance : Number)
    (tables : BetTables) (findings : BalanceFindings)
    : stepErrors "Balance reconciliation failed: " (some (reconcile tolerance tables findings))
          = []
        ∧ (config.requireBalanceReconciliationBeforeResume = true
          → (reconcile tolerance tables findings).toOption.map (·.reconciled) ≠ some false)
      ↔ findings.aggregate ≠ none
        ∧ (config.requireBalanceReconciliationBeforeResume = true
          → BalanceMatches tolerance findings
            ∧ (findings.countFails = false → ∀ id, ¬ StillUnknown tables id)) := by
  rcases expectedBalance_cases findings with ⟨none, failed⟩ | ⟨some, expected, computed⟩
  · simp [reconcile, failed, none, stepErrors]
  · rw [← countUnresolvedBets_eq_zero, and_iff_right some]
    cases observed : findings.currentBalance with
    | none => simp [reconcile, computed, observed, stepErrors, Except.toOption, BalanceMatches]
    | some actual =>
        simp [reconcile, computed, observed, stepErrors, Except.toOption, BalanceMatches]

/-- What it takes that nothing blocks a recovery. -/
theorem not_blocked_iff
    : ¬ Blocked config services tables events
      ↔ events.countFails = false
        ∧ (Sweeps services tables → events.pageFails = false
          ∧ ∀ bet, Listed services.unknownStateRecovery tables bet
            → Reported services.unknownStateRecovery bet (events.answers bet.id))
        ∧ events.balance.aggregate ≠ none
        ∧ (config.requireBalanceReconciliationBeforeResume = true
          → BalanceMatches services.tolerance events.balance) := by
  constructor
  · intro free
    refine ⟨?_, fun sweeps => ⟨?_, fun bet listed => ?_⟩, fun fails => ?_, fun requires => ?_⟩
    · exact Bool.eq_false_iff.mpr fun fails => free (.uncounted fails)
    · exact Bool.eq_false_iff.mpr fun fails => free (.unlisted sweeps fails)
    · exact not_not.mp fun unreported => free (.unreported sweeps bet listed unreported)
    · exact free (.uncomputed fails)
    · exact not_not.mp fun off => free (.mismatched requires off)
  · rintro ⟨counts, sweep, computes, balanced⟩ blocked
    cases blocked with
    | uncounted fails => exact Bool.false_ne_true (counts.symm.trans fails)
    | unlisted sweeps fails => exact Bool.false_ne_true ((sweep sweeps).1.symm.trans fails)
    | unreported sweeps bet listed unreported => exact unreported ((sweep sweeps).2 bet listed)
    | uncomputed fails => exact computes fails
    | mismatched requires off => exact off (balanced requires)

theorem runRecovery_tables (counts : events.countFails = false)
    : (runRecovery config services tables events).tables
      = (sweepUnknown services tables events
          (tables.rows.countP fun row => row.state = .unknown)).1 := by
  simp [runRecovery, BetTables.countByState, counts]

/-- Betting resumes exactly when nothing blocks it and the required count finds no unknown bet
after the sweep.
-/
theorem canResume_iff (requires : config.requireZeroUnknownBeforeResume = true)
    : (runRecovery config services tables events).result.canResume = true
      ↔ ¬ Blocked config services tables events
        ∧ (Counted config events
          → ∀ id, ¬ StillUnknown (runRecovery config services tables events).tables id) := by
  rw [not_blocked_iff]
  cases counts : events.countFails with
  | true => simp [runRecovery, BetTables.countByState, counts]
  | false =>
      rw [runRecovery_tables counts]
      simp only [runRecovery, BetTables.countByState, counts, Bool.false_eq_true, if_false,
        true_and]
      rw [evaluateResumption_iff, List.length_eq_zero_iff, List.append_eq_nil_iff]
      have sweep := sweepUnknown_clean services tables events
      have balance := reconcile_clean config services.tolerance
        (sweepUnknown services tables events
          (tables.rows.countP fun row => row.state = .unknown)).1 events.balance
      constructor
      · rintro ⟨⟨clean, computed⟩, cleared, reconciled⟩
        obtain ⟨computes, found⟩ := balance.mp ⟨computed, reconciled⟩
        exact ⟨⟨sweep.mp ⟨clean, cleared requires⟩, computes, fun required =>
          (found required).1⟩, fun counted => (found counted.1).2 counted.2⟩
      · rintro ⟨⟨swept, computes, balanced⟩, counted⟩
        obtain ⟨clean, cleared⟩ := sweep.mpr swept
        obtain ⟨computed, reconciled⟩ := balance.mpr
          ⟨computes, fun required => ⟨balanced required, fun counts => counted
            ⟨required, counts⟩⟩⟩
        exact ⟨⟨clean, computed⟩, fun _ => cleared, reconciled⟩

/-- Where a recovery that was not blocked leaves no bet unknown, all of them were recorded. -/
theorem allRecorded_of_resolved (free : ¬ Blocked config services tables events)
    (resolved : ∀ id, ¬ StillUnknown (runRecovery config services tables events).tables id)
    : AllRecorded services tables events := by
  have counts := (not_blocked_iff.mp free).1
  rw [runRecovery_tables counts] at resolved
  have recorded : ∀ id, StillUnknown tables id
      → services.unknownStateRecovery.isReconciling = false
        ∧ ∃ bet, Listed services.unknownStateRecovery tables bet ∧ bet.id = id
          ∧ Recorded services.unknownStateRecovery bet (events.answers bet.id) := by
    intro id unknown
    have moved := resolved id
    simp only [stillUnknown_sweepUnknown, unknown, true_and, not_forall, not_not] at moved
    obtain ⟨alone, -, bet, listed, same, recorded⟩ := moved
    exact ⟨alone, bet, listed, same, recorded⟩
  by_cases some : ∃ id, StillUnknown tables id
  · obtain ⟨first, unknown⟩ := some
    refine .inr ⟨(recorded first unknown).1, countP_le_of_findByState rfl ?_, ?_⟩
    · intro id row found here
      obtain ⟨-, bet, ⟨page, read, member⟩, rfl, -⟩ := recorded id ⟨row, found, here⟩
      obtain rfl := Except.ok.inj read
      exact List.mem_map_of_mem member
    · intro id row found here
      obtain ⟨-, bet, listed, rfl, written⟩ := recorded id ⟨row, found, here⟩
      rwa [← listed.eq_mapRow found]
  · exact .inl (not_exists.mp some)

/-- Where all unknown bets are recorded, a recovery that is not blocked leaves none. -/
theorem resolved_of_allRecorded (free : ¬ Blocked config services tables events)
    (recorded : AllRecorded services tables events) (id : String)
    : ¬ StillUnknown (runRecovery config services tables events).tables id := by
  obtain ⟨counts, sweep, -, -⟩ := not_blocked_iff.mp free
  rw [runRecovery_tables counts, stillUnknown_sweepUnknown]
  rintro ⟨⟨row, found, unknown⟩, kept⟩
  rcases recorded with none | ⟨alone, fits, written⟩
  · exact none id ⟨row, found, unknown⟩
  · obtain ⟨page, read, complete⟩ := findByState_complete fits
    obtain ⟨bet, member, rfl⟩ := List.mem_map.mp (complete id row found unknown)
    have listed : Listed services.unknownStateRecovery tables bet := ⟨page, read, member⟩
    refine kept alone (sweep ⟨alone, bet.id, row, found, unknown⟩).1 bet listed rfl ?_
    rw [listed.eq_mapRow found]
    exact written bet.id row found unknown

/-- With the requirement that no bet is unknown, a recovery is sound exactly when something
else blocks it, every unknown bet is recorded, or the required reconciliation counts them.
-/
theorem runRecovery_sound_iff (config : RecoveryManagerConfig) (services : RecoveryServices)
    (tables : BetTables) (events : RecoveryEvents)
    (requires : config.requireZeroUnknownBeforeResume = true)
    : Sound (runRecovery config services tables events)
      ↔ Blocked config services tables events ∨ AllRecorded services tables events
        ∨ Counted config events := by
  constructor
  · intro sound
    by_contra unsound
    simp only [not_or] at unsound
    obtain ⟨free, unrecorded, uncounted⟩ := unsound
    have resumes := (canResume_iff requires).mpr
      ⟨free, fun counted => absurd counted uncounted⟩
    exact unrecorded (allRecorded_of_resolved free (sound resumes))
  · intro safe resumes
    obtain ⟨free, counts⟩ := (canResume_iff requires).mp resumes
    rcases safe with blocked | recorded | counted
    · exact absurd blocked free
    · exact resolved_of_allRecorded free recorded
    · exact counts counted

/-- The provider establishes that a bet is lost. -/
def lostAnswers (_ : String) : BetRecoveryAnswers where
  round := .ok (some { finalConfirmedCrashPoint := some "1.5", observedCrashPoint := some "1.5" })
  evidence := .ok { status := some .lost, source := "provider" }
  now := 9

/-- A balance that is as expected, with a count of the unknown bets that fails. -/
def uncountedBalance : BalanceFindings where
  aggregate := some { baseline := some 1000, totalPnl := 0 }
  currentBalance := some 1000
  countFails := true

/-- This many unknown bets. -/
def unknownTables (bets : Nat) : BetTables :=
  betsOf ((List.range bets).map fun n => betRow (toString n) .unknown n)

/-- A page of unknown bets is recorded, and betting resumes with none left. -/
theorem recovery_records_page
    : let services : RecoveryServices := { unknownStateRecovery := { evidenceProvider := true } }
      let recovered :=
        runRecovery {} services (unknownTables 3)
          { answers := lostAnswers, balance := { uncountedBalance with countFails := false } }
      Sound recovered ∧ recovered.result.canResume = true
        ∧ recovered.tables.rows.map (·.state) = [.lost, .lost, .lost] := by
  intro services recovered
  exact ⟨(runRecovery_sound_iff _ _ _ _ rfl).mpr (.inr (.inr ⟨rfl, rfl⟩)),
    by decide +kernel, by decide +kernel⟩

/-- Betting resumes with the oldest of fifty-one bets unknown, whose sweep is full, and with a
bet unknown that is left to another sweep.
-/
theorem recovery_resumes_with_unknown
    : let services : RecoveryServices := { unknownStateRecovery := { evidenceProvider := true } }
      let crowded :=
        runRecovery {} services (unknownTables 51)
          { answers := lostAnswers, balance := uncountedBalance }
      let busy : RecoveryServices :=
        { unknownStateRecovery := { evidenceProvider := true, isReconciling := true } }
      let left :=
        runRecovery { requireBalanceReconciliationBeforeResume := false } busy (unknownTables 1)
          { answers := lostAnswers, balance := { uncountedBalance with countFails := false } }
      (crowded.result.canResume = true
        ∧ crowded.tables.bets.get "0" = some (betRow "0" .unknown 0) ∧ ¬ Sound crowded)
      ∧ left.result.canResume = true
        ∧ left.tables.bets.get "0" = some (betRow "0" .unknown 0) ∧ ¬ Sound left := by
  intro services crowded busy left
  obtain ⟨resumed, kept⟩ : crowded.result.canResume = true
      ∧ crowded.tables.bets.get "0" = some (betRow "0" .unknown 0) := by decide +kernel
  obtain ⟨resumedLeft, keptLeft⟩ : left.result.canResume = true
      ∧ left.tables.bets.get "0" = some (betRow "0" .unknown 0) := by decide +kernel
  exact ⟨⟨resumed, kept, fun sound => sound resumed "0" ⟨_, kept, rfl⟩⟩,
    resumedLeft, keptLeft, fun sound => sound resumedLeft "0" ⟨_, keptLeft, rfl⟩⟩

end CrashWave.Core
