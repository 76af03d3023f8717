import CrashWave.Ledger.Reconciliation

/-! Which evidence the engine announces to be enough, and which it then decides on. -/

namespace CrashWave.Ledger

open JavaScript

/-- `canAutoReconcile`. The crash point is not looked at. -/
def ReconciliationEngine.canAutoReconcile (evidence : ReconciliationEvidence) : Bool :=
  match evidence.gameApiShowsCashOut, evidence.gameApiMultiplier with
  | some true, some _ => true
  | some false, _ => true
  | _, _ =>
      match evidence.balanceDeltaIsolated, evidence.balanceBefore, evidence.balanceAfter with
      | true, some balanceBefore, some balanceAfter =>
          decide (.finite (1 / 100) < (balanceAfter - balanceBefore).abs)
      | _, _, _ => false

/-- The game shows a cash-out with its multiplier, or that there was none. -/
def ReconciliationEvidence.gameApiDecides (evidence : ReconciliationEvidence) : Prop :=
  (evidence.gameApiShowsCashOut = some true ∧ evidence.gameApiMultiplier ≠ none)
  ∨ evidence.gameApiShowsCashOut = some false

/-- The change of the balance that is attributed to the bet. -/
def ReconciliationEvidence.isolatedChange (evidence : ReconciliationEvidence) : Option Number :=
  match evidence.balanceDeltaIsolated, evidence.balanceBefore, evidence.balanceAfter with
  | true, some balanceBefore, some balanceAfter => some (balanceAfter - balanceBefore)
  | _, _, _ => none

/-- The change is within a cent of what the bet wins or loses. -/
def matchesSettlement (stake target change : Number) : Bool :=
  withinCent change (stake * (target - 1)) || withinCent change stake.neg

/-- A change of the balance on which the announcement and the decision are alike: there is a
movement, and it is of more than a cent exactly if it is the win or the loss of the bet.
-/
def Announced (stake target change : Number) : Prop :=
  ¬ change.abs < .finite (1 / 100)
  ∧ (.finite (1 / 100) < change.abs ↔ matchesSettlement stake target change = true)

/-- Decisive evidence of the game is announced, and decided on. -/
theorem gameApi_decided {evidence : ReconciliationEvidence} (decided : evidence.gameApiDecides)
    (betId : String) (stake target : Number)
    : ReconciliationEngine.canAutoReconcile evidence = true
      ∧ (ReconciliationEngine.reconcile betId stake target evidence).resolution ≠ .unknown := by
  rcases decided with ⟨shown, priced⟩ | shown
  · obtain ⟨multiplier, stated⟩ := Option.ne_none_iff_exists'.mp priced
    simp [ReconciliationEngine.canAutoReconcile, ReconciliationEngine.reconcile, shown, stated,
      buildResult]
  · simp [ReconciliationEngine.canAutoReconcile, ReconciliationEngine.reconcile, shown,
      buildResult]

/-- Without it the announcement rests on the isolated change alone. -/
theorem canAutoReconcile_eq {evidence : ReconciliationEvidence}
    (undecided : ¬ evidence.gameApiDecides)
    : ReconciliationEngine.canAutoReconcile evidence
      = (evidence.isolatedChange.map fun change =>
          decide (.finite (1 / 100) < change.abs)).getD false := by
  unfold ReconciliationEngine.canAutoReconcile ReconciliationEvidence.isolatedChange
  split
  · rename_i shown stated
    exact absurd (.inl ⟨shown, by simp [stated]⟩) undecided
  · rename_i shown
    exact absurd (.inr shown) undecided
  · split <;> rfl

/-- The second strategy decides exactly on a win, a loss or no movement. -/
theorem reconcileBalance_decides (betId : String) (stake target : Number)
    (evidence : ReconciliationEvidence)
    : (((reconcileBalance betId stake target evidence).getD
        (buildResult betId .unknown none none
          "Insufficient evidence for automatic reconciliation" .roundHistory)).resolution
        ≠ .unknown)
      ↔ ∃ change, evidence.isolatedChange = some change
          ∧ (matchesSettlement stake target change = true
            ∨ change.abs < .finite (1 / 100)) := by
  obtain ⟨before, after, shown, multiplier, isolated⟩ := evidence
  cases isolated with
  | false => simp [reconcileBalance, ReconciliationEvidence.isolatedChange, buildResult]
  | true =>
      cases before with
      | none => simp [reconcileBalance, ReconciliationEvidence.isolatedChange, buildResult]
      | some balanceBefore =>
          cases after with
          | none => simp [reconcileBalance, ReconciliationEvidence.isolatedChange, buildResult]
          | some balanceAfter =>
              simp only [reconcileBalance, ReconciliationEvidence.isolatedChange,
                Option.some.injEq, exists_eq_left', matchesSettlement, Bool.or_eq_true]
              split
              · rename_i won
                simp [buildResult, won]
              · split
                · rename_i lost
                  simp [buildResult, lost]
                · split
                  · rename_i unmoved
                    simp only [unmoved, or_true, iff_true]
                    exact ReconciliationResolution.noConfusion
                  · rename_i notWon notLost moved
                    simp [notWon, notLost, -one_div, moved, buildResult]

/-- Without decisive evidence of the game a bet is decided exactly on such a change. -/
theorem reconcile_decides {evidence : ReconciliationEvidence}
    (undecided : ¬ evidence.gameApiDecides) (betId : String) (stake target : Number)
    : (ReconciliationEngine.reconcile betId stake target evidence).resolution ≠ .unknown
      ↔ ∃ change, evidence.isolatedChange = some change
          ∧ (matchesSettlement stake target change = true
            ∨ change.abs < .finite (1 / 100)) := by
  rw [← reconcileBalance_decides betId stake target evidence]
  unfold ReconciliationEngine.reconcile
  split
  · rename_i shown stated
    exact absurd (.inl ⟨shown, by simp [stated]⟩) undecided
  · rename_i shown
    exact absurd (.inr shown) undecided
  · rfl

/-- The announcement is right exactly if the game decides, no change of the balance is isolated,
or the isolated one is a movement that is of more than a cent exactly if it is the win or the
loss of the bet.
-/
theorem canAutoReconcile_predicts_iff (betId : String) (stake target : Number)
    (evidence : ReconciliationEvidence)
    : (ReconciliationEngine.canAutoReconcile evidence = true
        ↔ (ReconciliationEngine.reconcile betId stake target evidence).resolution ≠ .unknown)
      ↔ evidence.gameApiDecides
        ∨ ∀ change, evidence.isolatedChange = some change → Announced stake target change := by
  by_cases decided : evidence.gameApiDecides
  · obtain ⟨announced, resolved⟩ := gameApi_decided decided betId stake target
    simp [announced, resolved, decided]
  · rw [canAutoReconcile_eq decided, reconcile_decides decided]
    cases isolated : evidence.isolatedChange with
    | none => simp
    | some change =>
        have small : change.abs < .finite (1 / 100) → ¬ .finite (1 / 100) < change.abs :=
          Number.lt_asymm
        simp only [Option.map_some, Option.getD_some, decide_eq_true_eq, Option.some.injEq,
          exists_eq_left', forall_eq', decided, false_or, Announced]
        constructor
        · intro agree
          have moved : ¬ change.abs < .finite (1 / 100) := fun below =>
            small below (agree.mpr (.inr below))
          exact ⟨moved, by simpa only [moved, or_false] using agree⟩
        · rintro ⟨moved, agree⟩
          simpa only [moved, or_false] using agree

/-- The evidence of a balance that moved from 5000 by the amount, and nothing else. -/
def balanceMovedTo (balanceAfter : Number) : ReconciliationEvidence where
  balanceBefore := some 5000
  balanceAfter := some balanceAfter
  balanceDeltaIsolated := true

/-- A movement of 100 is announced for a bet of 700 and not decided on; none at all is decided
on and not announced.
-/
theorem unmatched_movement_announced
    : ¬ ((ReconciliationEngine.canAutoReconcile (balanceMovedTo 5100) = true
        ↔ (ReconciliationEngine.reconcile "bet-1" 700 2 (balanceMovedTo 5100)).resolution
          ≠ .unknown))
      ∧ ¬ ((ReconciliationEngine.canAutoReconcile (balanceMovedTo 5000) = true
        ↔ (ReconciliationEngine.reconcile "bet-1" 700 2 (balanceMovedTo 5000)).resolution
          ≠ .unknown)) := by
  decide +kernel

end CrashWave.Ledger
