import Mathlib.Data.List.Induction
import CrashWave.JavaScript.Number

/-! The evaluation of the targets 1.3, 2 and 5, and the selection of one. The text of the reason is
left out.
-/

namespace JavaScript.Number

theorem lt_irrefl (a : Number) : ¬ a < a := fun below => lt_asymm below below

theorem lt_trans {a b c : Number} (first : a < b) (second : b < c) : a < c := by
  cases b with
  | nan => cases a <;> cases first
  | infinity middle =>
      cases a <;> cases c <;> cases middle <;> simp_all [LT.lt, lt]
  | finite middle =>
      cases a with
      | nan => cases first
      | infinity negative =>
          cases c with
          | nan => cases second
          | infinity last => cases negative <;> cases last <;> simp_all [LT.lt, lt]
          | finite last => exact first
      | finite value =>
          cases c with
          | nan => cases second
          | infinity last => exact second
          | finite last =>
              have below : value < middle := of_decide_eq_true first
              exact decide_eq_true (below.trans (of_decide_eq_true second))

end JavaScript.Number

namespace CrashWave.Targets

open JavaScript

inductive MultiTarget where
  | onePointThree
  | two
  | five
  deriving DecidableEq

def MultiTarget.value : MultiTarget → Number
  | .onePointThree => .finite 1.3
  | .two => .finite 2
  | .five => .finite 5

/-- `MULTI_TARGETS`. -/
def multiTargets : List MultiTarget := [.onePointThree, .two, .five]

structure TargetAssessment where
  target : MultiTarget
  rawProbability : Number
  calibratedProbability : Number
  confidence : Number
  sampleSize : Number
  historicalHitRate : Number
  expectedValue : Number
  shrunkEV : Number
  deriving DecidableEq

structure MultiTargetSelection where
  selected : TargetAssessment
  alternatives : List TargetAssessment
  switchedFromDefault : Bool
  deriving DecidableEq

def defaultTarget : MultiTarget := .onePointThree

structure MultiTargetPolicy where
  minConfidence : Number := .finite 0.45
  minSampleSize : Number := 40
  minSwitchMarginEV : Number := .finite 0.04
  shrinkageStrength : Number := .finite 0.35

/-- The parameters of `assess`; a rate that is missing is undefined. -/
structure AssessParams where
  probabilities : MultiTarget → Option Number
  calibrated : MultiTarget → Option Number
  confidence : Number
  sampleSize : Number
  historicalHitRates : MultiTarget → Option Number

namespace MultiTargetEngine

variable (policy : MultiTargetPolicy)

def assess (params : AssessParams) : List TargetAssessment :=
  multiTargets.map fun t =>
    let raw := (params.probabilities t).getD (.finite 0.5)
    let cal := (params.calibrated t).getD raw
    let hist := (params.historicalHitRates t).getD raw
    let ev := cal * t.value - 1
    let k := Number.max 1 (policy.shrinkageStrength * 100)
    let n := Number.max 0 params.sampleSize
    let shrink := k / (k + n)
    let baselineEV := hist * t.value - 1
    {
      target := t
      rawProbability := raw
      calibratedProbability := cal
      confidence := params.confidence
      sampleSize := params.sampleSize
      historicalHitRate := hist
      expectedValue := ev
      shrunkEV := (1 - shrink) * ev + shrink * baselineEV
    }

/-- One turn of the loop of `select`. -/
def better (def' best a : TargetAssessment) : TargetAssessment :=
  if a.target = defaultTarget then best
  else if a.confidence < policy.minConfidence then best
  else if a.sampleSize < policy.minSampleSize then best
  else if a.shrunkEV < def'.shrunkEV + policy.minSwitchMarginEV then best
  else if best.shrunkEV < a.shrunkEV then a
  else best

/-- `select`; nothing where it throws, which it does without any assessment. -/
def select (assessments : List TargetAssessment) : Option MultiTargetSelection :=
  ((assessments.find? (·.target = defaultTarget)).or assessments.head?).map fun def' =>
    let best := assessments.foldl (better policy def') def'
    {
      selected := best
      alternatives := assessments.filter (·.target ≠ best.target)
      switchedFromDefault := best.target ≠ defaultTarget
    }

end MultiTargetEngine

-----------------------------------------------------------------------------------------
-- Selected targets
-----------------------------------------------------------------------------------------

/-- Another target, which is not below any bound of the policy, nor closer to the default than the
margin.
-/
structure Qualifies (policy : MultiTargetPolicy) (def' a : TargetAssessment) : Prop where
  other : a.target ≠ defaultTarget
  confident : ¬ a.confidence < policy.minConfidence
  sampled : ¬ a.sampleSize < policy.minSampleSize
  margin : ¬ a.shrunkEV < def'.shrunkEV + policy.minSwitchMarginEV

variable {policy : MultiTargetPolicy} {def' best a : TargetAssessment}

theorem better_cases (policy : MultiTargetPolicy) (def' best a : TargetAssessment)
    : (Qualifies policy def' a ∧ best.shrunkEV < a.shrunkEV
        ∧ MultiTargetEngine.better policy def' best a = a)
      ∨ ((Qualifies policy def' a → ¬ best.shrunkEV < a.shrunkEV)
        ∧ MultiTargetEngine.better policy def' best a = best) := by
  unfold MultiTargetEngine.better
  split
  · next same => exact .inr ⟨fun qualifies => absurd same qualifies.other, rfl⟩
  · next other =>
      split
      · next unsure => exact .inr ⟨fun qualifies => absurd unsure qualifies.confident, rfl⟩
      · next confident =>
          split
          · next few => exact .inr ⟨fun qualifies => absurd few qualifies.sampled, rfl⟩
          · next sampled =>
              split
              · next close => exact .inr ⟨fun qualifies => absurd close qualifies.margin, rfl⟩
              · next margin =>
                  split
                  · next above => exact .inl ⟨⟨other, confident, sampled, margin⟩, above, rfl⟩
                  · next below => exact .inr ⟨fun _ => below, rfl⟩

/-- The best so far is the default or qualifies, and nothing that qualifies is above it. -/
structure BestOf (policy : MultiTargetPolicy) (def' : TargetAssessment)
    (assessments : List TargetAssessment) (best : TargetAssessment) : Prop where
  found : best = def' ∨ best ∈ assessments ∧ Qualifies policy def' best
  maximal : ∀ a ∈ assessments, Qualifies policy def' a → ¬ best.shrunkEV < a.shrunkEV

/-- One assessment more. -/
theorem BestOf.better {assessments : List TargetAssessment}
    (bestOf : BestOf policy def' assessments best) (a : TargetAssessment)
    : BestOf policy def' (assessments ++ [a]) (MultiTargetEngine.better policy def' best a) := by
  rcases better_cases policy def' best a with ⟨qualifies, above, next⟩ | ⟨below, next⟩
  · rw [next]
    refine ⟨.inr ⟨by simp, qualifies⟩, fun other among qualifies' => ?_⟩
    rcases List.mem_append.mp among with earlier | now
    · exact fun higher => bestOf.maximal other earlier qualifies' (Number.lt_trans above higher)
    · rw [List.mem_singleton.mp now]
      exact Number.lt_irrefl _
  · rw [next]
    refine ⟨?_, fun other among qualifies' => ?_⟩
    · rcases bestOf.found with same | ⟨member, qualifies⟩
      · exact .inl same
      · exact .inr ⟨List.mem_append_left _ member, qualifies⟩
    · rcases List.mem_append.mp among with earlier | now
      · exact bestOf.maximal other earlier qualifies'
      · rw [List.mem_singleton.mp now] at qualifies' ⊢
        exact below qualifies'

/-- The loop of `select`, by induction on the assessments backwards. -/
theorem bestOf_foldl (policy : MultiTargetPolicy) (def' : TargetAssessment)
    (assessments : List TargetAssessment)
    : BestOf policy def' assessments
        (assessments.foldl (MultiTargetEngine.better policy def') def') := by
  induction assessments using List.reverseRecOn with
  | nil => exact ⟨.inl rfl, by simp⟩
  | append_singleton assessments last ih =>
      rw [List.foldl_append]
      exact ih.better last

/-- The default evaluation, or the first one in its stead, is left for one that qualifies and that
no other one which does is above; it is kept only if none that qualifies is above it.
-/
structure SelectLaw (policy : MultiTargetPolicy) (assessments : List TargetAssessment)
    (def' : TargetAssessment) (selection : MultiTargetSelection) : Prop where
  switched : selection.switchedFromDefault = true ↔ selection.selected.target ≠ defaultTarget
  kept : selection.switchedFromDefault = false → selection.selected = def'
  left : selection.selected ≠ def' →
    selection.selected ∈ assessments ∧ Qualifies policy def' selection.selected
  maximal : ∀ a ∈ assessments, Qualifies policy def' a → ¬ selection.selected.shrunkEV < a.shrunkEV

/-- A list is selected from by law, next to its evaluation of the default target or its first. -/
theorem select_law (policy : MultiTargetPolicy) {assessments : List TargetAssessment}
    (found : (assessments.find? (·.target = defaultTarget)).or assessments.head? = some def')
    : ∃ selection, MultiTargetEngine.select policy assessments = some selection
      ∧ SelectLaw policy assessments def' selection := by
  have best := bestOf_foldl policy def' assessments
  refine ⟨_, by rw [MultiTargetEngine.select, found]; rfl, ?_⟩
  constructor
  · exact decide_eq_true_iff
  · intro stays
    rcases best.found with same | ⟨_, qualifies⟩
    · exact same
    · exact absurd qualifies.other (by simpa using stays)
  · intro leaves
    exact best.found.resolve_left leaves
  · exact best.maximal

/-- Without an evaluation of the default target, the first one is selected, whatever its confidence
is.
-/
theorem select_without_default
    : let assessment : TargetAssessment :=
        {
          target := .two
          rawProbability := 0
          calibratedProbability := 0
          confidence := 0
          sampleSize := 0
          historicalHitRate := 0
          expectedValue := 0
          shrunkEV := 0
        }
      MultiTargetEngine.select {} [assessment]
          = some { selected := assessment, alternatives := [], switchedFromDefault := true }
        ∧ assessment.confidence < ({} : MultiTargetPolicy).minConfidence := by
  decide +kernel

end CrashWave.Targets
