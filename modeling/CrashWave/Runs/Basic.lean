import Mathlib.Data.List.Basic

/-! Runs of a deterministic step function: invariants, per-step laws, and what stays
forbidden after a trigger until a release. Nothing here depends on the stepped system.
-/

namespace Runs

variable {σ ε μ : Type*}

/-- The state reached from `start` by feeding `inputs` to `step` in order. -/
def run (step : σ → ε → σ) (start : σ) (inputs : List ε) : σ :=
  inputs.foldl step start

/-- The empty run stays where it starts. -/
@[simp] theorem run_nil (step : σ → ε → σ) (start : σ) : run step start [] = start := rfl

/-- A nonempty run takes its first step and continues from there. -/
@[simp] theorem run_cons (step : σ → ε → σ) (start : σ) (input : ε) (inputs : List ε)
    : run step start (input :: inputs) = run step (step start input) inputs := rfl

/-- A run over a concatenation goes on from where its first part ends. -/
theorem run_append (step : σ → ε → σ) (start : σ) (before after : List ε)
    : run step start (before ++ after) = run step (run step start before) after :=
  List.foldl_append

/-- A predicate kept by every step holds at the end of every run, by run induction. -/
theorem run_invariant {step : σ → ε → σ} {Inv : σ → Prop}
    (kept : ∀ state input, Inv state → Inv (step state input))
    {start : σ} (inputs : List ε) (initial : Inv start)
    : Inv (run step start inputs) := by
  induction inputs generalizing start with
  | nil => exact initial
  | cons input rest ih => exact ih (kept start input initial)

/-- Inputs that stand for others run as these. -/
theorem run_map {ι : Type*} (step : σ → ε → σ) (input : ι → ε) (start : σ) (items : List ι)
    : run step start (items.map input)
      = run (fun state item => step state (input item)) start items :=
  List.foldl_map

/-- A pass that tallies what its steps answer runs these steps, by run induction. -/
theorem tallied_fst {ο τ : Type*} (step : σ → ε → σ × ο) (tally : τ → ο → τ)
    (start : σ) (result : τ) (inputs : List ε)
    : (inputs.foldl
        (fun (state : σ × τ) input =>
          ((step state.1 input).1, tally state.2 (step state.1 input).2))
        (start, result)).1
      = run (fun state input => (step state input).1) start inputs := by
  induction inputs generalizing start result with
  | nil => rfl
  | cons input rest ih => exact ih _ _

/-- `law` holds of the state and the input of every step of the run. -/
def Always (step : σ → ε → σ) (law : σ → ε → Prop) : σ → List ε → Prop
  | _, [] => True
  | state, input :: rest => law state input ∧ Always step law (step state input) rest

/-- A law that can be checked at each step can be checked along a run. -/
instance Always.decidable {step : σ → ε → σ} {law : σ → ε → Prop}
    [∀ state input, Decidable (law state input)]
    : (start : σ) → (inputs : List ε) → Decidable (Always step law start inputs)
  | _, [] => .isTrue trivial
  | state, input :: rest =>
      have : Decidable (Always step law (step state input) rest) :=
        Always.decidable (step state input) rest
      inferInstanceAs (Decidable (law state input ∧ Always step law (step state input) rest))

/-- A law holds along a concatenation exactly when it holds along both parts. -/
theorem always_append {step : σ → ε → σ} {law : σ → ε → Prop} {start : σ}
    {before after : List ε}
    : Always step law start (before ++ after)
      ↔ Always step law start before ∧ Always step law (run step start before) after := by
  induction before generalizing start with
  | nil => simp [Always]
  | cons input rest ih => simp [Always, ih, and_assoc]

/-- A law of the inputs alone holds along every run over inputs that meet it. -/
theorem Always.of_forall_mem {step : σ → ε → σ} {law : σ → ε → Prop} {start : σ}
    {inputs : List ε} (met : ∀ input ∈ inputs, ∀ state, law state input)
    : Always step law start inputs := by
  induction inputs generalizing start with
  | nil => trivial
  | cons input rest ih =>
      obtain ⟨first, others⟩ := List.forall_mem_cons.mp met
      exact ⟨first start, ih others⟩

/-- Two laws that hold along a run hold together along it, by run induction. -/
theorem Always.and {step : σ → ε → σ} {law other : σ → ε → Prop} {start : σ} {inputs : List ε}
    (first : Always step law start inputs) (second : Always step other start inputs)
    : Always step (fun state input => law state input ∧ other state input) start inputs := by
  induction inputs generalizing start with
  | nil => trivial
  | cons input rest ih => exact ⟨⟨first.1, second.1⟩, ih first.2 second.2⟩

/-- A law implied step by step by another one holds along the same runs. -/
theorem Always.mono {step : σ → ε → σ} {law weaker : σ → ε → Prop}
    (imply : ∀ state input, law state input → weaker state input)
    {start : σ} {inputs : List ε} (h : Always step law start inputs)
    : Always step weaker start inputs := by
  induction inputs generalizing start with
  | nil => trivial
  | cons input rest ih => exact ⟨imply start input h.1, ih h.2⟩

/-- Laws that are the same step by step hold along the same runs. -/
theorem always_congr {step : σ → ε → σ} {law other : σ → ε → Prop}
    (same : ∀ state input, law state input ↔ other state input) (start : σ) (inputs : List ε)
    : Always step law start inputs ↔ Always step other start inputs :=
  ⟨.mono fun state input => (same state input).mp,
    .mono fun state input => (same state input).mpr⟩

/-- An invariant kept by the steps that meet `law` holds at the end of a lawful run. -/
theorem Always.invariant {step : σ → ε → σ} {law : σ → ε → Prop} {Inv : σ → Prop}
    (kept : ∀ state input, Inv state → law state input → Inv (step state input))
    {start : σ} {inputs : List ε} (lawful : Always step law start inputs)
    (initial : Inv start)
    : Inv (run step start inputs) := by
  induction inputs generalizing start with
  | nil => exact initial
  | cons input rest ih => exact ih lawful.2 (kept start input initial lawful.1)

/-- When every lawful step keeps the invariant and meets `goal`, the goal is met along
every lawful run from an invariant state, by run induction.
-/
theorem Always.of_invariant {step : σ → ε → σ} {law goal : σ → ε → Prop} {Inv : σ → Prop}
    (kept : ∀ state input,
      Inv state → law state input → goal state input ∧ Inv (step state input))
    {start : σ} {inputs : List ε} (lawful : Always step law start inputs)
    (initial : Inv start)
    : Always step goal start inputs := by
  induction inputs generalizing start with
  | nil => trivial
  | cons input rest ih =>
      obtain ⟨met, next⟩ := kept start input initial lawful.1
      exact ⟨met, ih lawful.2 next⟩

/-- Such a run also ends in an invariant state. -/
theorem Always.of_invariant_run {step : σ → ε → σ} {law goal : σ → ε → Prop} {Inv : σ → Prop}
    (kept : ∀ state input,
      Inv state → law state input → goal state input ∧ Inv (step state input))
    {start : σ} {inputs : List ε} (lawful : Always step law start inputs)
    (initial : Inv start)
    : Always step goal start inputs ∧ Inv (run step start inputs) :=
  ⟨.of_invariant kept lawful initial,
    lawful.invariant (fun state input inv met => (kept state input inv met).2) initial⟩

/-- An invariant that every step keeps, and that makes it meet `goal`, makes every run meet it
and end in an invariant state.
-/
theorem always_of_kept {step : σ → ε → σ} {goal : σ → ε → Prop} {Inv : σ → Prop}
    (kept : ∀ state input, Inv state → goal state input ∧ Inv (step state input))
    {start : σ} (inputs : List ε) (initial : Inv start)
    : Always step goal start inputs ∧ Inv (run step start inputs) := by
  have free : Always step (fun _ _ => True) start inputs :=
    .of_forall_mem fun _ _ _ => trivial
  exact free.of_invariant_run (fun state input inv _ => kept state input inv) initial

/-- Where a lawful step from an invariant state keeps the invariant exactly when it meets `goal`,
a lawful run stays invariant exactly when all its steps meet it, by run induction.
-/
theorem Always.invariant_iff {step : σ → ε → σ} {law goal : σ → ε → Prop} {Inv : σ → Prop}
    {start : σ} {inputs : List ε} (lawful : Always step law start inputs)
    (kept : ∀ state input,
      law state input → Inv state → (Inv (step state input) ↔ goal state input))
    (initial : Inv start)
    : Always step (fun state input => Inv (step state input)) start inputs
      ↔ Always step goal start inputs := by
  induction inputs generalizing start with
  | nil => exact Iff.rfl
  | cons input rest ih =>
      constructor
      · intro stays
        exact ⟨(kept start input lawful.1 initial).mp stays.1,
          (ih lawful.2 stays.1).mp stays.2⟩
      · intro met
        have next : Inv (step start input) := (kept start input lawful.1 initial).mpr met.1
        exact ⟨next, (ih lawful.2 next).mpr met.2⟩

/-- So it does along every run where no law is needed. -/
theorem always_invariant_iff {step : σ → ε → σ} {law : σ → ε → Prop} {Inv : σ → Prop}
    (kept : ∀ state input, Inv state → (Inv (step state input) ↔ law state input))
    {start : σ} (inputs : List ε) (initial : Inv start)
    : Always step (fun state input => Inv (step state input)) start inputs
      ↔ Always step law start inputs := by
  have free : Always step (fun _ _ => True) start inputs :=
    .of_forall_mem fun _ _ _ => trivial
  exact free.invariant_iff (fun state input _ inv => kept state input inv) initial

/-- Laws of two systems that are the same in related states hold along the same runs of both,
where the steps that meet the second law keep the states related, by run induction.
-/
theorem always_iff_of_simulation {τ : Type*} {step : σ → ε → σ} {other : τ → ε → τ}
    {law : σ → ε → Prop} {goal : τ → ε → Prop} {Related : σ → τ → Prop}
    (same : ∀ state image input, Related state image → (law state input ↔ goal image input))
    (kept : ∀ state image input,
      Related state image → goal image input
      → Related (step state input) (other image input))
    {start : σ} {image : τ} (inputs : List ε) (initial : Related start image)
    : Always step law start inputs ↔ Always other goal image inputs := by
  induction inputs generalizing start image with
  | nil => exact Iff.rfl
  | cons input rest ih =>
      constructor
      · intro lawful
        have first := (same start image input initial).mp lawful.1
        exact ⟨first, (ih (kept start image input initial first)).mp lawful.2⟩
      · intro lawful
        refine ⟨(same start image input initial).mpr lawful.1, ?_⟩
        exact (ih (kept start image input initial lawful.1)).mpr lawful.2

/-- Laws that are the same in invariant states hold along the same runs from there, where the
second one keeps the invariant.
-/
theorem always_iff_of_invariant {step : σ → ε → σ} {law other : σ → ε → Prop} {Inv : σ → Prop}
    (same : ∀ state input, Inv state → (law state input ↔ other state input))
    (kept : ∀ state input, Inv state → other state input → Inv (step state input))
    {start : σ} (inputs : List ε) (initial : Inv start)
    : Always step law start inputs ↔ Always step other start inputs := by
  let Related : σ → σ → Prop := fun state image => state = image ∧ Inv state
  have same' : ∀ state image input,
      Related state image → (law state input ↔ other image input) := by
    intro state image input related
    obtain ⟨rfl, inv⟩ := related
    exact same state input inv
  have kept' : ∀ state image input,
      Related state image → other image input
      → Related (step state input) (step image input) := by
    intro state image input related lawful
    obtain ⟨rfl, inv⟩ := related
    exact ⟨rfl, kept state input inv lawful⟩
  exact always_iff_of_simulation same' kept' inputs ⟨rfl, initial⟩

/-- What a lawful step leaves true exactly when it was true before or the step triggers it is
true at the end of a lawful run exactly when it was at the start or one of the steps triggers
it, by run induction.
-/
theorem Always.run_iff_triggered {step : σ → ε → σ} {law trigger : σ → ε → Prop}
    {Inv latched : σ → Prop}
    (kept : ∀ state input, Inv state → law state input → Inv (step state input))
    (latches : ∀ state input, Inv state → law state input →
      (latched (step state input) ↔ latched state ∨ trigger state input))
    {start : σ} {inputs : List ε} (lawful : Always step law start inputs) (initial : Inv start)
    : latched (run step start inputs)
      ↔ latched start
        ∨ ∃ before input after, inputs = before ++ input :: after
            ∧ trigger (run step start before) input := by
  induction inputs generalizing start with
  | nil => simp
  | cons input rest ih =>
      rw [run_cons, ih lawful.2 (kept start input initial lawful.1),
        latches start input initial lawful.1]
      constructor
      · intro reached
        rcases reached with (already | now) | ⟨before, later, after, rfl, triggered⟩
        · exact .inl already
        · exact .inr ⟨[], input, rest, rfl, now⟩
        · exact .inr ⟨input :: before, later, after, rfl, triggered⟩
      · intro reached
        rcases reached with already | ⟨before, later, after, split, triggered⟩
        · exact .inl (.inl already)
        · cases before with
          | nil =>
              obtain ⟨rfl, rfl⟩ := List.cons.inj split
              exact .inl (.inr triggered)
          | cons first before =>
              obtain ⟨rfl, rfl⟩ := List.cons.inj split
              exact .inr ⟨before, later, after, rfl, triggered⟩

/-- Names that are all distinct are unused when their turn comes, where a step uses only the one
that its input brings, by run induction.
-/
theorem Always.of_nodup {ι : Type*} {step : σ → ε → σ} {name : ε → Option ι}
    {Unused : σ → ι → Prop}
    (kept : ∀ state input other,
      Unused state other → name input ≠ some other → Unused (step state input) other)
    {start : σ} {inputs : List ε} (unused : ∀ other ∈ inputs.filterMap name, Unused start other)
    (distinct : (inputs.filterMap name).Nodup)
    : Always step (fun state input => ∀ own, name input = some own → Unused state own)
        start inputs := by
  induction inputs generalizing start with
  | nil => trivial
  | cons input rest ih =>
      cases brings : name input with
      | none =>
          rw [List.filterMap_cons_none brings] at unused distinct
          refine ⟨fun own named => ?_, ih ?_ distinct⟩
          · rw [brings] at named
            cases named
          · intro other member
            exact kept start input other (unused other member) (by simp [brings])
      | some first =>
          rw [List.filterMap_cons_some brings] at unused distinct
          obtain ⟨new, distinct⟩ := List.nodup_cons.mp distinct
          refine ⟨fun own named => ?_, ih ?_ distinct⟩
          · obtain rfl : first = own := Option.some.inj (brings.symm.trans named)
            exact unused first List.mem_cons_self
          · intro other member
            refine kept start input other (unused other (List.mem_cons_of_mem _ member)) ?_
            rw [brings]
            intro same
            exact new (Option.some.inj same ▸ member)

/-- No `bad` step occurs along the run up to and including the first `release` step. -/
def Unless (step : σ → ε → σ) (release bad : σ → ε → Prop) : σ → List ε → Prop
  | _, [] => True
  | state, input :: rest =>
      ¬ bad state input
      ∧ (release state input ∨ Unless step release bad (step state input) rest)

/-- Checkable steps make the until-released law of a run checkable. -/
instance Unless.decidable {step : σ → ε → σ} {release bad : σ → ε → Prop}
    [∀ state input, Decidable (release state input)]
    [∀ state input, Decidable (bad state input)]
    : (start : σ) → (inputs : List ε) → Decidable (Unless step release bad start inputs)
  | _, [] => .isTrue trivial
  | state, input :: rest =>
      have : Decidable (Unless step release bad (step state input) rest) :=
        Unless.decidable (step state input) rest
      inferInstanceAs (Decidable (¬ bad state input
        ∧ (release state input ∨ Unless step release bad (step state input) rest)))

/-- An invariant of the lawful steps that forbids bad ones, and that only a release step
can end, keeps them out until the release, by run induction.
-/
theorem Unless.of_invariant {step : σ → ε → σ} {law release bad : σ → ε → Prop}
    {Inv : σ → Prop}
    (safe : ∀ state input, Inv state → law state input → ¬ bad state input)
    (kept : ∀ state input,
      Inv state → law state input → release state input ∨ Inv (step state input))
    {start : σ} {inputs : List ε} (lawful : Always step law start inputs)
    (initial : Inv start)
    : Unless step release bad start inputs := by
  induction inputs generalizing start with
  | nil => trivial
  | cons input rest ih =>
      refine ⟨safe start input initial lawful.1, ?_⟩
      exact (kept start input initial lawful.1).imp_right (ih lawful.2)

/-- A step together with a monitor that watches it. The monitor sees the state before the
step and never influences it.
-/
def watched (step : σ → ε → σ) (monitor : μ → σ → ε → μ) (state : σ × μ) (input : ε)
    : σ × μ :=
  (step state.1 input, monitor state.2 state.1 input)

/-- Watching a run does not change it, by run induction. -/
theorem run_watched_fst (step : σ → ε → σ) (monitor : μ → σ → ε → μ)
    (start : σ × μ) (inputs : List ε)
    : (run (watched step monitor) start inputs).1 = run step start.1 inputs := by
  induction inputs generalizing start with
  | nil => rfl
  | cons input rest ih => exact ih (watched step monitor start input)

/-- A list around one of its places, and what replacing or erasing it leaves. -/
theorem exists_around {α : Type*} {items : List α} {index : Nat} {item : α}
    (found : items[index]? = some item) (other : α)
    : ∃ before after, items = before ++ item :: after
      ∧ items.set index other = before ++ other :: after
      ∧ items.eraseIdx index = before ++ after := by
  induction items generalizing index with
  | nil => cases found
  | cons first rest ih =>
      cases index with
      | zero =>
          obtain rfl : first = item := Option.some_inj.mp found
          exact ⟨[], rest, rfl, rfl, rfl⟩
      | succ index =>
          obtain ⟨before, after, whole, replaced, erased⟩ := ih found
          exact ⟨first :: before, after, congrArg _ whole, congrArg _ replaced,
            congrArg _ erased⟩

end Runs
