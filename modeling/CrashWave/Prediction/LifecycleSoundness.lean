import CrashWave.Prediction.ModelLifecycle
import CrashWave.Runs.Basic

/-! When the stages, the shares and the production name of the models stay in agreement, and what
the automatic rollback does to the canary.
-/

namespace CrashWave.ModelLifecycle

open JavaScript Runs

variable {manager : ModelLifecycleManager} {registry : ModelRegistry}
  {rec : ModelVersionRecord}

-----------------------------------------------------------------------------------------
-- Agreement of the registered models
-----------------------------------------------------------------------------------------

/-- The share of a record fits its stage. -/
structure Fitting (rec : ModelVersionRecord) : Prop where
  idle : rec.stage = .shadow ∨ rec.stage = .deprecation → rec.trafficShare = 0
  full : rec.stage = .production → rec.trafficShare = 1

instance : Decidable (Fitting rec) :=
  decidable_of_iff
    ((rec.stage = .shadow ∨ rec.stage = .deprecation → rec.trafficShare = 0)
      ∧ (rec.stage = .production → rec.trafficShare = 1))
    ⟨fun both => ⟨both.1, both.2⟩, fun fitting => ⟨fitting.idle, fitting.full⟩⟩

/-- The key has a model in production. -/
def InProduction (registry : ModelRegistry) (key : String) : Prop :=
  ∃ rec, registry.get key = some rec ∧ rec.stage = .production

/-- At most one model is in production, the production name is the key of exactly that model, and
all shares fit.
-/
structure Sound (manager : ModelLifecycleManager) : Prop where
  single : ∀ key other, InProduction manager.models key → InProduction manager.models other →
    key = other
  pointer : ∀ key, manager.productionName = some key ↔ InProduction manager.models key
  shares : ∀ key rec, manager.models.get key = some rec → Fitting rec

theorem Sound.of_pointer
    (pointer : ∀ key, manager.productionName = some key ↔ InProduction manager.models key)
    (shares : ∀ key rec, manager.models.get key = some rec → Fitting rec)
    : Sound manager := by
  refine ⟨?_, pointer, shares⟩
  intro key other first second
  have named := (pointer key).mpr first
  rw [(pointer other).mpr second] at named
  exact (Option.some_inj.mp named).symm

theorem sound_empty : Sound {} := by
  refine .of_pointer ?_ ?_
  · intro key
    refine iff_of_false (by simp) ?_
    intro production
    obtain ⟨rec, found, _⟩ := production
    cases found
  · intro key rec found
    cases found

theorem get_set_key : (registry.set rec).get rec.key = some rec := Map.get_set_self _ _ _

theorem get_set_of_ne {key : String} (other : key ≠ rec.key)
    : (registry.set rec).get key = registry.get key := Map.get_set_of_ne _ _ other

theorem get_retire {test : ModelVersionRecord → Bool} {key : String}
    : (registry.retire test).get key
      = (registry.get key).map fun rec => if test rec then rec.deprecated else rec :=
  Map.get_mapValues _ _ _

/-- A written record is the one in production under its key. -/
theorem inProduction_set {key : String}
    : InProduction (registry.set rec) key
      ↔ if key = rec.key then rec.stage = .production else InProduction registry key := by
  split
  · next same =>
      subst same
      simp only [InProduction, get_set_key, Option.some_inj, exists_eq_left']
  · next other => simp only [InProduction, get_set_of_ne other]

/-- A retired record is not in production. -/
theorem inProduction_retire {test : ModelVersionRecord → Bool} {key : String}
    : InProduction (registry.retire test) key
      ↔ ∃ rec, registry.get key = some rec ∧ rec.stage = .production ∧ ¬ test rec := by
  simp only [InProduction, get_retire, Option.map_eq_some_iff]
  constructor
  · intro production
    obtain ⟨_, ⟨rec, found, rfl⟩, stage⟩ := production
    by_cases tested : test rec = true
    · rw [if_pos tested] at stage
      cases stage
    · rw [if_neg tested] at stage
      exact ⟨rec, found, stage, tested⟩
  · intro production
    obtain ⟨rec, found, stage, tested⟩ := production
    exact ⟨rec, ⟨rec, found, if_neg tested⟩, stage⟩

theorem fitting_deprecated : Fitting rec.deprecated :=
  ⟨fun _ => rfl, fun stage => by cases stage⟩

/-- Retiring keeps the shares fitting. -/
theorem fitting_retire {test : ModelVersionRecord → Bool}
    (shares : ∀ key rec, registry.get key = some rec → Fitting rec)
    : ∀ key rec, (registry.retire test).get key = some rec → Fitting rec := by
  intro key rec found
  rw [get_retire] at found
  obtain ⟨old, present, rfl⟩ := Option.map_eq_some_iff.mp found
  split
  · exact fitting_deprecated
  · exact shares key old present

/-- A write is sound when the name points to it exactly for production, all other models agree
with the name, and its share fits.
-/
theorem sound_set_iff {name : Option String}
    (others : ∀ key rec, registry.get key = some rec → Fitting rec)
    : Sound { models := registry.set rec, productionName := name }
      ↔ (name = some rec.key ↔ rec.stage = .production)
        ∧ (∀ key ≠ rec.key, name = some key ↔ InProduction registry key)
        ∧ Fitting rec := by
  constructor
  · intro sound
    refine ⟨?_, ?_, sound.shares rec.key rec get_set_key⟩
    · rw [sound.pointer, inProduction_set, if_pos rfl]
    · intro key other
      rw [sound.pointer, inProduction_set, if_neg other]
  · intro sound
    obtain ⟨named, apart, fitting⟩ := sound
    refine .of_pointer ?_ (Map.forall_get_set fitting fun key _ held found => others key held found)
    intro key
    rw [inProduction_set]
    split
    · next same => rw [same, named]
    · next other => exact apart key other

-----------------------------------------------------------------------------------------
-- Calls of the manager
-----------------------------------------------------------------------------------------

/-- A registered record brings a share that fits and leaves the name of another model alone, and
a deprecated one has no share any more.
-/
def Agrees (manager : ModelLifecycleManager) : LifecycleCall → Prop
  | .register rec =>
      Fitting rec
      ∧ if rec.stage = .production then ∀ key ∈ manager.productionName, key = rec.key
        else manager.productionName ≠ some rec.key
  | .promote modelName modelVersion .deprecation =>
      ∀ rec ∈ manager.get modelName modelVersion, rec.trafficShare = 0
  | .promote .. | .setCanaryShare .. | .rollbackTo .. => True

theorem register_sound_iff (sound : Sound manager)
    : Sound (manager.register rec) ↔ Agrees manager (.register rec) := by
  rw [ModelLifecycleManager.register, sound_set_iff sound.shares, Agrees]
  by_cases stage : rec.stage = .production
  · rw [if_pos stage, if_pos stage]
    refine ⟨fun written => ⟨written.2.2, ?_⟩, fun agrees => ⟨by simp [stage], ?_, agrees.1⟩⟩
    · intro key named
      by_contra other
      have kept := (written.2.1 key other).mpr ((sound.pointer key).mp named)
      exact other (Option.some_inj.mp kept).symm
    · intro key other
      refine iff_of_false (fun same => other (Option.some_inj.mp same).symm) ?_
      intro production
      exact other (agrees.2 key ((sound.pointer key).mpr production))
  · rw [if_neg stage, if_neg stage]
    refine ⟨fun written => ⟨written.2.2, ?_⟩, fun agrees => ⟨?_, ?_, agrees.1⟩⟩
    · exact fun named => stage (written.1.mp named)
    · exact iff_of_false agrees.2 stage
    · exact fun key _ => sound.pointer key

/-- Without production elsewhere, a record is put into production soundly. -/
theorem sound_set_production {key : String} (own : rec.key = key)
    (stage : rec.stage = .production) (share : rec.trafficShare = 1)
    (others : ∀ key rec, registry.get key = some rec → Fitting rec)
    (alone : ∀ other ≠ key, ¬ InProduction registry other)
    : Sound { models := registry.set rec, productionName := some key } := by
  subst own
  rw [sound_set_iff others]
  refine ⟨iff_of_true rfl stage, ?_, ⟨fun idle => ?_, fun _ => share⟩⟩
  · intro other differs
    exact iff_of_false (fun same => differs (Option.some_inj.mp same).symm)
      (alone other differs)
  · rw [stage] at idle
    rcases idle with idle | idle <;> cases idle

/-- A record that was not in production and does not get there is written soundly when its share
fits.
-/
theorem sound_set_candidate (sound : Sound manager) {old : ModelVersionRecord}
    (present : manager.models.get rec.key = some old) (before : old.stage ≠ .production)
    (after : rec.stage ≠ .production)
    : Sound { manager with models := manager.models.set rec } ↔ Fitting rec := by
  have unnamed : manager.productionName ≠ some rec.key := by
    intro named
    obtain ⟨other, found, stage⟩ := (sound.pointer rec.key).mp named
    rw [present, Option.some_inj] at found
    exact before (found ▸ stage)
  rw [sound_set_iff sound.shares]
  exact ⟨fun written => written.2.2,
    fun fitting => ⟨iff_of_false unnamed after, fun key _ => sound.pointer key, fitting⟩⟩

/-- A promotion to production leaves no other model there. -/
theorem promoted_production_sound (sound : Sound manager) {key : String} (own : rec.key = key)
    : Sound
      { models :=
          (if ModelStage.production = .production ∧ manager.productionName ≠ some key then
            manager.models.retire fun other => some other.key = manager.productionName
          else manager.models).set (rec.moved .production)
        productionName := some key } := by
  split
  · refine sound_set_production own rfl rfl (fitting_retire sound.shares) ?_
    intro other _ production
    obtain ⟨old, found, stage, kept⟩ := inProduction_retire.mp production
    have named := (sound.pointer other).mpr ⟨old, found, stage⟩
    refine kept (decide_eq_true ?_)
    rw [named, manager.models.keyed other old found]
  · next same =>
      have named : manager.productionName = some key := not_not.mp fun other => same ⟨rfl, other⟩
      refine sound_set_production own rfl rfl sound.shares ?_
      intro other differs production
      have again := (sound.pointer other).mpr production
      rw [named] at again
      exact differs (Option.some_inj.mp again).symm

/-- A move that is not refused comes from production only to deprecate, and its share fits unless
it deprecates one.
-/
theorem moved_fitting_iff {next : ModelStage} (other : next ≠ .production)
    : Fitting (rec.moved next) ↔ (next = .deprecation → rec.trafficShare = 0) := by
  constructor
  · rintro fitting rfl
    exact fitting.idle (.inr rfl)
  · intro idle
    refine ⟨fun stage => ?_, fun stage => absurd stage other⟩
    rcases stage with stage | stage
    · obtain rfl : next = .shadow := stage
      rfl
    · obtain rfl : next = .deprecation := stage
      exact idle rfl

/-- A move to another stage is sound when it takes no share into deprecation. -/
theorem promoted_sound_iff (sound : Sound manager) {key : String} (own : rec.key = key)
    (present : manager.models.get key = some rec) {next : ModelStage}
    (other : next ≠ .production)
    (allowed : ¬ (next.order < rec.stage.order ∧ next ≠ .deprecation))
    : Sound { manager with models := manager.models.set (rec.moved next) }
      ↔ (next = .deprecation → rec.trafficShare = 0) := by
  rw [← moved_fitting_iff other]
  have moved_key : (rec.moved next).key = key := own
  by_cases before : rec.stage = .production
  · -- only a deprecation is allowed, and production has the full share
    have full := (sound.shares key rec present).full before
    have deprecates : next = .deprecation := by
      by_contra different
      refine allowed ⟨?_, different⟩
      rw [before]
      cases next <;> first | decide | contradiction
    have unfit : ¬ Fitting (rec.moved next) := by
      rw [moved_fitting_iff other, full]
      exact fun idle => absurd (idle deprecates) (by decide)
    exact iff_of_false (fun after => unfit (after.shares _ _ get_set_key)) unfit
  · rw [← moved_key] at present
    exact sound_set_candidate sound present before other

/-- A promotion to another stage than deprecation is always sound; a deprecation keeps the share. -/
theorem promote_sound_iff (sound : Sound manager) (modelName modelVersion : String)
    (next : ModelStage)
    : Sound (manager.next (.promote modelName modelVersion next))
      ↔ Agrees manager (.promote modelName modelVersion next) := by
  have agrees_iff : Agrees manager (.promote modelName modelVersion next)
      ↔ (next = .deprecation → ∀ rec ∈ manager.get modelName modelVersion,
          rec.trafficShare = 0) := by
    cases next <;> simp [Agrees]
  rw [agrees_iff]
  simp only [ModelLifecycleManager.next, ModelLifecycleManager.promote,
    ModelLifecycleManager.get]
  generalize modelKey modelName modelVersion = key
  cases present : manager.models.get key with
  | none => exact iff_of_true sound fun _ _ absent => by cases absent
  | some rec =>
      have own : rec.key = key := manager.models.keyed key rec present
      simp only [Option.mem_some_iff, forall_eq']
      by_cases refused : next.order < rec.stage.order ∧ next ≠ .deprecation
      · rw [if_pos refused]
        exact iff_of_true sound fun deprecation => absurd deprecation refused.2
      · rw [if_neg refused]
        by_cases production : next = .production
        · subst production
          exact iff_of_true (promoted_production_sound sound own) fun same => by cases same
        · rw [if_neg fun both => production both.1, if_neg production]
          exact promoted_sound_iff sound own present production refused

theorem setCanaryShare_sound (sound : Sound manager) (modelName modelVersion : String)
    (share : Number)
    : Sound (manager.next (.setCanaryShare modelName modelVersion share)) := by
  simp only [ModelLifecycleManager.next, ModelLifecycleManager.setCanaryShare,
    ModelLifecycleManager.get]
  generalize modelKey modelName modelVersion = key
  cases present : manager.models.get key with
  | none => exact sound
  | some rec =>
      have own : rec.key = key := manager.models.keyed key rec present
      dsimp only
      by_cases canary : rec.stage = .canary
      · let written : ModelVersionRecord :=
          { rec with trafficShare := Number.max (.finite 0.05) (Number.min (.finite 0.5) share) }
        have before : rec.stage ≠ .production := by simp [canary]
        have fitting : Fitting written := by
          refine ⟨fun stage => ?_, fun stage => absurd stage before⟩
          rcases stage with stage | stage <;> cases canary.symm.trans stage
        have found : manager.models.get written.key = some rec := by
          rw [← present, ← own]
          rfl
        rw [if_neg (not_not.mpr canary)]
        exact (sound_set_candidate sound found before before).mpr fitting
      · rw [if_pos canary]
        exact sound

/-- A rollback leaves no other model in production. -/
theorem rollbackTo_sound (sound : Sound manager) (modelName modelVersion : String)
    : Sound (manager.next (.rollbackTo modelName modelVersion)) := by
  simp only [ModelLifecycleManager.next, ModelLifecycleManager.rollbackTo]
  generalize modelKey modelName modelVersion = key
  cases present : manager.models.get key with
  | none => exact sound
  | some rec =>
      have own : rec.key = key := manager.models.keyed key rec present
      refine sound_set_production own rfl rfl (fitting_retire sound.shares) ?_
      intro other _ production
      obtain ⟨old, _, stage, kept⟩ := inProduction_retire.mp production
      exact kept (by simp [stage])

/-- A call keeps the models sound exactly when it agrees with them, call by call. -/
theorem next_sound_iff (sound : Sound manager) (call : LifecycleCall)
    : Sound (manager.next call) ↔ Agrees manager call := by
  cases call with
  | register rec => exact register_sound_iff sound
  | promote modelName modelVersion next =>
      exact promote_sound_iff sound modelName modelVersion next
  | setCanaryShare modelName modelVersion share =>
      exact iff_of_true (setCanaryShare_sound sound modelName modelVersion share) trivial
  | rollbackTo modelName modelVersion =>
      exact iff_of_true (rollbackTo_sound sound modelName modelVersion) trivial

/-- The models of a run are sound throughout exactly when all its calls agree with them. -/
theorem lifecycle_sound_iff (calls : List LifecycleCall)
    : Always ModelLifecycleManager.next (fun manager call => Sound (manager.next call)) {} calls
      ↔ Always ModelLifecycleManager.next Agrees {} calls := by
  have kept (manager : ModelLifecycleManager) (call : LifecycleCall) (sound : Sound manager)
      : Sound (manager.next call) ↔ Agrees manager call := next_sound_iff sound call
  exact always_invariant_iff kept calls sound_empty

/-- A model that is deprecated from production keeps its share and its place in production. -/
theorem deprecation_keeps_share
    : ¬ Always ModelLifecycleManager.next (fun manager call => Sound (manager.next call)) {}
      [.register ⟨"crash", "1", .production, 1, none⟩, .promote "crash" "1" .deprecation] := by
  intro always
  have shares := always.2.1.shares "crash@1" ⟨"crash", "1", .deprecation, 1, none⟩
  have idle := (shares (by decide)).idle (.inr rfl)
  exact absurd idle (by decide)

-----------------------------------------------------------------------------------------
-- The automatic rollback
-----------------------------------------------------------------------------------------

/-- The canary serves no traffic and is not the production model, which is still the one that it
was.
-/
structure CanaryRemoved (before after : ModelLifecycleManager) (canary : ModelVersionRecord)
    : Prop where
  idle : ∀ rand, after.routeCanary canary.modelName canary.modelVersion rand = false
  replaced : after.productionName ≠ some canary.key
  kept : ∀ key, InProduction before.models key → InProduction after.models key

/-- The rollback to a canary takes every other model out of production. -/
theorem rollbackTo_production {canary : ModelVersionRecord}
    (present : canary ∈ manager.list) {key : String}
    : InProduction (manager.next (.rollbackTo canary.modelName canary.modelVersion)).models key
      ↔ key = canary.key := by
  obtain ⟨own, found⟩ := Map.mem_values_iff.mp present
  obtain rfl : canary.key = own := manager.models.keyed own canary found
  have stored : manager.models.get (modelKey canary.modelName canary.modelVersion) = some canary :=
    found
  simp only [ModelLifecycleManager.next, ModelLifecycleManager.rollbackTo, stored]
  rw [inProduction_set]
  split
  · next same => exact iff_of_true rfl same
  · next other =>
      refine iff_of_false ?_ other
      intro production
      obtain ⟨old, _, stage, kept⟩ := inProduction_retire.mp production
      exact kept (by simp [stage])

/-- At divergence level 3 the rollback is called with the first canary. -/
theorem observeOutcome_rollsBack {controller : ProductionController} {predicted : Number}
    {actual : Bool} {snapshot : Divergence.DivergenceSnapshot}
    (observed : (controller.observeOutcome predicted actual).2 = some snapshot)
    (diverged : 3 ≤ snapshot.level)
    (candidates : ∃ canary ∈ controller.lifecycle.list, canary.stage = .canary)
    : ∃ canary ∈ controller.lifecycle.list, canary.stage = .canary
      ∧ (controller.observeOutcome predicted actual).1.lifecycle
        = controller.lifecycle.next (.rollbackTo canary.modelName canary.modelVersion) := by
  unfold ProductionController.observeOutcome at observed ⊢
  generalize controller.divergence.observe predicted actual = observation at observed ⊢
  obtain ⟨divergence, seen⟩ := observation
  cases seen with
  | none => cases observed
  | some seen =>
      dsimp only at observed ⊢
      cases first : controller.lifecycle.list.find? fun rec => rec.stage = .canary with
      | none =>
          obtain ⟨canary, member, stage⟩ := candidates
          exact absurd (decide_eq_true stage) (List.find?_eq_none.mp first canary member)
      | some canary =>
          have member := List.mem_of_find?_eq_some first
          have stage : canary.stage = .canary := by simpa using List.find?_some first
          refine ⟨canary, member, stage, ?_⟩
          by_cases high : 3 ≤ seen.level.val
          · rw [if_pos high]
          · rw [if_neg high] at observed
            obtain rfl : seen = snapshot := Option.some_inj.mp observed
            exact absurd diverged high

/-- The automatic rollback never removes the canary: with a production model and a canary, it
takes the one out of production and puts a canary there.
-/
theorem observeOutcome_keeps_canary {controller : ProductionController} {predicted : Number}
    {actual : Bool} {snapshot : Divergence.DivergenceSnapshot} {production : String}
    {canary : ModelVersionRecord}
    (observed : (controller.observeOutcome predicted actual).2 = some snapshot)
    (diverged : 3 ≤ snapshot.level)
    (serving : InProduction controller.lifecycle.models production)
    (candidate : canary ∈ controller.lifecycle.list) (stage : canary.stage = .canary)
    : ¬ CanaryRemoved controller.lifecycle
        (controller.observeOutcome predicted actual).1.lifecycle canary := by
  intro removed
  obtain ⟨first, present, isCanary, rolledBack⟩ :=
    observeOutcome_rollsBack observed diverged ⟨canary, candidate, stage⟩
  have kept := removed.kept production serving
  rw [rolledBack, rollbackTo_production present] at kept
  -- so the canary that was put into production was the production model before
  obtain ⟨served, found, before⟩ := serving
  obtain ⟨own, stored⟩ := Map.mem_values_iff.mp present
  obtain rfl : first.key = own := controller.lifecycle.models.keyed own first stored
  rw [kept] at found
  obtain rfl : first = served := Option.some_inj.mp (stored.symm.trans found)
  cases isCanary.symm.trans before

/-- A model in production and a canary. -/
def canaryController : ProductionController where
  lifecycle :=
    Runs.run ModelLifecycleManager.next {}
      [.register ⟨"crash", "1", .production, 1, none⟩,
        .register ⟨"crash", "2", .shadow, 0, none⟩, .promote "crash" "2" .canary]
  divergence := .new none

/-- They have missed 49 outcomes; the next one completes the first window. -/
def divergedController : ProductionController :=
  Runs.run (fun controller actual => (controller.observeOutcome (.finite 0.9) actual).1)
    canaryController (List.replicate 49 false)

/-- The canary is put into production. -/
theorem canary_promoted
    : ¬ CanaryRemoved divergedController.lifecycle
        (divergedController.observeOutcome (.finite 0.9) false).1.lifecycle
        ⟨"crash", "2", .canary, .finite 0.05, none⟩ := by
  intro removed
  exact absurd removed.replaced (by decide +kernel)

theorem divergedController_keeps_canary
    : (divergedController.observeOutcome (.finite 0.9) false).2.isSome
      ∧ ¬ CanaryRemoved divergedController.lifecycle
        (divergedController.observeOutcome (.finite 0.9) false).1.lifecycle
        ⟨"crash", "2", .canary, .finite 0.05, none⟩ := by
  have seen : (divergedController.observeOutcome (.finite 0.9) false).2.isSome := by
    decide +kernel
  obtain ⟨snapshot, observed⟩ := Option.isSome_iff_exists.mp seen
  have high : ∀ snapshot ∈ (divergedController.observeOutcome (.finite 0.9) false).2,
      3 ≤ snapshot.level := by
    decide +kernel
  have serving : InProduction divergedController.lifecycle.models "crash@1" :=
    ⟨⟨"crash", "1", .production, 1, none⟩, by decide +kernel, rfl⟩
  exact ⟨seen, observeOutcome_keeps_canary observed (high snapshot observed) serving
    (by decide +kernel) rfl⟩

end CrashWave.ModelLifecycle
