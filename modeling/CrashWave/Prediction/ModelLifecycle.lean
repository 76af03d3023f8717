import CrashWave.JavaScript.Map
import CrashWave.Prediction.LiveDivergence

/-! The lifecycle of prediction models from development to deprecation, and the production
controller that rolls a canary back. Metrics and times of promotion are left out.
-/

namespace CrashWave.ModelLifecycle

open JavaScript Divergence

inductive ModelStage where
  | development
  | backtest
  | validation
  | shadow
  | canary
  | production
  | deprecation
  deriving DecidableEq

/-- The name of a stage. -/
def ModelStage.name : ModelStage → String
  | .development => "DEVELOPMENT"
  | .backtest => "BACKTEST"
  | .validation => "VALIDATION"
  | .shadow => "SHADOW"
  | .canary => "CANARY"
  | .production => "PRODUCTION"
  | .deprecation => "DEPRECATION"

/-- `STAGE_ORDER.indexOf`. -/
def ModelStage.order : ModelStage → Nat
  | .development => 0
  | .backtest => 1
  | .validation => 2
  | .shadow => 3
  | .canary => 4
  | .production => 5
  | .deprecation => 6

/-- The key of a model, which is never empty. -/
def modelKey (modelName modelVersion : String) : String := modelName ++ "@" ++ modelVersion

structure ModelVersionRecord where
  modelName : String
  modelVersion : String
  stage : ModelStage
  trafficShare : Number
  notes : Option String := none
  deriving DecidableEq

namespace ModelVersionRecord

def key (rec : ModelVersionRecord) : String := modelKey rec.modelName rec.modelVersion

/-- The record without its traffic. -/
def deprecated (rec : ModelVersionRecord) : ModelVersionRecord :=
  { rec with stage := .deprecation, trafficShare := 0 }

/-- The record in its next stage, which may set its share. -/
def moved (rec : ModelVersionRecord) (next : ModelStage) : ModelVersionRecord :=
  { rec with
    stage := next
    trafficShare :=
      match next with
      | .canary => .finite 0.05
      | .production => 1
      | .shadow => 0
      | .development | .backtest | .validation | .deprecation => rec.trafficShare }

/-- The record that a rollback puts into production. -/
def restored (rec : ModelVersionRecord) : ModelVersionRecord :=
  { rec with
    stage := .production
    trafficShare := 1
    notes := some (rec.notes.getD "" ++ " | rollback") }

end ModelVersionRecord

/-- The registered models, each under its own key. -/
structure ModelRegistry where
  models : Map String ModelVersionRecord
  keyed : ∀ key rec, models.get key = some rec → rec.key = key

namespace ModelRegistry

instance : EmptyCollection ModelRegistry where
  emptyCollection := { models := ∅, keyed := fun _ _ found => by cases found }

def get (registry : ModelRegistry) (key : String) : Option ModelVersionRecord :=
  registry.models.get key

def list (registry : ModelRegistry) : List ModelVersionRecord := registry.models.values

/-- Writes a record under its key. -/
def set (registry : ModelRegistry) (rec : ModelVersionRecord) : ModelRegistry where
  models := registry.models.set rec.key rec
  keyed := Map.forall_get_set rfl fun other _ held found => registry.keyed other held found

/-- Deprecates the records that pass a test. -/
def retire (registry : ModelRegistry) (test : ModelVersionRecord → Bool) : ModelRegistry where
  models := registry.models.mapValues fun rec => if test rec then rec.deprecated else rec
  keyed := by
    intro key rec found
    rw [Map.get_mapValues] at found
    obtain ⟨old, present, rfl⟩ := Option.map_eq_some_iff.mp found
    rw [← registry.keyed key old present]
    split <;> rfl

end ModelRegistry

structure ModelLifecycleManager where
  models : ModelRegistry := ∅
  productionName : Option String := none

namespace ModelLifecycleManager

/-- Stores a copy of the record. The share that is then set to 1 for production is the one of the
caller's own record.
-/
def register (manager : ModelLifecycleManager) (rec : ModelVersionRecord)
    : ModelLifecycleManager where
  models := manager.models.set rec
  productionName := if rec.stage = .production then some rec.key else manager.productionName

def get (manager : ModelLifecycleManager) (modelName modelVersion : String)
    : Option ModelVersionRecord :=
  manager.models.get (modelKey modelName modelVersion)

def list (manager : ModelLifecycleManager) : List ModelVersionRecord := manager.models.list

def promote (manager : ModelLifecycleManager) (modelName modelVersion : String)
    (next : ModelStage)
    : Except String (ModelLifecycleManager × ModelVersionRecord) :=
  let key := modelKey modelName modelVersion
  match manager.models.get key with
  | none => .error ("Unknown model " ++ key)
  | some rec =>
      if next.order < rec.stage.order ∧ next ≠ .deprecation then
        .error ("Cannot move " ++ rec.stage.name ++ " → " ++ next.name)
      else
        let moved := rec.moved next
        -- a model that is promoted to production deprecates the previous one
        let others :=
          if next = .production ∧ manager.productionName ≠ some key then
            manager.models.retire fun other => some other.key = manager.productionName
          else manager.models
        .ok
          ({ models := others.set moved
             productionName := if next = .production then some key else manager.productionName },
            moved)

def setCanaryShare (manager : ModelLifecycleManager) (modelName modelVersion : String)
    (share : Number)
    : Except String ModelLifecycleManager :=
  match manager.get modelName modelVersion with
  | none => .error "Canary share only for CANARY stage models"
  | some rec =>
      if rec.stage ≠ .canary then .error "Canary share only for CANARY stage models"
      else
        let s := Number.max (.finite 0.05) (Number.min (.finite 0.5) share)
        .ok { manager with models := manager.models.set { rec with trafficShare := s } }

/-- Whether the candidate serves a unit of traffic. -/
def routeCanary (manager : ModelLifecycleManager) (modelName modelVersion : String)
    (rand : Number)
    : Bool :=
  match manager.get modelName modelVersion with
  | none => false
  | some rec =>
      match rec.stage with
      | .production => true
      | .canary => rand < rec.trafficShare
      | .development | .backtest | .validation | .shadow | .deprecation => false

def rollbackTo (manager : ModelLifecycleManager) (modelName modelVersion : String)
    : Except String (ModelLifecycleManager × ModelVersionRecord) :=
  let key := modelKey modelName modelVersion
  match manager.models.get key with
  | none => .error ("Unknown model " ++ key)
  | some rec =>
      let others :=
        manager.models.retire fun other =>
          other.stage = .production || other.stage = .canary
      .ok ({ models := others.set rec.restored, productionName := some key }, rec.restored)

end ModelLifecycleManager

/-- A call of the lifecycle manager. -/
inductive LifecycleCall where
  | register (rec : ModelVersionRecord)
  | promote (modelName modelVersion : String) (next : ModelStage)
  | setCanaryShare (modelName modelVersion : String) (share : Number)
  | rollbackTo (modelName modelVersion : String)

/-- What a call leaves; one that throws leaves everything as it was. -/
def ModelLifecycleManager.next (manager : ModelLifecycleManager)
    : LifecycleCall → ModelLifecycleManager
  | .register rec => manager.register rec
  | .promote modelName modelVersion next =>
      match manager.promote modelName modelVersion next with
      | .error _ => manager
      | .ok (after, _) => after
  | .setCanaryShare modelName modelVersion share =>
      match manager.setCanaryShare modelName modelVersion share with
      | .error _ => manager
      | .ok after => after
  | .rollbackTo modelName modelVersion =>
      match manager.rollbackTo modelName modelVersion with
      | .error _ => manager
      | .ok (after, _) => after

/-- The production controller, without its share of the rollout, which only its status shows. -/
structure ProductionController where
  lifecycle : ModelLifecycleManager
  divergence : LiveDivergenceMonitor

/-- Observes an outcome; at divergence level 3 the first canary is passed to the rollback. -/
def ProductionController.observeOutcome (controller : ProductionController)
    (predicted : Number) (actual : Bool)
    : ProductionController × Option DivergenceSnapshot :=
  match controller.divergence.observe predicted actual with
  | (divergence, none) => ({ controller with divergence }, none)
  | (divergence, some snapshot) =>
      if 3 ≤ snapshot.level.val then
        match controller.lifecycle.list.find? fun rec => rec.stage = .canary with
        | none => ({ controller with divergence }, some snapshot)
        | some canary =>
            ({ lifecycle :=
                 controller.lifecycle.next (.rollbackTo canary.modelName canary.modelVersion)
               divergence },
              some snapshot)
      else ({ controller with divergence }, some snapshot)

end CrashWave.ModelLifecycle
