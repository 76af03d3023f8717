import CrashWave.JavaScript.Map
import CrashWave.Runs.Basic
import Mathlib.Data.List.Sort
import Mathlib.Logic.Function.Basic

/-! Processes that migrate one database, each with the files of its own directory, at the same time
or one after another. A migration runs in a transaction that ends with the row of its version; the
key of an uncommitted row makes other transactions wait, and a COMMIT that is on its way when its
process dies may still take effect.
-/

namespace CrashWave.Migrations

open JavaScript Runs

/-- A file of the migrations directory. -/
structure Migration where
  filename : String
  version : String
  content : String
  deriving DecidableEq

/-- `MigrationRecord`, with the instant of its date. -/
structure MigrationRecord where
  version : String
  appliedAt : Int
  checksum : String
  deriving DecidableEq

/-- How a run fails: by its own check, or by an error that the database answers. -/
inductive MigrationFailure where
  | checksumMismatch (filename expected : String) (actual : Option String)
  | database
  deriving DecidableEq

/-- `filename.endsWith(suffix)`. -/
def endsWith (filename suffix : String) : Bool := suffix.toList.isSuffixOf filename.toList

/-- `basename(filename, suffix)` of a name without separators. -/
def basename (filename suffix : String) : String :=
  if endsWith filename suffix then
    String.ofList (filename.toList.take (filename.toList.length - suffix.toList.length))
  else
    filename

/-- The order of the files, by their names. -/
def SortsBefore (localeCompare : String → String → Int) (first second : String × String) : Prop :=
  localeCompare first.1 second.1 ≤ 0

instance (localeCompare : String → String → Int) : DecidableRel (SortsBefore localeCompare) :=
  fun _ _ => inferInstanceAs (Decidable (_ ≤ _))

/-- The `.sql` files of a directory, in the order of their names. -/
def getMigrations (localeCompare : String → String → Int) (directory : Map String String)
    : List Migration :=
  ((directory.entries.filter fun file => endsWith file.1 ".sql").insertionSort
      (SortsBefore localeCompare)).map
    fun file => { filename := file.1, version := basename file.1 ".sql", content := file.2 }

/-- How far a run is: it waits for the table, has read what is applied, is at a migration, or has
ended.
-/
inductive Phase where
  | ensuring
  | reading (applied : Map String String)
  | migrating (applied : Map String String) (migration : Migration) (rest : List Migration)
      (records : List MigrationRecord)
  | finished (records : List MigrationRecord)
  | failed (failure : MigrationFailure)

/-- A process: the files that it has read, and its phase. -/
structure Runner where
  migrations : List Migration := []
  phase : Phase := .ensuring

/-- How far a transaction is on the server. -/
inductive Stage where
  | begun
  | executed
  | inserted
  | committing
  | committed
  | rolledBack
  deriving DecidableEq

/-- The row of the version is written and not yet committed. -/
def Stage.HoldsKey (stage : Stage) : Prop := stage = .inserted ∨ stage = .committing

/-- The transaction of a migration. -/
structure Transaction where
  migration : Migration
  stage : Stage

/-- `schema_migrations`, the commits in their order, each with the runner of which the transaction
was and the migration, the keys of uncommitted rows with the runner that wrote them, and all
transactions and runners.
-/
structure World where
  rows : Map String String := ∅
  commits : List (Nat × Migration) := []
  locks : String → Option Nat := fun _ => none
  transactions : Nat → Option Transaction := fun _ => none
  runners : Nat → Runner := fun _ => {}

/-- What may happen next. -/
inductive Event where
  | select (runner : Nat)
  | load (runner : Nat) (directory : Map String String)
  | start (runner : Nat)
  | execute (runner : Nat)
  | insert (runner : Nat)
  | commit (runner : Nat)
  | takeEffect (runner : Nat)
  | rollBack (runner : Nat)
  | answer (runner : Nat) (now : Int)
  | fail (runner : Nat)

/-- The run is under way and has not read its files. -/
def Phase.isEnsuring : Phase → Bool
  | .ensuring => true
  | _ => false

/-- The run has neither finished nor failed. -/
def Phase.isUnderWay : Phase → Bool
  | .finished _ | .failed _ => false
  | _ => true

/-- The run is at a migration. -/
def Phase.isMigrating : Phase → Bool
  | .migrating .. => true
  | _ => false

namespace World

/-- The migrations whose statements are committed, in the order of their commits. -/
def schema (world : World) : List Migration := world.commits.map Prod.snd

/-- Those that a runner has committed. -/
def committedBy (world : World) (runner : Nat) : List Migration :=
  (world.commits.filter fun commit => commit.1 = runner).map Prod.snd

def setPhase (world : World) (runner : Nat) (phase : Phase) : World :=
  { world with
    runners := Function.update world.runners runner { world.runners runner with phase } }

def setTransaction (world : World) (runner : Nat) (transaction : Option Transaction) : World :=
  { world with transactions := Function.update world.transactions runner transaction }

def setLock (world : World) (version : String) (holder : Option Nat) : World :=
  { world with locks := Function.update world.locks version holder }

end World

variable (computeChecksum : String → String) (localeCompare : String → String → Int)

/-- The row of a migration. -/
def row (migration : Migration) : String × String :=
  (migration.version, computeChecksum migration.content)

/-- The loop of `run` up to a migration that is to be applied. -/
def nextMigration (applied : Map String String) (records : List MigrationRecord)
    : List Migration → Phase
  | [] => .finished records
  | migration :: rest =>
      if applied.has migration.version then
        let expectedChecksum := computeChecksum migration.content
        let actualChecksum := applied.get migration.version
        if actualChecksum = some expectedChecksum then
          nextMigration applied records rest
        else
          .failed (.checksumMismatch migration.filename expectedChecksum actualChecksum)
      else
        .migrating applied migration rest records

/-- What an event does. What cannot happen changes nothing. -/
def step (world : World) : Event → World
  | .select runner =>
      if (world.runners runner).phase.isEnsuring then
        world.setPhase runner (.reading world.rows)
      else
        world
  | .load runner directory =>
      match (world.runners runner).phase with
      | .reading applied =>
          let migrations := getMigrations localeCompare directory
          { world with
            runners := Function.update world.runners runner
              { migrations, phase := nextMigration computeChecksum applied [] migrations } }
      | _ => world
  | .start runner =>
      match (world.runners runner).phase, world.transactions runner with
      | .migrating _ migration _ _, none =>
          world.setTransaction runner (some { migration, stage := .begun })
      | _, _ => world
  | .execute runner =>
      match world.transactions runner with
      | some { migration, stage := .begun } =>
          if (world.runners runner).phase.isMigrating then
            world.setTransaction runner (some { migration, stage := .executed })
          else
            world
      | _ => world
  | .insert runner =>
      match world.transactions runner with
      | some { migration, stage := .executed } =>
          -- An uncommitted row with the key is waited for; a committed one fails the statement.
          if (world.runners runner).phase.isMigrating ∧ world.locks migration.version = none
              ∧ world.rows.get migration.version = none then
            (world.setLock migration.version (some runner)).setTransaction runner
              (some { migration, stage := .inserted })
          else
            world
      | _ => world
  | .commit runner =>
      match world.transactions runner with
      | some { migration, stage := .inserted } =>
          if (world.runners runner).phase.isMigrating then
            world.setTransaction runner (some { migration, stage := .committing })
          else
            world
      | _ => world
  | .takeEffect runner =>
      -- The process that sent the COMMIT may have failed since.
      match world.transactions runner with
      | some { migration, stage := .committing } =>
          let ended := (world.setLock migration.version none).setTransaction runner
            (some { migration, stage := .committed })
          { ended with
            rows := world.rows.set migration.version (computeChecksum migration.content)
            commits := world.commits ++ [(runner, migration)] }
      | _ => world
  | .rollBack runner =>
      match world.transactions runner with
      | some { migration, stage } =>
          if stage = .committed ∨ stage = .rolledBack then
            world
          else
            let ended := world.setTransaction runner (some { migration, stage := .rolledBack })
            if stage = .inserted ∨ stage = .committing then
              ended.setLock migration.version none
            else
              ended
      | none => world
  | .answer runner now =>
      match (world.runners runner).phase, world.transactions runner with
      | .migrating applied migration rest records, some { stage := .committed, .. } =>
          let record : MigrationRecord :=
            { version := migration.version
              appliedAt := now
              checksum := computeChecksum migration.content }
          (world.setPhase runner
              (nextMigration computeChecksum applied (records ++ [record]) rest)).setTransaction
            runner none
      | _, _ => world
  | .fail runner =>
      if (world.runners runner).phase.isUnderWay then
        world.setPhase runner (.failed .database)
      else
        world

end CrashWave.Migrations
