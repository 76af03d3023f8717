import CrashWave.Persistence.Migrations
import Mathlib.Data.List.Infix
import Mathlib.Data.List.Nodup

/-! Migrations over every interleaving of their runs: what the table has, what a finished run may
rely on, and the order in which the files of one directory are applied.
-/

namespace CrashWave.Migrations

open JavaScript Runs

variable (computeChecksum : String → String) (localeCompare : String → String → Int)

-----------------------------------------------------------------------------------------
-- What an event does
-----------------------------------------------------------------------------------------

/-- The events that change a world, with what they find in it. -/
inductive Moves (world : World) : Event → World → Prop
  | select {runner} (ensuring : (world.runners runner).phase = .ensuring)
    : Moves world (.select runner) (world.setPhase runner (.reading world.rows))
  | load {runner directory applied} (reading : (world.runners runner).phase = .reading applied)
    : Moves world (.load runner directory)
        { world with
          runners := Function.update world.runners runner
            { migrations := getMigrations localeCompare directory
              phase := nextMigration computeChecksum applied []
                (getMigrations localeCompare directory) } }
  | start {runner applied migration rest records}
    (migrating : (world.runners runner).phase = .migrating applied migration rest records)
    (none : world.transactions runner = none)
    : Moves world (.start runner)
        (world.setTransaction runner (some { migration, stage := .begun }))
  | execute {runner migration}
    (begun : world.transactions runner = some { migration, stage := .begun })
    : Moves world (.execute runner)
        (world.setTransaction runner (some { migration, stage := .executed }))
  | insert {runner migration}
    (executed : world.transactions runner = some { migration, stage := .executed })
    (free : world.locks migration.version = none)
    (absent : world.rows.get migration.version = none)
    : Moves world (.insert runner)
        ((world.setLock migration.version (some runner)).setTransaction runner
          (some { migration, stage := .inserted }))
  | commit {runner migration}
    (inserted : world.transactions runner = some { migration, stage := .inserted })
    : Moves world (.commit runner)
        (world.setTransaction runner (some { migration, stage := .committing }))
  | takeEffect {runner migration}
    (committing : world.transactions runner = some { migration, stage := .committing })
    : Moves world (.takeEffect runner)
        { (world.setLock migration.version none).setTransaction runner
            (some { migration, stage := .committed }) with
          rows := world.rows.set migration.version (computeChecksum migration.content)
          commits := world.commits ++ [(runner, migration)] }
  | release {runner migration stage}
    (open' : world.transactions runner = some { migration, stage }) (holds : stage.HoldsKey)
    : Moves world (.rollBack runner)
        ((world.setTransaction runner (some { migration, stage := .rolledBack })).setLock
          migration.version none)
  | abandon {runner migration stage}
    (open' : world.transactions runner = some { migration, stage })
    (early : stage = .begun ∨ stage = .executed)
    : Moves world (.rollBack runner)
        (world.setTransaction runner (some { migration, stage := .rolledBack }))
  | answer {runner now applied migration rest records done}
    (migrating : (world.runners runner).phase = .migrating applied migration rest records)
    (committed : world.transactions runner = some { migration := done, stage := .committed })
    : Moves world (.answer runner now)
        ((world.setPhase runner
            (nextMigration computeChecksum applied
              (records ++
                [{ version := migration.version
                   appliedAt := now
                   checksum := computeChecksum migration.content }]) rest)).setTransaction
          runner none)
  | fail {runner} (underWay : (world.runners runner).phase.isUnderWay)
    : Moves world (.fail runner) (world.setPhase runner (.failed .database))

/-- An event changes nothing or makes its move, by cases on the event. -/
theorem step_cases (world : World) (event : Event)
    : step computeChecksum localeCompare world event = world
      ∨ Moves computeChecksum localeCompare world event
          (step computeChecksum localeCompare world event) := by
  cases event with
  | select runner =>
      cases phase : (world.runners runner).phase with
      | ensuring =>
          right
          simp only [step, phase, Phase.isEnsuring, if_true]
          exact .select phase
      | _ => left; simp [step, phase, Phase.isEnsuring]
  | load runner directory =>
      cases phase : (world.runners runner).phase with
      | reading applied =>
          right
          simp only [step, phase]
          exact .load phase
      | _ => left; simp [step, phase]
  | start runner =>
      cases phase : (world.runners runner).phase with
      | migrating applied migration rest records =>
          cases transaction : world.transactions runner with
          | none =>
              right
              simp only [step, phase, transaction]
              exact .start phase transaction
          | some _ => left; simp [step, phase, transaction]
      | _ => left; simp [step, phase]
  | execute runner =>
      rcases transaction : world.transactions runner with _ | ⟨migration, stage⟩
      · left; simp [step, transaction]
      cases stage with
      | begun =>
          by_cases migrating : (world.runners runner).phase.isMigrating
          · right
            simp only [step, transaction, migrating, if_true]
            exact .execute transaction
          · left; simp [step, transaction, migrating]
      | _ => left; simp [step, transaction]
  | insert runner =>
      rcases transaction : world.transactions runner with _ | ⟨migration, stage⟩
      · left; simp [step, transaction]
      cases stage with
      | executed =>
          by_cases allowed : (world.runners runner).phase.isMigrating
              ∧ world.locks migration.version = none ∧ world.rows.get migration.version = none
          · right
            simp only [step, transaction]
            rw [if_pos allowed]
            exact .insert transaction allowed.2.1 allowed.2.2
          · left
            simp only [step, transaction]
            rw [if_neg allowed]
      | _ => left; simp [step, transaction]
  | commit runner =>
      rcases transaction : world.transactions runner with _ | ⟨migration, stage⟩
      · left; simp [step, transaction]
      cases stage with
      | inserted =>
          by_cases migrating : (world.runners runner).phase.isMigrating
          · right
            simp only [step, transaction, migrating, if_true]
            exact .commit transaction
          · left; simp [step, transaction, migrating]
      | _ => left; simp [step, transaction]
  | takeEffect runner =>
      rcases transaction : world.transactions runner with _ | ⟨migration, stage⟩
      · left; simp [step, transaction]
      cases stage with
      | committing =>
          right
          simp only [step, transaction]
          exact .takeEffect transaction
      | _ => left; simp [step, transaction]
  | rollBack runner =>
      rcases transaction : world.transactions runner with _ | ⟨migration, stage⟩
      · left; simp [step, transaction]
      cases stage with
      | begun | executed =>
          right
          simp only [step, transaction, reduceCtorEq, or_self, if_false]
          exact .abandon transaction (by simp)
      | inserted | committing =>
          right
          simp only [step, transaction, reduceCtorEq, or_self, if_false, or_true, true_or, if_true]
          exact .release transaction (by simp [Stage.HoldsKey])
      | committed | rolledBack => left; simp [step, transaction]
  | answer runner now =>
      cases phase : (world.runners runner).phase with
      | migrating applied migration rest records =>
          rcases transaction : world.transactions runner with _ | ⟨done, stage⟩
          · left; simp [step, phase, transaction]
          cases stage with
          | committed =>
              right
              simp only [step, phase, transaction]
              exact .answer phase transaction
          | _ => left; simp [step, phase, transaction]
      | _ => left; simp [step, phase]
  | fail runner =>
      by_cases underWay : (world.runners runner).phase.isUnderWay
      · right
        simp only [step, underWay, if_true]
        exact .fail underWay
      · left; simp [step, underWay]

-----------------------------------------------------------------------------------------
-- What holds in every world
-----------------------------------------------------------------------------------------

/-- The table has the migration with its content. -/
def Has (rows : Map String String) (migration : Migration) : Prop :=
  rows.get migration.version = some (computeChecksum migration.content)

/-- The migration is in the files of the runner, and the table has all before it. -/
def Reached (rows : Map String String) (migrations : List Migration) (migration : Migration)
    : Prop :=
  ∃ before after,
    migrations = before ++ migration :: after ∧ ∀ other ∈ before, Has computeChecksum rows other

/-- What the table said is still so. -/
def Keeps (rows later : Map String String) : Prop :=
  ∀ version checksum, rows.get version = some checksum → later.get version = some checksum

/-- The records are rows of some of the migrations, in their order. -/
def Recorded (migrations : List Migration) (records : List MigrationRecord) : Prop :=
  (records.map fun record => (record.version, record.checksum)).Sublist
    (migrations.map (row computeChecksum))

/-- What a runner may rely on, by its phase. -/
inductive RunnerSound (rows : Map String String) : Runner → Prop
  | ensuring : RunnerSound rows {}
  | reading {applied} (known : Keeps applied rows)
    : RunnerSound rows { phase := .reading applied }
  | migrating {before migration rest applied records} (known : Keeps applied rows)
    (all : ∀ other ∈ before, Has computeChecksum rows other)
    (recorded : Recorded computeChecksum before records)
    : RunnerSound rows
        { migrations := before ++ migration :: rest
          phase := .migrating applied migration rest records }
  | finished {migrations records} (all : ∀ other ∈ migrations, Has computeChecksum rows other)
    (recorded : Recorded computeChecksum migrations records)
    : RunnerSound rows { migrations, phase := .finished records }
  | mismatch {migrations migration actual} (member : migration ∈ migrations)
    (found : rows.get migration.version = some actual)
    (differs : actual ≠ computeChecksum migration.content)
    : RunnerSound rows
        { migrations
          phase := .failed (.checksumMismatch migration.filename
            (computeChecksum migration.content) (some actual)) }
  | failed {migrations} : RunnerSound rows { migrations, phase := .failed .database }

/-- What holds of the transaction of a runner. -/
structure TransactionSound (world : World) (runner : Nat) (transaction : Transaction)
    : Prop where
  reached
    : Reached computeChecksum world.rows (world.runners runner).migrations transaction.migration
  own
    : ∀ applied migration rest records,
        (world.runners runner).phase = .migrating applied migration rest records
        → transaction.migration = migration
  holds
    : transaction.stage.HoldsKey
      → world.locks transaction.migration.version = some runner
        ∧ world.rows.get transaction.migration.version = none
  done : transaction.stage = .committed → Has computeChecksum world.rows transaction.migration

/-- What holds in every world: the table has the row of each committed migration, in the order of
the commits; each was committed behind all before it in the files of some runner.
-/
structure Sound (world : World) : Prop where
  rows : world.rows.entries = world.schema.map (row computeChecksum)
  ordered
    : ∀ before migration after,
        world.schema = before ++ migration :: after
        → ∃ runner earlier later,
            (world.runners runner).migrations = earlier ++ migration :: later
            ∧ ∀ other ∈ earlier, row computeChecksum other ∈ before.map (row computeChecksum)
  runners : ∀ runner, RunnerSound computeChecksum world.rows (world.runners runner)
  transactions
    : ∀ runner transaction,
        world.transactions runner = some transaction
        → TransactionSound computeChecksum world runner transaction
  locks
    : ∀ version runner,
        world.locks version = some runner
        → ∃ transaction,
            world.transactions runner = some transaction
            ∧ transaction.migration.version = version ∧ transaction.stage.HoldsKey

variable {computeChecksum localeCompare}

theorem Has.mono {rows later : Map String String} {migration : Migration}
    (keeps : Keeps rows later) (has : Has computeChecksum rows migration)
    : Has computeChecksum later migration :=
  keeps _ _ has

theorem Reached.mono {rows later : Map String String} {migrations : List Migration}
    {migration : Migration} (keeps : Keeps rows later)
    (reached : Reached computeChecksum rows migrations migration)
    : Reached computeChecksum later migrations migration := by
  obtain ⟨before, after, rfl, all⟩ := reached
  exact ⟨before, after, rfl, fun other member => (all other member).mono keeps⟩

/-- What a runner relies on survives further rows, by its phase. -/
theorem RunnerSound.mono {rows later : Map String String} {runner : Runner}
    (keeps : Keeps rows later) (sound : RunnerSound computeChecksum rows runner)
    : RunnerSound computeChecksum later runner := by
  cases sound with
  | ensuring => exact .ensuring
  | reading known => exact .reading fun version checksum found => keeps _ _ (known _ _ found)
  | migrating known all recorded =>
      exact .migrating (fun version checksum found => keeps _ _ (known _ _ found))
        (fun other member => (all other member).mono keeps) recorded
  | finished all recorded =>
      exact .finished (fun other member => (all other member).mono keeps) recorded
  | mismatch member found differs => exact .mismatch member (keeps _ _ found) differs
  | failed => exact .failed

/-- The loop goes on soundly behind migrations that the table has, by induction on what is left. -/
theorem nextMigration_sound {rows applied : Map String String} {records : List MigrationRecord}
    {rest : List Migration} (before : List Migration) (known : Keeps applied rows)
    (all : ∀ other ∈ before, Has computeChecksum rows other)
    (recorded : Recorded computeChecksum before records)
    : RunnerSound computeChecksum rows
        { migrations := before ++ rest
          phase := nextMigration computeChecksum applied records rest } := by
  induction rest generalizing before with
  | nil =>
      rw [List.append_nil]
      exact .finished all recorded
  | cons migration rest ih =>
      rw [nextMigration]
      by_cases has : applied.has migration.version
      · obtain ⟨actual, found⟩ := Option.isSome_iff_exists.mp has
        rw [if_pos has]
        by_cases same : applied.get migration.version = some (computeChecksum migration.content)
        · simp only [same, if_true]
          have more := ih (before ++ [migration]) (by
            intro other member
            rcases List.mem_append.mp member with earlier | last
            · exact all other earlier
            · obtain rfl := List.mem_singleton.mp last
              exact known _ _ same) (by
            rw [Recorded, List.map_append]
            exact recorded.trans (List.sublist_append_left _ _))
          rwa [List.append_assoc, List.singleton_append] at more
        · simp only [same, if_false]
          rw [found]
          refine .mismatch (List.mem_append_right _ (List.mem_cons_self ..)) (known _ _ found) ?_
          intro equal
          exact same (found.trans (congrArg some equal))
      · rw [if_neg has]
        exact .migrating known all recorded

theorem RunnerSound.of_ensuring {rows : Map String String} {runner : Runner}
    (sound : RunnerSound computeChecksum rows runner) (ensuring : runner.phase = .ensuring)
    : runner.migrations = [] := by
  cases sound with
  | ensuring => rfl
  | _ => cases ensuring

theorem RunnerSound.of_reading {rows applied : Map String String} {runner : Runner}
    (sound : RunnerSound computeChecksum rows runner) (reading : runner.phase = .reading applied)
    : runner.migrations = [] ∧ Keeps applied rows := by
  cases sound with
  | reading known =>
      cases reading
      exact ⟨rfl, known⟩
  | _ => cases reading

theorem RunnerSound.of_migrating {rows applied : Map String String} {runner : Runner}
    {migration : Migration} {rest : List Migration} {records : List MigrationRecord}
    (sound : RunnerSound computeChecksum rows runner)
    (migrating : runner.phase = .migrating applied migration rest records)
    : ∃ before,
        runner.migrations = before ++ migration :: rest ∧ Keeps applied rows
        ∧ (∀ other ∈ before, Has computeChecksum rows other)
        ∧ Recorded computeChecksum before records := by
  cases sound with
  | migrating known all recorded =>
      cases migrating
      exact ⟨_, rfl, known, all, recorded⟩
  | _ => cases migrating

-----------------------------------------------------------------------------------------
-- Each move keeps it
-----------------------------------------------------------------------------------------

/-- A runner may go on as long as its files stay and its transaction is for its migration. -/
theorem Sound.setRunner {world : World} (sound : Sound computeChecksum world) (runner : Nat)
    {next : Runner} (nextSound : RunnerSound computeChecksum world.rows next)
    (kept
      : (world.runners runner).migrations = []
        ∨ next.migrations = (world.runners runner).migrations)
    (own
      : ∀ transaction applied migration rest records,
          world.transactions runner = some transaction
          → next.phase = .migrating applied migration rest records
          → transaction.migration = migration)
    : Sound computeChecksum
        { world with runners := Function.update world.runners runner next } := by
  refine ⟨sound.rows, ?_, ?_, ?_, sound.locks⟩
  · intro before migration after split
    obtain ⟨other, earlier, later, files, all⟩ := sound.ordered before migration after split
    refine ⟨other, earlier, later, ?_, all⟩
    by_cases same : other = runner
    · subst same
      rcases kept with none | kept
      · rw [none] at files
        exact absurd files (by simp)
      · simpa [kept] using files
    · simpa [Function.update_of_ne same] using files
  · intro other
    by_cases same : other = runner
    · subst same
      simpa using nextSound
    · simpa [Function.update_of_ne same] using sound.runners other
  · intro other transaction found
    have old := sound.transactions other transaction found
    by_cases same : other = runner
    · subst same
      refine ⟨?_, ?_, old.holds, old.done⟩
      · rcases kept with none | kept
        · obtain ⟨before, after, files, -⟩ := old.reached
          rw [none] at files
          exact absurd files (by simp)
        · simpa [kept] using old.reached
      · intro applied migration rest records phase
        exact own transaction applied migration rest records found (by simpa using phase)
    · refine ⟨?_, ?_, old.holds, old.done⟩
      · simpa [Function.update_of_ne same] using old.reached
      · simpa [Function.update_of_ne same] using old.own

/-- A transaction may go on as long as it holds what it held. -/
theorem Sound.setTransaction {world : World} (sound : Sound computeChecksum world)
    (runner : Nat) {next : Option Transaction}
    (nextSound
      : ∀ transaction,
          next = some transaction → TransactionSound computeChecksum world runner transaction)
    (holds
      : ∀ version,
          world.locks version = some runner
          → ∃ transaction,
              next = some transaction ∧ transaction.migration.version = version
              ∧ transaction.stage.HoldsKey)
    : Sound computeChecksum (world.setTransaction runner next) := by
  refine ⟨sound.rows, sound.ordered, sound.runners, ?_, ?_⟩
  · intro other transaction found
    by_cases same : other = runner
    · subst same
      have old := nextSound transaction (by simpa [World.setTransaction] using found)
      exact ⟨old.reached, old.own, old.holds, old.done⟩
    · have old := sound.transactions other transaction
        (by simpa [World.setTransaction, Function.update_of_ne same] using found)
      exact ⟨old.reached, old.own, old.holds, old.done⟩
  · intro version other locked
    by_cases same : other = runner
    · subst same
      simpa [World.setTransaction] using holds version locked
    · simpa [World.setTransaction, Function.update_of_ne same]
        using sound.locks version other locked

/-- A transaction holds no key where it has not written its row, or has ended. -/
theorem Sound.no_locks {world : World} (sound : Sound computeChecksum world) {runner : Nat}
    {migration : Migration} {stage : Stage}
    (found : world.transactions runner = some { migration, stage }) (free : ¬ stage.HoldsKey)
    (version : String) : world.locks version ≠ some runner := by
  intro locked
  obtain ⟨transaction, same, -, holds⟩ := sound.locks version runner locked
  rw [found] at same
  cases same
  exact free holds

/-- The key that a transaction holds is that of its migration. -/
theorem Sound.locked_version {world : World} (sound : Sound computeChecksum world)
    {runner : Nat} {migration : Migration} {stage : Stage}
    (found : world.transactions runner = some { migration, stage }) {version : String}
    (locked : world.locks version = some runner) : migration.version = version := by
  obtain ⟨transaction, same, equal, -⟩ := sound.locks version runner locked
  rw [found] at same
  cases same
  exact equal

/-- A stage that holds no more than before, and is not the commit, is sound. -/
theorem TransactionSound.later {world : World} {runner : Nat} {migration : Migration}
    {stage later : Stage}
    (sound : TransactionSound computeChecksum world runner { migration, stage })
    (holds : later.HoldsKey → stage.HoldsKey) (open' : later ≠ .committed)
    : TransactionSound computeChecksum world runner { migration, stage := later } :=
  ⟨sound.reached, sound.own, fun held => sound.holds (holds held),
    fun committed => absurd committed open'⟩

/-- A key that no other transaction holds may be taken or given back by its transaction. -/
theorem Sound.setLock {world : World} (sound : Sound computeChecksum world) {runner : Nat}
    {migration : Migration} {stage later : Stage}
    (found : world.transactions runner = some { migration, stage }) (open' : later ≠ .committed)
    (others : ∀ other, world.locks migration.version = some other → other = runner)
    (absent : later.HoldsKey → world.rows.get migration.version = none)
    {holder : Option Nat} (held : holder = some runner ∧ later.HoldsKey
      ∨ holder = none ∧ ¬ later.HoldsKey)
    : Sound computeChecksum
        ((world.setLock migration.version holder).setTransaction runner
          (some { migration, stage := later })) := by
  have old := sound.transactions runner _ found
  refine ⟨sound.rows, sound.ordered, sound.runners, ?_, ?_⟩
  · intro other transaction next
    by_cases same : other = runner
    · subst same
      simp only [World.setTransaction, Function.update_self, Option.some.injEq] at next
      subst next
      refine ⟨old.reached, old.own, fun holds => ⟨?_, absent holds⟩,
        fun committed => absurd committed open'⟩
      rcases held with ⟨rfl, -⟩ | ⟨-, free⟩
      · simp [World.setLock, World.setTransaction]
      · exact absurd holds free
    · simp only [World.setTransaction, Function.update_of_ne same] at next
      have its := sound.transactions other transaction next
      refine ⟨its.reached, its.own, fun holds => ⟨?_, (its.holds holds).2⟩, its.done⟩
      have locked := (its.holds holds).1
      have apart : transaction.migration.version ≠ migration.version := by
        intro equal
        rw [equal] at locked
        exact same (others other locked)
      simpa [World.setLock, World.setTransaction, Function.update_of_ne apart] using locked
  · intro version other locked
    by_cases equal : version = migration.version
    · subst equal
      rcases held with ⟨rfl, holds⟩ | ⟨rfl, -⟩
      · obtain rfl : runner = other := by
          simpa [World.setLock, World.setTransaction] using locked
        exact ⟨{ migration, stage := later }, by simp [World.setTransaction], rfl, holds⟩
      · exact absurd locked (by simp [World.setLock, World.setTransaction])
    · have before : world.locks version = some other := by
        simpa [World.setLock, World.setTransaction, Function.update_of_ne equal] using locked
      by_cases same : other = runner
      · subst same
        exact absurd (sound.locked_version found before) (Ne.symm equal)
      · obtain ⟨transaction, its, key⟩ := sound.locks version other before
        exact ⟨transaction, by
          simpa [World.setLock, World.setTransaction, Function.update_of_ne same] using its, key⟩

/-- A new row leaves those of other versions. -/
theorem keeps_set {rows : Map String String} {version : String}
    (absent : rows.get version = none) (checksum : String)
    : Keeps rows (rows.set version checksum) := by
  intro other value found
  have apart : other ≠ version := by
    rintro rfl
    rw [absent] at found
    cases found
  rw [rows.get_set_of_ne _ apart, found]

theorem entries_set {rows : Map String String} {version : String}
    (absent : rows.get version = none) (checksum : String)
    : (rows.set version checksum).entries = rows.entries ++ [(version, checksum)] := by
  rw [Map.set, dif_pos absent]

/-- A version that the table has is that of a committed migration, with its checksum. -/
theorem Sound.committed_of_get {world : World} (sound : Sound computeChecksum world)
    {version checksum : String} (found : world.rows.get version = some checksum)
    : ∃ migration ∈ world.schema, row computeChecksum migration = (version, checksum) := by
  have entry := Map.mem_entries_iff.mpr found
  rw [sound.rows] at entry
  exact List.mem_map.mp entry

/-- A commit keeps soundness: its row is new, and all before it are in the table. -/
theorem Sound.takeEffect {world : World} (sound : Sound computeChecksum world) {runner : Nat}
    {migration : Migration}
    (committing : world.transactions runner = some { migration, stage := .committing })
    : Sound computeChecksum
        { (world.setLock migration.version none).setTransaction runner
            (some { migration, stage := .committed }) with
          rows := world.rows.set migration.version (computeChecksum migration.content)
          commits := world.commits ++ [(runner, migration)] } := by
  have old := sound.transactions runner _ committing
  obtain ⟨locked, absent⟩ := old.holds (.inr rfl)
  have keeps := keeps_set absent (computeChecksum migration.content)
  have released : Sound computeChecksum
      ((world.setLock migration.version none).setTransaction runner
        (some { migration, stage := .rolledBack })) :=
    sound.setLock committing (by decide) (fun other its => Option.some.inj (its.symm.trans locked))
      (fun holds => absurd holds (by simp [Stage.HoldsKey]))
      (.inr ⟨rfl, by simp [Stage.HoldsKey]⟩)
  have grown : (world.commits ++ [(runner, migration)]).map Prod.snd
      = world.schema ++ [migration] :=
    List.map_append
  refine ⟨?_, ?_, fun other => (sound.runners other).mono keeps, ?_, ?_⟩
  · change _ = List.map _ ((world.commits ++ [(runner, migration)]).map Prod.snd)
    rw [entries_set absent, sound.rows, grown, List.map_append]
    rfl
  · intro before last after split
    change (world.commits ++ [(runner, migration)]).map Prod.snd = _ at split
    rw [grown] at split
    rcases List.eq_nil_or_concat after with rfl | ⟨others, final, rfl⟩
    · obtain ⟨rfl, equal⟩ := List.append_inj' split rfl
      obtain rfl := (List.cons.inj equal).1
      obtain ⟨earlier, later, files, all⟩ := old.reached
      refine ⟨runner, earlier, later, files, ?_⟩
      intro other member
      rw [← sound.rows]
      exact Map.mem_entries_iff.mpr (all other member)
    · rw [List.concat_eq_append, ← List.cons_append, ← List.append_assoc] at split
      exact sound.ordered before last others (List.append_inj' split rfl).1
  · intro other transaction next
    by_cases same : other = runner
    · subst same
      simp only [World.setTransaction, Function.update_self, Option.some.injEq] at next
      subst next
      refine ⟨old.reached.mono keeps, old.own, ?_, ?_⟩
      · intro holds
        exact absurd holds (by simp [Stage.HoldsKey])
      · intro _
        exact Map.get_set_self ..
    · simp only [World.setTransaction, Function.update_of_ne same] at next
      have its := sound.transactions other transaction next
      refine ⟨its.reached.mono keeps, its.own, ?_, fun done => (its.done done).mono keeps⟩
      intro holds
      obtain ⟨held, free⟩ := its.holds holds
      have apart : transaction.migration.version ≠ migration.version := by
        intro equal
        rw [equal, locked] at held
        exact same (Option.some.inj held).symm
      exact ⟨by simpa [World.setLock, World.setTransaction, Function.update_of_ne apart] using held,
        (world.rows.get_set_of_ne _ apart).trans free⟩
  · intro version other held
    obtain ⟨transaction, its, key, holds⟩ := released.locks version other held
    by_cases same : other = runner
    · subst same
      simp only [World.setTransaction, Function.update_self, Option.some.injEq] at its
      subst its
      exact absurd holds (by simp [Stage.HoldsKey])
    · exact ⟨transaction, by
        simpa [World.setLock, World.setTransaction, Function.update_of_ne same] using its, key,
        holds⟩

/-- Every move keeps soundness, by cases on the move. -/
theorem Moves.sound {world next : World} {event : Event}
    (moves : Moves computeChecksum localeCompare world event next)
    (sound : Sound computeChecksum world)
    : Sound computeChecksum next := by
  cases moves with
  | @select runner ensuring =>
      have none := (sound.runners runner).of_ensuring ensuring
      refine sound.setRunner runner ?_ (.inl none) ?_
      · change RunnerSound computeChecksum world.rows
          { migrations := (world.runners runner).migrations, phase := .reading world.rows }
        rw [none]
        exact .reading fun _ _ found => found
      · intro _ _ _ _ _ _ phase
        cases phase
  | @load runner directory applied reading =>
      obtain ⟨none, known⟩ := (sound.runners runner).of_reading reading
      refine sound.setRunner runner ?_ (.inl none) ?_
      · exact nextMigration_sound [] known (by simp) (List.nil_sublist _)
      · intro transaction _ _ _ _ found _
        obtain ⟨before, after, files, -⟩ := (sound.transactions runner _ found).reached
        rw [none] at files
        exact absurd files (by simp)
  | @start runner applied migration rest records migrating none =>
      obtain ⟨before, files, known, all, -⟩ := (sound.runners runner).of_migrating migrating
      refine sound.setTransaction runner ?_ ?_
      · rintro _ ⟨⟩
        refine ⟨⟨before, rest, files, all⟩, ?_, ?_, ?_⟩
        · intro _ _ _ _ phase
          rw [migrating] at phase
          cases phase
          rfl
        · intro holds
          exact absurd holds (by simp [Stage.HoldsKey])
        · intro done
          cases done
      · intro version locked
        obtain ⟨transaction, found, -⟩ := sound.locks version runner locked
        rw [none] at found
        cases found
  | @execute runner migration begun =>
      refine sound.setTransaction runner ?_ ?_
      · rintro _ ⟨⟩
        exact (sound.transactions runner _ begun).later (by simp [Stage.HoldsKey]) (by decide)
      · intro version locked
        exact absurd locked (sound.no_locks begun (by simp [Stage.HoldsKey]) version)
  | @insert runner migration executed free absent =>
      refine sound.setLock executed (by decide) ?_ (fun _ => absent) (.inl ⟨rfl, .inl rfl⟩)
      intro other held
      rw [free] at held
      cases held
  | @commit runner migration inserted =>
      refine sound.setTransaction runner ?_ ?_
      · rintro _ ⟨⟩
        exact (sound.transactions runner _ inserted).later (fun _ => .inl rfl) (by decide)
      · intro version locked
        exact ⟨_, rfl, sound.locked_version inserted locked, .inr rfl⟩
  | takeEffect committing => exact sound.takeEffect committing
  | @release runner migration stage open' holds =>
      have locked := ((sound.transactions runner _ open').holds holds).1
      refine sound.setLock open' (by decide) ?_ ?_ (.inr ⟨rfl, by simp [Stage.HoldsKey]⟩)
      · intro other held
        exact Option.some.inj (held.symm.trans locked)
      · intro held
        exact absurd held (by simp [Stage.HoldsKey])
  | @abandon runner migration stage open' early =>
      have free : ¬ stage.HoldsKey := by
        rcases early with rfl | rfl <;> simp [Stage.HoldsKey]
      refine sound.setTransaction runner ?_ ?_
      · rintro _ ⟨⟩
        exact (sound.transactions runner _ open').later (by simp [Stage.HoldsKey]) (by decide)
      · intro version locked
        exact absurd locked (sound.no_locks open' free version)
  | @answer runner now applied migration rest records done migrating committed =>
      obtain ⟨before, files, known, all, recorded⟩ :=
        (sound.runners runner).of_migrating migrating
      have its := sound.transactions runner _ committed
      obtain rfl : done = migration := its.own _ _ _ _ migrating
      have ended : Sound computeChecksum (world.setTransaction runner none) := by
        refine sound.setTransaction runner (fun _ found => nomatch found) ?_
        intro version locked
        exact absurd locked (sound.no_locks committed (by simp [Stage.HoldsKey]) version)
      refine ended.setRunner runner ?_ (.inr rfl) ?_
      · have further := @nextMigration_sound computeChecksum _ _
          (records ++ [{ version := done.version
                         appliedAt := now
                         checksum := computeChecksum done.content }])
          rest (before ++ [done]) known (by
            intro other member
            rcases List.mem_append.mp member with earlier | last
            · exact all other earlier
            · obtain rfl := List.mem_singleton.mp last
              exact its.done rfl) (by
            rw [Recorded, List.map_append, List.map_append]
            exact recorded.append (.refl _))
        rw [List.append_assoc, List.singleton_append, ← files] at further
        exact further
      · intro _ _ _ _ _ found
        simp [World.setTransaction] at found
  | @fail runner underWay =>
      refine sound.setRunner runner .failed (.inr rfl) ?_
      intro _ _ _ _ _ _ phase
      cases phase

-----------------------------------------------------------------------------------------
-- What a run has to show
-----------------------------------------------------------------------------------------

/-- What a record says of its migration. -/
def MigrationRecord.entry (record : MigrationRecord) : String × String :=
  (record.version, record.checksum)

/-- The migration that is committed without an answer so far. -/
def unanswered : Option Transaction → List Migration
  | some { migration, stage := .committed } => [migration]
  | _ => []

variable (computeChecksum) in
/-- The records of a run are those of what it has committed, but for a commit that is not answered,
by its phase and its transaction.
-/
inductive Credited (committed : List Migration) : Phase → Option Transaction → Prop
  | ensuring (nothing : committed = []) : Credited committed .ensuring none
  | reading {applied} (nothing : committed = []) : Credited committed (.reading applied) none
  | migrating {applied migration rest records transaction}
    (same
      : records.map MigrationRecord.entry ++ (unanswered transaction).map (row computeChecksum)
        = committed.map (row computeChecksum))
    : Credited committed (.migrating applied migration rest records) transaction
  | finished {records}
    (same : records.map MigrationRecord.entry = committed.map (row computeChecksum))
    : Credited committed (.finished records) none
  | failed {failure transaction} : Credited committed (.failed failure) transaction

variable (computeChecksum) in
/-- All runs of a world have their records. -/
def AllCredited (world : World) : Prop :=
  ∀ runner,
    Credited computeChecksum (world.committedBy runner) (world.runners runner).phase
      (world.transactions runner)

/-- The loop adds no records, by induction on the files. -/
theorem nextMigration_credited {committed : List Migration} {applied : Map String String}
    {records : List MigrationRecord} (files : List Migration)
    (same : records.map MigrationRecord.entry = committed.map (row computeChecksum))
    : Credited computeChecksum committed (nextMigration computeChecksum applied records files)
        none := by
  induction files with
  | nil => exact .finished same
  | cons migration rest ih =>
      rw [nextMigration]
      by_cases has : applied.has migration.version
      · rw [if_pos has]
        dsimp only
        split
        · exact ih
        · exact .failed
      · rw [if_neg has]
        exact .migrating ((List.append_nil _).trans same)

/-- What is written of a transaction does not matter while it is not committed. -/
theorem unanswered_of_open {transaction : Transaction}
    (uncommitted : transaction.stage ≠ .committed)
    : unanswered (some transaction) = [] := by
  obtain ⟨migration, stage⟩ := transaction
  cases stage with
  | committed => exact absurd rfl uncommitted
  | _ => rfl

namespace Credited

variable {committed : List Migration} {phase : Phase} {transaction : Option Transaction}

/-- Before it has read its files, a run has committed nothing and has no transaction. -/
theorem of_unread (credited : Credited computeChecksum committed phase transaction)
    (unread : phase = .ensuring ∨ ∃ applied, phase = .reading applied)
    : committed = [] ∧ transaction = none := by
  cases credited with
  | ensuring nothing => exact ⟨nothing, rfl⟩
  | reading nothing => exact ⟨nothing, rfl⟩
  | _ => simp at unread

theorem of_migrating {applied : Map String String} {migration : Migration}
    {rest : List Migration} {records : List MigrationRecord}
    (credited
      : Credited computeChecksum committed (.migrating applied migration rest records) transaction)
    : records.map MigrationRecord.entry ++ (unanswered transaction).map (row computeChecksum)
      = committed.map (row computeChecksum) := by
  cases credited with
  | migrating same => exact same

theorem of_finished {records : List MigrationRecord}
    (credited : Credited computeChecksum committed (.finished records) transaction)
    : records.map MigrationRecord.entry = committed.map (row computeChecksum) := by
  cases credited with
  | finished same => exact same

/-- A transaction that is neither committed before nor after keeps the records. -/
theorem of_open {before later : Transaction}
    (credited : Credited computeChecksum committed phase (some before))
    (uncommitted : before.stage ≠ .committed) (still : later.stage ≠ .committed)
    : Credited computeChecksum committed phase (some later) := by
  cases credited with
  | migrating same =>
      refine .migrating ?_
      rwa [unanswered_of_open uncommitted, ← unanswered_of_open still] at same
  | failed => exact .failed

/-- A commit that takes effect is one to be answered. -/
theorem commit {migration : Migration}
    (credited
      : Credited computeChecksum committed phase (some { migration, stage := .committing }))
    : Credited computeChecksum (committed ++ [migration]) phase
        (some { migration, stage := .committed }) := by
  cases credited with
  | migrating same =>
      refine .migrating ?_
      rw [List.map_append, ← same, List.append_assoc]
      rfl
  | failed => exact .failed

end Credited

/-- A move of one runner keeps the records if it keeps those of this runner. -/
theorem AllCredited.update {world next : World} (credited : AllCredited computeChecksum world)
    (runner : Nat)
    (others
      : ∀ other,
          other ≠ runner
          → next.committedBy other = world.committedBy other
            ∧ next.runners other = world.runners other
            ∧ next.transactions other = world.transactions other)
    (own
      : Credited computeChecksum (next.committedBy runner) (next.runners runner).phase
          (next.transactions runner))
    : AllCredited computeChecksum next := by
  intro other
  by_cases same : other = runner
  · exact same ▸ own
  · obtain ⟨commits, runners, transactions⟩ := others other same
    rw [commits, runners, transactions]
    exact credited other

/-- Every move keeps the records, by cases on the move. -/
theorem Moves.credited {world next : World} {event : Event}
    (moves : Moves computeChecksum localeCompare world event next)
    (sound : Sound computeChecksum world) (credited : AllCredited computeChecksum world)
    : AllCredited computeChecksum next := by
  have setRunner (runner : Nat) (later : Runner)
      (own
        : Credited computeChecksum (world.committedBy runner) later.phase
            (world.transactions runner))
      : AllCredited computeChecksum
          { world with runners := Function.update world.runners runner later } :=
    credited.update runner
      (fun other apart => ⟨rfl, Function.update_of_ne apart _ _, rfl⟩)
      (by dsimp only; rw [Function.update_self]; exact own)
  have setTransaction (runner : Nat) (locks : String → Option Nat)
      (transaction : Option Transaction)
      (own
        : Credited computeChecksum (world.committedBy runner) (world.runners runner).phase
            transaction)
      : AllCredited computeChecksum ({ world with locks }.setTransaction runner transaction) :=
    credited.update runner
      (fun other apart => ⟨rfl, rfl, Function.update_of_ne apart _ _⟩)
      (by dsimp only [World.setTransaction]; rw [Function.update_self]; exact own)
  cases moves with
  | @select runner ensuring =>
      obtain ⟨nothing, idle⟩ := (credited runner).of_unread (.inl ensuring)
      exact setRunner runner _ (idle ▸ .reading nothing)
  | @load runner directory applied reading =>
      obtain ⟨nothing, idle⟩ := (credited runner).of_unread (.inr ⟨applied, reading⟩)
      refine setRunner runner _ ?_
      rw [idle, nothing]
      exact nextMigration_credited _ rfl
  | @start runner applied migration rest records migrating none =>
      have own := credited runner
      rw [migrating, none] at own
      refine setTransaction runner world.locks _ ?_
      rw [migrating]
      exact .migrating own.of_migrating
  | @execute runner migration begun =>
      exact setTransaction runner world.locks _
        ((begun ▸ credited runner).of_open (by simp) (by simp))
  | @insert runner migration executed =>
      exact setTransaction runner _ _ ((executed ▸ credited runner).of_open (by simp) (by simp))
  | @commit runner migration inserted =>
      exact setTransaction runner world.locks _
        ((inserted ▸ credited runner).of_open (by simp) (by simp))
  | @takeEffect runner migration committing =>
      refine credited.update runner (fun other apart => ⟨?_, rfl, ?_⟩) ?_
      · simp [World.committedBy, Ne.symm apart]
      · exact Function.update_of_ne apart _ _
      · have own := credited runner
        rw [committing] at own
        have further := own.commit
        simpa [World.committedBy, World.setTransaction, World.setLock] using further
  | @release runner migration stage open' holds =>
      have uncommitted : stage ≠ .committed := by
        rintro rfl
        exact absurd holds (by simp [Stage.HoldsKey])
      exact setTransaction runner _ _ ((open' ▸ credited runner).of_open uncommitted (by simp))
  | @abandon runner migration stage open' early =>
      have uncommitted : stage ≠ .committed := by
        rcases early with rfl | rfl <;> simp
      exact setTransaction runner world.locks _
        ((open' ▸ credited runner).of_open uncommitted (by simp))
  | @answer runner now applied migration rest records done migrating committed =>
      have own := credited runner
      rw [migrating, committed] at own
      obtain rfl : done = migration :=
        (sound.transactions runner _ committed).own _ _ _ _ migrating
      refine credited.update runner
        (fun other apart => ⟨rfl, Function.update_of_ne apart _ _,
          Function.update_of_ne apart _ _⟩) ?_
      simp only [World.setTransaction, World.setPhase, Function.update_self]
      refine nextMigration_credited _ ?_
      rw [List.map_append]
      exact own.of_migrating
  | @fail runner underWay => exact setRunner runner _ .failed

variable (computeChecksum localeCompare)

theorem sound_initial : Sound computeChecksum {} where
  rows := rfl
  ordered := by
    intro before migration after split
    exact absurd (List.append_eq_nil_iff.mp split.symm).2 (List.cons_ne_nil _ _)
  runners _ := .ensuring
  transactions _ _ found := nomatch found
  locks _ _ held := nomatch held

/-- Soundness holds in every world, by run induction. -/
theorem sound_run (events : List Event)
    : Sound computeChecksum (run (step computeChecksum localeCompare) {} events) := by
  refine run_invariant ?_ events (sound_initial computeChecksum)
  intro world event sound
  rcases step_cases computeChecksum localeCompare world event with same | moves
  · rw [same]
    exact sound
  · exact moves.sound sound

/-- In every world all runs have their records, by run induction. -/
theorem credited_run (events : List Event)
    : AllCredited computeChecksum (run (step computeChecksum localeCompare) {} events) := by
  have kept : ∀ world event, Sound computeChecksum world ∧ AllCredited computeChecksum world →
      Sound computeChecksum (step computeChecksum localeCompare world event)
        ∧ AllCredited computeChecksum (step computeChecksum localeCompare world event) := by
    rintro world event ⟨sound, credited⟩
    rcases step_cases computeChecksum localeCompare world event with same | moves
    · rw [same]
      exact ⟨sound, credited⟩
    · exact ⟨moves.sound sound, moves.credited sound credited⟩
  exact (run_invariant kept events ⟨sound_initial computeChecksum, fun _ => .ensuring rfl⟩).2

/-- The versions of the table are distinct. -/
theorem Sound.versions_nodup {computeChecksum : String → String} {world : World}
    (sound : Sound computeChecksum world)
    : (world.schema.map Migration.version).Nodup := by
  have unique := world.rows.unique
  rwa [sound.rows, List.map_map] at unique

/-- A finished run leaves all its files in the table, with their checksums. -/
theorem Sound.of_finished {computeChecksum : String → String} {world : World}
    (sound : Sound computeChecksum world) {runner : Nat} {records : List MigrationRecord}
    (ended : (world.runners runner).phase = .finished records)
    : (∀ migration ∈ (world.runners runner).migrations,
        Has computeChecksum world.rows migration)
      ∧ Recorded computeChecksum (world.runners runner).migrations records := by
  have its := sound.runners runner
  revert its ended
  generalize world.runners runner = state
  intro ended its
  cases its with
  | finished all recorded =>
      cases ended
      exact ⟨all, recorded⟩
  | _ => cases ended

/-- A run that fails by its check has a file that differs from what was migrated. -/
theorem Sound.of_mismatch {computeChecksum : String → String} {world : World}
    (sound : Sound computeChecksum world) {runner : Nat} {filename expected : String}
    {actual : Option String}
    (ended
      : (world.runners runner).phase = .failed (.checksumMismatch filename expected actual))
    : ∃ migration ∈ (world.runners runner).migrations, ∃ other ∈ world.schema,
        migration.filename = filename ∧ other.version = migration.version
        ∧ other.content ≠ migration.content := by
  have its := sound.runners runner
  revert its ended
  generalize world.runners runner = state
  intro ended its
  cases its with
  | @mismatch migrations migration found' member found differs =>
      cases ended
      obtain ⟨other, committed, same⟩ := sound.committed_of_get found
      obtain ⟨version, checksum⟩ := Prod.mk.inj same
      refine ⟨migration, member, other, committed, rfl, version, ?_⟩
      intro equal
      apply differs
      rw [← checksum, equal]
  | _ => cases ended

/-- In every interleaving of runs with their failures, each version is migrated at most once and
the table has exactly the committed migrations with their checksums, each behind all before it in
the files that its runner read. A finished run leaves the table with all its files, and its records
are those of what its own transactions have committed, in the order of the files; one that fails by
its own check has found a file that is not what was migrated.
-/
theorem migrations_accounted (events : List Event)
    : let world := run (step computeChecksum localeCompare) {} events
      (world.schema.map Migration.version).Nodup
      ∧ world.rows.entries = world.schema.map (row computeChecksum)
      ∧ (∀ before migration after,
          world.schema = before ++ migration :: after
          → ∃ runner earlier later,
              (world.runners runner).migrations = earlier ++ migration :: later
              ∧ ∀ other ∈ earlier, row computeChecksum other ∈ before.map (row computeChecksum))
      ∧ (∀ runner records,
          (world.runners runner).phase = .finished records
          → (∀ migration ∈ (world.runners runner).migrations,
                row computeChecksum migration ∈ world.schema.map (row computeChecksum))
            ∧ records.map MigrationRecord.entry
                = (world.committedBy runner).map (row computeChecksum)
            ∧ (records.map MigrationRecord.entry).Sublist
                ((world.runners runner).migrations.map (row computeChecksum)))
      ∧ ∀ runner filename expected actual,
          (world.runners runner).phase = .failed (.checksumMismatch filename expected actual)
          → ∃ migration ∈ (world.runners runner).migrations, ∃ other ∈ world.schema,
              migration.filename = filename ∧ other.version = migration.version
              ∧ other.content ≠ migration.content := by
  intro world
  have sound : Sound computeChecksum world := sound_run computeChecksum localeCompare events
  refine ⟨sound.versions_nodup, sound.rows, sound.ordered, ?_, ?_⟩
  · intro runner records ended
    obtain ⟨all, recorded⟩ := sound.of_finished ended
    have own := credited_run computeChecksum localeCompare events runner
    rw [ended] at own
    refine ⟨?_, own.of_finished, recorded⟩
    intro migration member
    rw [← sound.rows]
    exact Map.mem_entries_iff.mpr (all migration member)
  · intro runner filename expected actual ended
    exact sound.of_mismatch ended

end CrashWave.Migrations
