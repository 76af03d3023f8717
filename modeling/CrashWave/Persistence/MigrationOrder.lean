import CrashWave.Persistence.MigrationRuns
import Mathlib.Data.List.Induction
import Mathlib.Data.String.Basic

/-! Processes with the same files: the database has a beginning of them at any time, and a run that
meets no error completes it.
-/

namespace CrashWave.Migrations

open JavaScript Runs

-----------------------------------------------------------------------------------------
-- The files of a directory
-----------------------------------------------------------------------------------------

/-- Names with the ending are told apart by what is before it. -/
theorem basename_injOn {suffix first second : String} (one : endsWith first suffix)
    (two : endsWith second suffix) (same : basename first suffix = basename second suffix)
    : first = second := by
  rw [basename, if_pos one, basename, if_pos two] at same
  have heads := String.ofList_injective same
  have ends := List.suffix_iff_eq_append.mp (List.isSuffixOf_iff_suffix.mp one)
  have others := List.suffix_iff_eq_append.mp (List.isSuffixOf_iff_suffix.mp two)
  apply String.toList_injective
  rw [← ends, ← others, heads]

/-- The versions of the files are distinct, since their names are. -/
theorem getMigrations_nodup (localeCompare : String → String → Int)
    (directory : Map String String)
    : ((getMigrations localeCompare directory).map Migration.version).Nodup := by
  rw [getMigrations, List.map_map]
  refine ((List.perm_insertionSort ..).map _).nodup_iff.mpr ?_
  refine List.Nodup.map_on ?_ ?_
  · intro first one second two same
    have equal : first.1 = second.1 :=
      basename_injOn (List.mem_filter.mp one).2 (List.mem_filter.mp two).2 same
    exact List.inj_on_of_nodup_map directory.unique (List.mem_filter.mp one).1
      (List.mem_filter.mp two).1 equal
  · exact (List.Nodup.of_map _ directory.unique).filter _

/-- `localeCompare` orders all names, and tells those of the files apart. -/
structure NameOrder (localeCompare : String → String → Int) (names : List String) : Prop where
  trans
    : ∀ first second third,
        localeCompare first second ≤ 0
        → localeCompare second third ≤ 0
        → localeCompare first third ≤ 0
  total : ∀ first second, localeCompare first second ≤ 0 ∨ localeCompare second first ≤ 0
  apart
    : ∀ first ∈ names, ∀ second ∈ names,
        localeCompare first second ≤ 0 → localeCompare second first ≤ 0 → first = second

/-- The order in which a directory lists its files does not matter. -/
theorem getMigrations_perm {localeCompare : String → String → Int}
    {directory other : Map String String}
    (order : NameOrder localeCompare (directory.entries.map Prod.fst))
    (same : other.entries.Perm directory.entries)
    : getMigrations localeCompare other = getMigrations localeCompare directory := by
  have : IsTrans (String × String) (SortsBefore localeCompare) :=
    ⟨fun _ _ _ => order.trans _ _ _⟩
  have : Std.Total (SortsBefore localeCompare) := ⟨fun _ _ => order.total _ _⟩
  have kept := same.filter fun file => endsWith file.1 ".sql"
  unfold getMigrations
  congr 1
  refine List.Perm.eq_of_pairwise ?_ (List.pairwise_insertionSort ..)
    (List.pairwise_insertionSort ..)
    ((List.perm_insertionSort ..).trans (kept.trans (List.perm_insertionSort ..).symm))
  intro first second one two below above
  have here : first ∈ directory.entries :=
    same.mem_iff.mp (List.mem_filter.mp ((List.mem_insertionSort _).mp one)).1
  have there : second ∈ directory.entries :=
    (List.mem_filter.mp ((List.mem_insertionSort _).mp two)).1
  have equal := order.apart _ (List.mem_map_of_mem here) _ (List.mem_map_of_mem there) below above
  exact List.inj_on_of_nodup_map directory.unique here there equal

-----------------------------------------------------------------------------------------
-- The database has a beginning of the files
-----------------------------------------------------------------------------------------

/-- A beginning that has all before an item and not the item is what is before it. -/
theorem eq_before_of_prefix {α : Type*} {part before after : List α} {item : α}
    (beginning : part <+: before ++ item :: after)
    (distinct : (before ++ item :: after).Nodup) (all : ∀ other ∈ before, other ∈ part)
    (absent : item ∉ part)
    : part = before := by
  rcases List.prefix_or_prefix_of_prefix beginning (List.prefix_append before _) with
    shorter | longer
  · obtain ⟨tail, rfl⟩ := shorter
    cases tail with
    | nil => rw [List.append_nil]
    | cons other tail =>
        have there := all other (List.mem_append_right _ (List.mem_cons_self ..))
        rw [List.append_assoc] at distinct
        exact absurd (List.mem_cons_self ..) (List.disjoint_of_nodup_append distinct there)
  · obtain ⟨tail, rfl⟩ := longer
    cases tail with
    | nil => rw [List.append_nil]
    | cons other tail =>
        obtain rfl : other = item :=
          (List.cons_prefix_cons.mp (List.prefix_append_right_inj before |>.mp beginning)).1
        exact absurd (List.mem_append_right _ (List.mem_cons_self ..)) absent

variable {computeChecksum : String → String} {localeCompare : String → String → Int}

/-- Every runner has read these files or none, and the database has a beginning of them. -/
structure InOrder (files : List Migration) (world : World) : Prop where
  beginning : world.schema <+: files
  read
    : ∀ runner,
        (world.runners runner).migrations = files
        ∨ (world.runners runner).migrations = []
          ∧ ∀ records, (world.runners runner).phase ≠ .finished records

/-- The version of a migration that the table has is that of a committed one. -/
theorem Sound.version_of_has {world : World} (sound : Sound computeChecksum world)
    {migration : Migration} (has : Has computeChecksum world.rows migration)
    : migration.version ∈ world.schema.map Migration.version := by
  obtain ⟨other, member, same⟩ := sound.committed_of_get has
  exact List.mem_map.mpr ⟨other, member, (Prod.mk.inj same).1⟩

theorem Sound.version_absent {world : World} (sound : Sound computeChecksum world)
    {version : String} (absent : world.rows.get version = none)
    : version ∉ world.schema.map Migration.version := by
  intro member
  obtain ⟨other, committed, rfl⟩ := List.mem_map.mp member
  have entry : row computeChecksum other ∈ world.rows.entries := by
    rw [sound.rows]
    exact List.mem_map_of_mem committed
  have found := Map.mem_entries_iff.mp entry
  rw [absent] at found
  cases found

/-- A commit continues the beginning: the table has what is before its migration and not itself. -/
theorem InOrder.takeEffect {files : List Migration} {world : World}
    (distinct : (files.map Migration.version).Nodup) (order : InOrder files world)
    (sound : Sound computeChecksum world) {runner : Nat} {migration : Migration}
    (committing : world.transactions runner = some { migration, stage := .committing })
    : world.schema ++ [migration] <+: files := by
  have old := sound.transactions runner _ committing
  obtain ⟨before, after, mine, all⟩ := old.reached
  obtain ⟨-, absent⟩ := old.holds (.inr rfl)
  have its : files = before ++ migration :: after := by
    rcases order.read runner with read | ⟨none, -⟩
    · rw [← read, mine]
    · rw [none] at mine
      exact absurd mine (by simp)
  subst its
  have versions := order.beginning.map Migration.version
  rw [List.map_append, List.map_cons] at versions distinct
  have same := eq_before_of_prefix versions distinct
    (by
      intro other member
      obtain ⟨earlier, there, rfl⟩ := List.mem_map.mp member
      exact sound.version_of_has (all earlier there))
    (sound.version_absent absent)
  have length : world.schema.length = before.length := by
    simpa using congrArg List.length same
  obtain rfl : world.schema = before :=
    (List.prefix_of_prefix_length_le order.beginning (List.prefix_append ..)
      length.le).eq_of_length length
  exact ⟨after, by simp⟩

/-- An event at which the same files are read keeps the order, by cases on its move. -/
theorem InOrder.step {files : List Migration} {world : World} {event : Event}
    (distinct : (files.map Migration.version).Nodup)
    (same
      : ∀ runner directory,
          event = .load runner directory → getMigrations localeCompare directory = files)
    (order : InOrder files world) (sound : Sound computeChecksum world)
    : InOrder files (step computeChecksum localeCompare world event) := by
  rcases step_cases computeChecksum localeCompare world event with still | moves
  · rw [still]
    exact order
  revert moves
  generalize Migrations.step computeChecksum localeCompare world event = next
  intro moves
  -- Only a load reads files, and only a commit goes on with the database.
  have setPhase (runner : Nat) (phase : Phase)
      (unread : (world.runners runner).migrations = [] → ∀ records, phase ≠ .finished records)
      : InOrder files (world.setPhase runner phase) := by
    refine ⟨order.beginning, ?_⟩
    intro other
    by_cases equal : other = runner
    · subst equal
      rcases order.read other with read | ⟨none, -⟩
      · exact .inl (by simpa [World.setPhase] using read)
      · exact .inr (by simpa [World.setPhase] using ⟨none, unread none⟩)
    · simpa [World.setPhase, Function.update_of_ne equal] using order.read other
  cases moves with
  | select ensuring => exact setPhase _ _ fun _ _ => by simp
  | @load runner directory applied reading =>
      refine ⟨order.beginning, ?_⟩
      intro other
      by_cases equal : other = runner
      · subst equal
        left
        simpa using same other directory rfl
      · simpa [Function.update_of_ne equal] using order.read other
  | takeEffect committing =>
      refine ⟨?_, order.read⟩
      change (world.commits ++ [_]).map Prod.snd <+: files
      rw [List.map_append]
      exact order.takeEffect distinct sound committing
  | @answer runner now applied migration rest records done migrating committed =>
      obtain ⟨before, files, -⟩ := (sound.runners runner).of_migrating migrating
      refine ⟨order.beginning, (setPhase runner _ ?_).read⟩
      intro none
      rw [none] at files
      exact absurd files (by simp)
  | fail underWay => exact setPhase _ _ fun _ _ => by simp
  | _ => exact ⟨order.beginning, order.read⟩

-----------------------------------------------------------------------------------------
-- A run without errors completes the files
-----------------------------------------------------------------------------------------

/-- The events of a migration that meets no error. -/
def attempt (runner : Nat) (now : Int) : List Event :=
  [.start runner, .execute runner, .insert runner, .commit runner, .takeEffect runner,
    .answer runner now]

/-- The loop passes over what is applied with the checksums of the files, by induction on these. -/
theorem nextMigration_append {applied : Map String String} {records : List MigrationRecord}
    {done rest : List Migration} (all : ∀ other ∈ done, Has computeChecksum applied other)
    : nextMigration computeChecksum applied records (done ++ rest)
      = nextMigration computeChecksum applied records rest := by
  induction done with
  | nil => rfl
  | cons migration done ih =>
      obtain ⟨first, others⟩ := List.forall_mem_cons.mp all
      have has : applied.has migration.version := Option.isSome_iff_exists.mpr ⟨_, first⟩
      rw [List.cons_append, nextMigration, if_pos has]
      simp only [show applied.get migration.version = _ from first, if_true]
      exact ih others

/-- The events of a migration commit it and go on to the next. -/
theorem run_attempt {world : World} {runner : Nat} {applied : Map String String}
    {migration : Migration} {rest : List Migration} {records : List MigrationRecord}
    (migrating : (world.runners runner).phase = .migrating applied migration rest records)
    (idle : world.transactions runner = none) (free : world.locks migration.version = none)
    (absent : world.rows.get migration.version = none) (now : Int)
    : let next := run (step computeChecksum localeCompare) world (attempt runner now)
      next.schema = world.schema ++ [migration]
      ∧ next.rows = world.rows.set migration.version (computeChecksum migration.content)
      ∧ next.locks = world.locks
      ∧ next.transactions runner = none
      ∧ ∃ record,
          (next.runners runner).phase
            = nextMigration computeChecksum applied (records ++ [record]) rest := by
  intro next
  have unlocked : Function.update world.locks migration.version none = world.locks := by
    rw [← free, Function.update_eq_self]
  simp only [next, attempt, run_cons, run_nil, step, World.setTransaction, World.setLock,
    World.setPhase, migrating, idle, free, absent, Phase.isMigrating, unlocked,
    Function.update_self, and_self, if_true, Function.update_idem, true_and, World.schema,
    List.map_append, List.map_cons, List.map_nil]
  exact ⟨_, rfl⟩

/-- The events of what is left complete the files, by induction on it. -/
theorem run_attempts {applied : Map String String} (runner : Nat) (now : Int)
    {rest : List Migration} {world : World} {records : List MigrationRecord}
    (distinct : (rest.map Migration.version).Nodup)
    (unknown : ∀ migration ∈ rest, applied.get migration.version = none)
    (absent : ∀ migration ∈ rest, world.rows.get migration.version = none)
    (free : ∀ version, world.locks version = none)
    (idle : world.transactions runner = none)
    (phase
      : (world.runners runner).phase = nextMigration computeChecksum applied records rest)
    : let next := run (step computeChecksum localeCompare) world
        (List.replicate rest.length (attempt runner now)).flatten
      next.schema = world.schema ++ rest
      ∧ ∃ records, (next.runners runner).phase = .finished records := by
  induction rest generalizing world records with
  | nil => exact ⟨(List.append_nil _).symm, records, phase⟩
  | cons migration rest ih =>
      obtain ⟨new, others⟩ := List.nodup_cons.mp distinct
      obtain ⟨first, unknown⟩ := List.forall_mem_cons.mp unknown
      obtain ⟨lacks, absent⟩ := List.forall_mem_cons.mp absent
      have missing : ¬ applied.has migration.version := by simp [Map.has, first]
      rw [nextMigration, if_neg missing] at phase
      obtain ⟨schema, rows, locks, ended, record, further⟩ :=
        @run_attempt _ localeCompare _ _ _ _ _ _ phase idle (free _) lacks now
      rw [List.length_cons, List.replicate_succ, List.flatten_cons, run_append]
      have more := ih others unknown
        (by
          intro other member
          have apart : other.version ≠ migration.version := by
            intro equal
            exact new (equal ▸ List.mem_map_of_mem member)
          rw [rows, Map.get_set_of_ne _ _ apart, absent other member])
        (by simpa [locks] using free) ended further
      simp only [schema, List.append_assoc, List.singleton_append] at more
      exact more

variable (computeChecksum localeCompare)

/-- The order is kept in every world that runs over the same files lead to. -/
theorem inOrder_run {files : List Migration} (distinct : (files.map Migration.version).Nodup)
    {events : List Event}
    (same
      : ∀ runner directory,
          Event.load runner directory ∈ events → getMigrations localeCompare directory = files)
    : InOrder files (run (step computeChecksum localeCompare) {} events) := by
  induction events using List.reverseRecOn with
  | nil => exact ⟨List.nil_prefix, fun _ => .inr ⟨rfl, fun _ ended => nomatch ended⟩⟩
  | append_singleton events event ih =>
      rw [run_append, run_cons, run_nil]
      refine (ih fun runner directory member =>
        same runner directory (List.mem_append_left _ member)).step distinct ?_
        (sound_run computeChecksum localeCompare events)
      rintro runner directory rfl
      exact same runner directory (List.mem_append_right _ (List.mem_singleton_self _))

/-- Where the files found are the same at each time, the database has a beginning of them, whatever
fails; a finished run means that it has all, and none fails by its check. A further run that meets
no error, while no transaction is open, commits exactly what is left and finishes.
-/
theorem migrations_in_order (directory : Map String String)
    (order : NameOrder localeCompare (directory.entries.map Prod.fst)) (events : List Event)
    (same
      : ∀ runner other,
          Event.load runner other ∈ events → other.entries.Perm directory.entries)
    : let world := run (step computeChecksum localeCompare) {} events
      let files := getMigrations localeCompare directory
      world.schema <+: files
      ∧ (∀ runner records,
          (world.runners runner).phase = .finished records → world.schema = files)
      ∧ (∀ runner filename expected actual,
          (world.runners runner).phase ≠ .failed (.checksumMismatch filename expected actual))
      ∧ ∀ runner now,
          (∀ version, world.locks version = none)
          → world.runners runner = {}
          → let completed := run (step computeChecksum localeCompare) world
              (.select runner :: .load runner directory
                :: (List.replicate (files.length - world.schema.length)
                    (attempt runner now)).flatten)
            completed.schema = files
            ∧ ∃ records, (completed.runners runner).phase = .finished records := by
  intro world files
  have distinct : (files.map Migration.version).Nodup := getMigrations_nodup localeCompare directory
  have sound : Sound computeChecksum world := sound_run computeChecksum localeCompare events
  have inOrder : InOrder files world :=
    inOrder_run computeChecksum localeCompare distinct fun runner other member =>
      getMigrations_perm order (same runner other member)
  obtain ⟨rest, parts⟩ := inOrder.beginning
  refine ⟨inOrder.beginning, ?_, ?_, ?_⟩
  · intro runner records ended
    rcases inOrder.read runner with read | ⟨-, unread⟩
    · have all := (sound.of_finished ended).1
      rw [read] at all
      cases rest with
      | nil => rw [← parts, List.append_nil]
      | cons migration rest =>
          have has := sound.version_of_has
            (all migration (parts ▸ List.mem_append_right _ (List.mem_cons_self ..)))
          rw [← parts, List.map_append, List.map_cons] at distinct
          exact absurd (List.mem_cons_self ..) (List.disjoint_of_nodup_append distinct has)
    · exact absurd ended (unread records)
  · intro runner filename expected actual ended
    obtain ⟨migration, mine, other, committed, -, version, differs⟩ := sound.of_mismatch ended
    apply differs
    rcases inOrder.read runner with read | ⟨none, -⟩
    · rw [read] at mine
      rw [List.inj_on_of_nodup_map distinct (inOrder.beginning.subset committed) mine version]
    · rw [none] at mine
      cases mine
  · intro runner now free fresh completed
    have phase : (world.runners runner).phase = .ensuring := by rw [fresh]
    have idle : world.transactions runner = none := by
      cases found : world.transactions runner with
      | none => rfl
      | some transaction =>
          obtain ⟨before, after, its, -⟩ := (sound.transactions runner _ found).reached
          rw [fresh] at its
          exact absurd its (by simp)
    have all : ∀ other ∈ world.schema, Has computeChecksum world.rows other := by
      intro other member
      apply Map.mem_entries_iff.mp
      rw [sound.rows]
      exact List.mem_map_of_mem (f := row computeChecksum) member
    have absent : ∀ migration ∈ rest, world.rows.get migration.version = none := by
      intro migration member
      by_contra found
      obtain ⟨checksum, found⟩ := Option.ne_none_iff_exists'.mp found
      obtain ⟨other, committed, equal⟩ := sound.committed_of_get found
      rw [← parts, List.map_append] at distinct
      have there : migration.version ∈ world.schema.map Migration.version :=
        List.mem_map.mpr ⟨other, committed, (Prod.mk.inj equal).1⟩
      exact List.disjoint_of_nodup_append distinct there (List.mem_map_of_mem member)
    have length : files.length - world.schema.length = rest.length := by
      rw [← parts, List.length_append, Nat.add_sub_cancel_left]
    have loaded := @run_attempts computeChecksum localeCompare world.rows runner now rest
      (run (step computeChecksum localeCompare) world
        [.select runner, .load runner directory])
      []
      (by
        rw [← parts, List.map_append] at distinct
        exact distinct.of_append_right)
      absent
      (by simpa [step, phase, Phase.isEnsuring, World.setPhase] using absent)
      (by simpa [step, phase, Phase.isEnsuring, World.setPhase] using free)
      (by simpa [step, phase, Phase.isEnsuring, World.setPhase] using idle)
      (by
        rw [← nextMigration_append all, parts]
        simp [step, phase, Phase.isEnsuring, World.setPhase, files])
    have started : (run (step computeChecksum localeCompare) world
        [.select runner, .load runner directory]).schema = world.schema := by
      simp [step, phase, Phase.isEnsuring, World.setPhase, World.schema]
    rw [← run_append, started, parts, ← length] at loaded
    exact loaded

/-- The order of names by their characters. -/
def compareNames (first second : String) : Int :=
  if second < first then 1 else if first < second then -1 else 0

theorem compareNames_nonpos {first second : String}
    : compareNames first second ≤ 0 ↔ first ≤ second := by
  rw [compareNames]
  split_ifs with above below
  · simp [above]
  · simpa using below.le
  · simpa using not_lt.mp above

/-- Two files and a note. -/
def twoMigrations : Map String String where
  entries := [("002_bets.sql", "CREATE TABLE bets"), ("notes.md", "..."),
    ("001_init.sql", "CREATE TABLE rounds")]
  unique := by decide

/-- Two processes start at once; the first one dies with its COMMIT on the way. -/
def twoProcesses : List Event :=
  [.select 0, .select 1, .load 0 twoMigrations, .load 1 twoMigrations, .start 0, .start 1,
    .execute 0, .execute 1, .insert 1, .insert 0, .commit 1, .fail 1, .takeEffect 1, .insert 0,
    .fail 0, .rollBack 0]

/-- Two processes with a lost answer leave a beginning of the files. -/
theorem migrations_in_order_two_processes
    : let world := run (step id compareNames) {} twoProcesses
      world.schema <+: getMigrations compareNames twoMigrations
      ∧ world.rows.entries = [("001_init", "CREATE TABLE rounds")] :=
  ⟨(migrations_in_order id compareNames twoMigrations
      { trans := by
          intro first second third
          simp only [compareNames_nonpos]
          exact le_trans
        total := by
          intro first second
          simp only [compareNames_nonpos]
          exact le_total first second
        apart := by
          intro first _ second _
          simp only [compareNames_nonpos]
          exact le_antisymm }
      twoProcesses
      (by
        intro runner other member
        simp only [twoProcesses, List.mem_cons, List.not_mem_nil, reduceCtorEq, false_or,
          or_false, Event.load.injEq] at member
        rcases member with ⟨-, rfl⟩ | ⟨-, rfl⟩ <;> rfl)).1,
    by decide +kernel⟩

end CrashWave.Migrations
