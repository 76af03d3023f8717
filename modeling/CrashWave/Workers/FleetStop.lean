import CrashWave.Workers.WorkerFleet

/-! Whether a stop of the fleet is final, while starts and restarts that were begun before it go
on at their next await.
-/

namespace CrashWave.Workers

open JavaScript Runs

namespace FleetRun

/-- What a task says about the stops of the fleet: a final one waits, or a stop of a worker that
one waits for.
-/
inductive StopMark where
  | holds (call : Nat)
  | stops (name : String) (call : Nat)
  deriving DecidableEq

def mark : FleetTask → Option StopMark
  | .stoppingAll call true => some (.holds call)
  | .stopping name _ (.stopAll call _) => some (.stops name call)
  | _ => none

def marks (tasks : List FleetTask) : List StopMark := tasks.filterMap mark

/-- No stop of the worker is under way for one of the final stops of the fleet: this one has
returned, or it is done with the worker.
-/
def Settled (run : FleetRun) (name : String) : Prop :=
  run.returned = true
  ∨ ∃ call, .holds call ∈ marks run.tasks ∧ .stops name call ∉ marks run.tasks

/-- The mark is that of a final stop of the fleet which waits for no stop of the worker. -/
def StopMark.settles (name : String) (among : List StopMark) : StopMark → Bool
  | .holds call => !among.contains (.stops name call)
  | .stops _ _ => false

instance (run : FleetRun) (name : String) : Decidable (run.Settled name) :=
  decidable_of_iff
    (run.returned = true ∨ ∃ held ∈ marks run.tasks, held.settles name (marks run.tasks) = true)
    (or_congr Iff.rfl (by
      constructor
      · intro ⟨held, member, settles⟩
        cases held with
        | holds call => exact ⟨call, member, by simpa [StopMark.settles] using settles⟩
        | stops other call => cases settles
      · intro ⟨call, member, unstopped⟩
        exact ⟨.holds call, member, by simpa [StopMark.settles] using unstopped⟩))

/-- Every worker of the fleet has the property. -/
def Each (run : FleetRun) (property : String → BaseWorker → Prop) : Prop :=
  ∀ name worker, run.fleet.workers.get name = some worker → property name worker

instance (run : FleetRun) (property : String → BaseWorker → Prop)
    [∀ name worker, Decidable (property name worker)] : Decidable (run.Each property) :=
  decidable_of_iff (∀ entry ∈ run.fleet.workers.entries, property entry.1 entry.2)
    (by simp [Each, Map.mem_entries_iff])

/-- Once a stop of the fleet has returned, and until a start of it is requested, every worker is
at rest.
-/
def StaysStopped (run : FleetRun) : Prop :=
  run.returned = true → run.Each fun _ worker => worker.AtRest

instance (run : FleetRun) : Decidable run.StaysStopped :=
  inferInstanceAs (Decidable (_ → _))

/-- The workers that a final stop of the fleet is done with are at rest. -/
def Rests (run : FleetRun) : Prop :=
  run.Each fun name worker => run.Settled name → worker.AtRest

/-- The worker that a task is about to start. -/
def starts : FleetTask → Option String
  | .starting name _ => some name
  | .restarting name => some name
  | _ => none

/-- With the workers that a final stop of the fleet is done with, nothing goes on: no start of
one is answered, no restart of one continues after its stop, and no job of one fails as the last
error that its limit allows.
-/
def Undisturbed (run : FleetRun) : FleetEvent → Prop
  | .proceed index _ =>
      run.Each fun name _ => run.Settled name → run.tasks[index]?.bind starts ≠ some name
  | .jobFails failing =>
      run.Each fun name worker =>
        name = failing → run.Settled name → worker.active > 0 → worker.reachesLimit = false
  | _ => True

instance (run : FleetRun) (event : FleetEvent) : Decidable (run.Undisturbed event) := by
  cases event <;> unfold Undisturbed <;> infer_instance

theorem Rests.staysStopped {run : FleetRun} (rests : Rests run) : StaysStopped run :=
  fun returned name worker found => rests name worker found (.inl returned)

-----------------------------------------------------------------------------------------
-- What a step leaves
-----------------------------------------------------------------------------------------

variable {run after : FleetRun}

/-- The same marks and the same answer leave the same workers settled. -/
theorem settled_congr (sameMarks : marks after.tasks = marks run.tasks)
    (sameReturned : after.returned = run.returned) (name : String)
    : after.Settled name ↔ run.Settled name := by
  rw [Settled, Settled, sameMarks, sameReturned]

/-- A step that changes one worker keeps the settled ones at rest exactly when that one stays at
rest if it is settled.
-/
theorem Rests.modify_iff (rests : Rests run) (name : String) (change : BaseWorker → BaseWorker)
    (workers : after.fleet.workers = run.fleet.workers.modify name change)
    (sameMarks : marks after.tasks = marks run.tasks)
    (sameReturned : after.returned = run.returned)
    : Rests after
      ↔ ∀ worker, run.fleet.workers.get name = some worker → run.Settled name →
          (change worker).AtRest := by
  constructor
  · intro rests' worker found settled
    have changed : after.fleet.workers.get name = some (change worker) := by
      simp [workers, Map.get_modify, found]
    exact rests' name _ changed ((settled_congr sameMarks sameReturned name).mpr settled)
  · intro stays other worker found settled
    rw [settled_congr sameMarks sameReturned] at settled
    rw [workers, Map.get_modify] at found
    obtain ⟨old, there, rfl⟩ := Option.map_eq_some_iff.mp found
    by_cases same : other = name
    · subst same
      rw [if_pos rfl]
      exact stays old there settled
    · rw [if_neg same]
      exact rests other old there settled

/-- So it does where the change keeps every worker at rest. -/
theorem Rests.modify (rests : Rests run) (name : String) (change : BaseWorker → BaseWorker)
    (workers : after.fleet.workers = run.fleet.workers.modify name change)
    (sameMarks : marks after.tasks = marks run.tasks)
    (sameReturned : after.returned = run.returned)
    (kept : ∀ worker : BaseWorker, worker.AtRest → (change worker).AtRest)
    : Rests after := by
  refine (rests.modify_iff name change workers sameMarks sameReturned).mpr ?_
  intro worker found settled
  exact kept worker (rests name worker found settled)

/-- Where the workers are the same, fewer settled ones are at rest as well. -/
theorem Rests.of_settled (rests : Rests run)
    (workers : after.fleet.workers = run.fleet.workers)
    (settled : ∀ name, after.Settled name → run.Settled name)
    : Rests after := by
  intro name worker found settled'
  rw [workers] at found
  exact rests name worker found (settled name settled')

/-- A task that is replaced by one with the same mark leaves the marks. -/
theorem marks_set {tasks : List FleetTask} {index : Nat} {task : FleetTask}
    (found : tasks[index]? = some task) {other : FleetTask} (same : mark other = mark task)
    : marks (tasks.set index other) = marks tasks := by
  obtain ⟨before, later, whole, replaced, _⟩ := exists_around found other
  rw [replaced, whole]
  simp [marks, List.filterMap_append, List.filterMap_cons, same]

/-- A task without a mark that ends leaves the marks. -/
theorem marks_eraseIdx {tasks : List FleetTask} {index : Nat} {task : FleetTask}
    (found : tasks[index]? = some task) (unmarked : mark task = none)
    : marks (tasks.eraseIdx index) = marks tasks := by
  obtain ⟨before, later, whole, _, erased⟩ := exists_around found task
  rw [erased, whole]
  simp [marks, List.filterMap_append, unmarked]

/-- A task that ends leaves every mark but its own. -/
theorem mem_marks_eraseIdx {tasks : List FleetTask} {index : Nat} {task : FleetTask}
    (found : tasks[index]? = some task) {own other : StopMark} (marked : mark task = some own)
    (different : other ≠ own)
    : other ∈ marks (tasks.eraseIdx index) ↔ other ∈ marks tasks := by
  obtain ⟨before, later, whole, _, erased⟩ := exists_around found task
  rw [erased, whole]
  simp [marks, List.filterMap_append, marked, different]

theorem rests_register (rests : Rests run) (config : WorkerConfig)
    : Rests (run.next (.register config)) := by
  simp only [next, WorkerFleet.register]
  split
  · next fleet added =>
      split at added
      · cases added
      · cases added
        intro name worker found settled
        by_cases same : name = config.name
        · rw [same, Map.get_set_self] at found
          obtain rfl := Option.some_inj.mp found
          exact BaseWorker.create_atRest config
        · rw [Map.get_set_of_ne _ _ same] at found
          exact rests name worker found settled
  · exact rests

/-- A start of the fleet that is requested leaves no worker settled. -/
theorem rests_startAll : Rests (run.next .startAll) := by
  have unheld : ∀ call, StopMark.holds call ∉ marks (run.next .startAll).tasks := by
    intro call member
    obtain ⟨task, among, marked⟩ := List.mem_filterMap.mp member
    simp only [next, startAll, List.mem_append, List.mem_map, List.mem_singleton] at among
    rcases among with (⟨old, _, rfl⟩ | ⟨entry, _, rfl⟩) | rfl
    · cases old with
      | stopping name point caller => cases caller <;> cases marked
      | stoppingAll other final => cases marked
      | _ => cases marked
    · cases marked
    · cases marked
  intro name worker found settled
  rcases settled with returned | ⟨call, held, _⟩
  · cases returned
  · exact absurd held (unheld call)

/-- A stop of the fleet stops the workers that are not at rest. -/
theorem rests_stopAll (rests : Rests run) : Rests (run.next .stopAll) := by
  intro name worker found settled
  simp only [next, stopAll, Map.get_mapValues] at found
  obtain ⟨old, there, rfl⟩ := Option.map_eq_some_iff.mp found
  have atRest (before : run.Settled name) : old.stop.1.AtRest := by
    have rest := rests name old there before
    rw [BaseWorker.stop_of_atRest rest]
    exact rest
  rcases settled with returned | ⟨call, held, unstopped⟩
  · exact atRest (.inl returned)
  · simp only [next, stopAll, marks, List.filterMap_append, List.mem_append] at held unstopped
    rcases held with (old' | begun) | new
    · refine atRest (.inr ⟨call, old', ?_⟩)
      intro stops
      exact unstopped (.inl (.inl stops))
    · obtain ⟨task, among, marked⟩ := List.mem_filterMap.mp begun
      obtain ⟨entry, _, rfl⟩ := List.mem_map.mp among
      cases marked
    · have here : call = run.calls := by simpa [mark] using new
      subst here
      by_cases stops : old.stop.2 = true
      · refine absurd (.inl (.inr ?_)) unstopped
        refine List.mem_filterMap.mpr ⟨.stopping name .onStop (.stopAll run.calls true), ?_, rfl⟩
        refine List.mem_map.mpr ⟨(name, old), ?_, rfl⟩
        simp [Map.mem_entries_iff, there, stops]
      · exact BaseWorker.atRest_of_stop (eq_false_of_ne_true stops)

/-- The timer of a settled worker stops nothing. -/
theorem rests_timerFires (rests : Rests run) (name : String)
    : Rests (run.next (.timerFires name)) := by
  simp only [next, timerFires]
  split
  · split
    · exact rests
    · next worker found =>
        refine rests.modify name (fun worker => worker.stop.1) rfl ?_ rfl ?_
        · by_cases stops : worker.stop.2 = true <;> simp [marks, mark, stops]
        · intro other rest
          rw [BaseWorker.stop_of_atRest rest]
          exact rest
  · exact rests

theorem rests_superviseTick (rests : Rests run) : Rests (run.next .superviseTick) := by
  simp only [next]
  split
  · refine rests.of_settled ?_ fun _ settled => settled
    simp only [WorkerFleet.supervise]
    split <;> rfl
  · exact rests

theorem rests_process (rests : Rests run) (name : String)
    : Rests (run.next (.process name)) :=
  rests.modify name .processed rfl rfl rfl fun _ => BaseWorker.processed_atRest

theorem rests_jobSucceeds (rests : Rests run) (name : String)
    : Rests (run.next (.jobSucceeds name)) :=
  rests.modify name (·.jobEnds .jobSucceeded) rfl rfl rfl
    fun _ => BaseWorker.jobEnds_jobSucceeded_atRest

/-- A job that fails leaves the settled workers at rest exactly when it disturbs none. -/
theorem rests_jobFails_iff (rests : Rests run) (name : String)
    : Rests (run.next (.jobFails name)) ↔ Undisturbed run (.jobFails name) := by
  have changed : Rests (run.next (.jobFails name)) ↔ _ :=
    rests.modify_iff name (·.jobEnds .jobFailed) rfl rfl rfl
  rw [changed]
  constructor
  · intro stays other worker found same settled
    subst same
    have rest : worker.AtRest := rests other worker found settled
    exact (BaseWorker.jobEnds_jobFailed_atRest_iff rest).mp (stays worker found settled)
  · intro undisturbed worker found settled
    have rest : worker.AtRest := rests name worker found settled
    exact (BaseWorker.jobEnds_jobFailed_atRest_iff rest).mpr
      (undisturbed name worker found rfl settled)

-----------------------------------------------------------------------------------------
-- Tasks that go on
-----------------------------------------------------------------------------------------

variable {index : Nat} {name : String}

theorem rests_drainStep (rests : Rests run) {point : WorkerStopPoint} {caller : StopCaller}
    (found : run.tasks[index]? = some (.stopping name point caller))
    : Rests (run.drainStep index name caller) := by
  unfold drainStep
  split
  · exact rests
  · refine rests.modify name (fun worker => worker.drain.1) rfl (marks_set found ?_) rfl ?_
    · cases caller <;> rfl
    · intro worker rest
      exact BaseWorker.drain_atRest rest

/-- The end of a stop leaves the worker at rest, settled or not. -/
theorem rests_finishStop (rests : Rests run) {point : WorkerStopPoint} {caller : StopCaller}
    (found : run.tasks[index]? = some (.stopping name point caller))
    : Rests (run.finishStop index name caller) := by
  cases caller with
  | restart =>
      refine rests.modify name .stopped rfl (marks_set found rfl) rfl ?_
      intro worker _
      exact BaseWorker.stopped_atRest
  | stopAll call final =>
      intro other worker there settled
      simp only [finishStop, WorkerFleet.modify, Map.get_modify] at there
      obtain ⟨old, held, rfl⟩ := Option.map_eq_some_iff.mp there
      by_cases same : other = name
      · rw [if_pos same]
        exact BaseWorker.stopped_atRest
      · rw [if_neg same]
        refine rests other old held ?_
        rcases settled with returned | ⟨call', holds, unstopped⟩
        · exact .inl returned
        · have others (mark' : StopMark) (different : mark' ≠ .stops name call)
              : mark' ∈ marks (run.tasks.eraseIdx index) ↔ mark' ∈ marks run.tasks :=
            mem_marks_eraseIdx found rfl different
          refine .inr ⟨call', (others _ (by simp)).mp holds, ?_⟩
          rw [← others _ (by simp [same])]
          exact unstopped

/-- A stop of the fleet that returns has settled every worker before. -/
theorem rests_stoppingAll (rests : Rests run) {call : Nat} {final : Bool}
    (found : run.tasks[index]? = some (.stoppingAll call final))
    (done : ¬ run.tasks.any (FleetTask.stopsFor call) = true)
    : Rests { run with
        tasks := run.tasks.eraseIdx index
        returned := run.returned || final } := by
  refine rests.of_settled rfl ?_
  intro name settled
  -- every worker is settled while the stop itself still waits
  have released (other : String) : StopMark.stops other call ∉ marks run.tasks := by
    intro member
    obtain ⟨task, among, marked⟩ := List.mem_filterMap.mp member
    refine done (List.any_eq_true.mpr ⟨task, among, ?_⟩)
    cases task with
    | stopping other' point caller =>
        cases caller with
        | restart => cases marked
        | stopAll call' final' =>
            cases marked
            simp [FleetTask.stopsFor]
    | stoppingAll call' final' => cases final' <;> cases marked
    | _ => cases marked
  cases final with
  | false =>
      have same : marks (run.tasks.eraseIdx index) = marks run.tasks := marks_eraseIdx found rfl
      simpa [Settled, same] using settled
  | true =>
      refine .inr ⟨call, ?_, released name⟩
      exact List.mem_filterMap.mpr ⟨_, List.mem_of_getElem? found, rfl⟩

/-- A task that starts no worker disturbs none. -/
theorem undisturbed_of_idle (idle : run.tasks[index]?.bind starts = none) (threw : Bool)
    : Undisturbed run (.proceed index threw) := by
  intro other worker _ _
  simp [idle]

/-- A task that starts its worker keeps the settled ones at rest exactly when that one is not
settled.
-/
theorem Rests.start_iff (rests : Rests run) {task : FleetTask}
    (found : run.tasks[index]? = some task) (starting : starts task = some name) (threw : Bool)
    (change : BaseWorker → BaseWorker)
    (restless : ∀ worker : BaseWorker, worker.AtRest → ¬ (change worker).AtRest)
    (workers : after.fleet.workers = run.fleet.workers.modify name change)
    (sameMarks : marks after.tasks = marks run.tasks)
    (sameReturned : after.returned = run.returned)
    : Rests after ↔ Undisturbed run (.proceed index threw) := by
  have starter : run.tasks[index]?.bind starts = some name := by simp [found, starting]
  rw [rests.modify_iff name change workers sameMarks sameReturned]
  constructor
  · intro stays other worker there settled same
    obtain rfl : name = other := Option.some_inj.mp (starter.symm.trans same)
    exact restless worker (rests name worker there settled) (stays worker there settled)
  · intro undisturbed worker there settled
    exact absurd starter (undisturbed name worker there settled)

/-- A task that goes on leaves the settled workers at rest exactly when it disturbs none. -/
theorem rests_proceed_iff (rests : Rests run) (index : Nat) (threw : Bool)
    : Rests (run.next (.proceed index threw)) ↔ Undisturbed run (.proceed index threw) := by
  simp only [next]
  cases found : run.tasks[index]? with
  | none => exact iff_of_true rests (undisturbed_of_idle (by simp [found]) threw)
  | some task =>
      cases task with
      | starting name caller =>
          exact rests.start_iff found rfl threw (·.started threw)
            (fun _ _ => BaseWorker.started_restless threw) rfl (marks_eraseIdx found rfl) rfl
      | stopping name point caller =>
          refine iff_of_true ?_ (undisturbed_of_idle (by simp [found, starts]) threw)
          cases point with
          | onStop =>
              simp only [proceed]
              split
              · exact rests_finishStop rests found
              · exact rests_drainStep rests found
          | draining => exact rests_drainStep rests found
          | drained => exact rests_finishStop rests found
      | restarting name =>
          have restless (worker : BaseWorker) (rest : worker.AtRest)
              : ¬ worker.markRestarted.start.1.AtRest :=
            BaseWorker.start_of_atRest rest
          simp only [proceed]
          split
          · next absent =>
              refine iff_of_true rests ?_
              intro other worker there _ same
              rw [found] at same
              cases same
              cases absent.symm.trans there
          · split
            · exact rests.start_iff found rfl threw (fun worker => worker.markRestarted.start.1)
                restless rfl (marks_set found rfl) rfl
            · exact rests.start_iff found rfl threw (fun worker => worker.markRestarted.start.1)
                restless rfl (marks_eraseIdx found rfl) rfl
      | startingAll call =>
          refine iff_of_true ?_ (undisturbed_of_idle (by simp [found, starts]) threw)
          simp only [proceed]
          split
          · exact rests
          · refine rests.of_settled ?_ ?_
            · simp only [WorkerFleet.startSupervision]
              split <;> rfl
            · intro name settled
              have same : marks (run.tasks.eraseIdx index) = marks run.tasks :=
                marks_eraseIdx found rfl
              simpa [Settled, same] using settled
      | stoppingAll call final =>
          refine iff_of_true ?_ (undisturbed_of_idle (by simp [found, starts]) threw)
          simp only [proceed]
          split
          · exact rests
          · next done => exact rests_stoppingAll rests found done

-----------------------------------------------------------------------------------------
-- A stop of the fleet is final
-----------------------------------------------------------------------------------------

/-- Every event keeps the settled workers at rest exactly when it does not disturb them. -/
theorem Rests.next_iff (rests : Rests run) (event : FleetEvent)
    : Rests (run.next event) ↔ Undisturbed run event := by
  cases event with
  | register config => exact iff_of_true (rests_register rests config) trivial
  | startAll => exact iff_of_true rests_startAll trivial
  | stopAll => exact iff_of_true (rests_stopAll rests) trivial
  | superviseTick => exact iff_of_true (rests_superviseTick rests) trivial
  | timerFires name => exact iff_of_true (rests_timerFires rests name) trivial
  | proceed index threw => exact rests_proceed_iff rests index threw
  | process name => exact iff_of_true (rests_process rests name) trivial
  | jobSucceeds name => exact iff_of_true (rests_jobSucceeds rests name) trivial
  | jobFails name => exact rests_jobFails_iff rests name

theorem rests_initial : Rests {} := by
  intro name worker found
  cases found

/-- The workers that final stops are done with stay at rest exactly when nothing goes on with
them.
-/
theorem always_rests_iff (events : List FleetEvent)
    : Always next (fun run event => Rests (run.next event)) {} events
      ↔ Always next Undisturbed {} events :=
  always_invariant_iff (fun _ event rests => rests.next_iff event) events rests_initial

/-- In a run in which nothing goes on with workers that a final stop is done with, every worker
stays stopped once a stop of the fleet has returned.
-/
theorem stopAll_final (events : List FleetEvent) (lawful : Always next Undisturbed {} events)
    : Always next (fun run event => StaysStopped (run.next event)) {} events :=
  ((always_rests_iff events).mpr lawful).mono fun _ _ rests => rests.staysStopped

/-- A worker that runs until the fleet is stopped, and is asked for a job after it. -/
theorem stopAll_final_started
    : Always next (fun run event => StaysStopped (run.next event)) {}
        [.register { name := "scout" }, .startAll, .proceed 0 false, .proceed 0 false, .stopAll,
          .proceed 0 false, .proceed 0 false, .proceed 0 false, .process "scout"] :=
  stopAll_final _ (by decide +kernel)

/-- A restart whose stop was under way when the fleet was stopped starts its worker after that
stop has returned.
-/
theorem restart_outlives_stop
    : ¬ Always next (fun run event => StaysStopped (run.next event)) {}
        [.register { name := "scout", concurrency := 2, maxConsecutiveErrors := 1 }, .startAll,
          .proceed 0 false, .proceed 0 false, .process "scout", .process "scout",
          .jobFails "scout", .superviseTick, .timerFires "scout", .proceed 0 false, .stopAll,
          .proceed 1 false, .jobSucceeds "scout", .proceed 1 false, .proceed 1 false,
          .proceed 1 false, .proceed 0 false, .proceed 0 false, .proceed 0 false,
          .proceed 0 false] := by
  decide +kernel

end FleetRun

end CrashWave.Workers
