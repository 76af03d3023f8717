import CrashWave.Runs.Basic
import CrashWave.Workers.WorkerFleet
import Mathlib.Algebra.Order.Ring.Nat
import Mathlib.Data.List.Perm.Basic

/-! The items of one worker: which of them are queued, at work and settled. The places are
those of the worker primitive; here they are filled with items, first come first served.
-/

namespace CrashWave.Workers

open JavaScript Runs

/-- Where a `start` or a `stop` of a worker waits. -/
inductive LifecyclePoint where
  | starting
  | stopping (point : WorkerStopPoint)
  deriving DecidableEq

/-- A worker with its items, which are numbered as they are accepted: the queued ones and those
at work, all that were accepted and started so far, and those whose promise is settled.
-/
structure WorkQueue where
  worker : BaseWorker
  point : Option LifecyclePoint := none
  pending : List Nat := []
  active : List Nat := []
  accepted : List Nat := []
  started : List Nat := []
  settled : List Nat := []
  deriving DecidableEq

/-- What happens to a worker. A `start` or a `stop` goes on at any later time. -/
inductive QueueEvent where
  | process
  | succeeds (item : Nat)
  | fails (item : Nat)
  | start
  | started (threw : Bool)
  | stop
  | proceed (threw : Bool)
  deriving DecidableEq

namespace WorkQueue

/-- A new worker. -/
def create (config : WorkerConfig) : WorkQueue where
  worker := .create config

/-- `pump` shifts items off the queue until the places that the worker fills are taken. -/
def fill (queue : WorkQueue) (worker : BaseWorker) : WorkQueue :=
  let moved := worker.active - queue.active.length
  { queue with
    worker
    pending := queue.pending.drop moved
    active := queue.active ++ queue.pending.take moved
    started := queue.started ++ queue.pending.take moved }

/-- `process`, which throws where the worker does not accept work. -/
def process (queue : WorkQueue) : WorkQueue :=
  match queue.worker.process with
  | .error _ => queue
  | .ok worker =>
      let item := queue.accepted.length
      fill
        { queue with
          pending := queue.pending ++ [item]
          accepted := queue.accepted ++ [item] }
        worker

/-- The end of `run` for an item at work. -/
def jobEnds (queue : WorkQueue) (item : Nat) (change : BaseWorker → BaseWorker) : WorkQueue :=
  if item ∈ queue.active then
    fill
      { queue with
        active := queue.active.erase item
        settled := queue.settled ++ [item] }
      (change queue.worker)
  else queue

/-- One look of `drain` at the queue; the items that the worker rejects are settled. -/
def drain (queue : WorkQueue) : WorkQueue :=
  let (worker, done) := queue.worker.drain
  { queue with
    worker
    pending := queue.pending.take worker.pending
    settled := queue.settled ++ queue.pending.drop worker.pending
    point := some (.stopping (if done then .drained else .draining)) }

/-- A `stop` goes on from where it waits. -/
def proceed (queue : WorkQueue) (threw : Bool) : WorkQueue :=
  match queue.point with
  | some (.stopping .onStop) =>
      if threw then { queue with worker := queue.worker.stopped, point := none }
      else { queue with point := some (.stopping .draining) }
  | some (.stopping .draining) => queue.drain
  | some (.stopping .drained) => { queue with worker := queue.worker.stopped, point := none }
  | some .starting | none => queue

/-- One event. Calls of `start` and `stop` do not overlap. -/
def step (queue : WorkQueue) : QueueEvent → WorkQueue
  | .process => queue.process
  | .succeeds item => queue.jobEnds item .jobSucceeded
  | .fails item => queue.jobEnds item .jobFailed
  | .start =>
      if queue.point = none then
        let (worker, goesOn) := queue.worker.start
        { queue with worker, point := if goesOn then some .starting else none }
      else queue
  | .started threw =>
      if queue.point = some .starting then
        { queue with worker := queue.worker.started threw, point := none }
      else queue
  | .stop =>
      if queue.point = none then
        let (worker, goesOn) := queue.worker.stop
        { queue with worker, point := if goesOn then some (.stopping .onStop) else none }
      else queue
  | .proceed threw => queue.proceed threw

/-- No item is at work or queued. -/
def Quiet (queue : WorkQueue) : Prop := queue.active = [] ∧ queue.pending = []

/-- A call of `stop` returns in this event. -/
def Returns (queue : WorkQueue) (event : QueueEvent) : Prop :=
  (event = .stop ∧ queue.point = none ∧ queue.worker.stop.2 = false)
  ∨ ((∃ threw, event = .proceed threw) ∧ queue.point = some (.stopping .drained))

/-- If `onStop` throws, it does so while no item is at work or queued. -/
def ThrowsQuietly (queue : WorkQueue) (event : QueueEvent) : Prop :=
  event = .proceed true → queue.point = some (.stopping .onStop) → queue.Quiet

instance (queue : WorkQueue) : Decidable queue.Quiet := inferInstanceAs (Decidable (_ ∧ _))

instance (queue : WorkQueue) (event : QueueEvent) : Decidable (queue.ThrowsQuietly event) :=
  inferInstanceAs (Decidable (_ → _ → _))

/-- The bound is a whole number or infinite. -/
def WholeBound : Number → Prop
  | .finite value => ∃ n : Nat, value = n
  | .infinity negative => negative = false
  | .nan => False

/-- Every accepted item is settled exactly once. -/
def AllSettled (queue : WorkQueue) : Prop := ∀ item ∈ queue.accepted, queue.settled.count item = 1

/-- The items are bounded by the concurrency, started in the order in which they were accepted
and settled at most once, and all of them are settled once no item is at work.
-/
structure Orderly (queue : WorkQueue) : Prop where
  bounded : .finite queue.active.length ≤ queue.worker.config.concurrency
  ordered : queue.started <+: queue.accepted
  once : queue.settled.Nodup
  accepted : queue.settled ⊆ queue.accepted
  finished : queue.active = [] → queue.AllSettled

-----------------------------------------------------------------------------------------
-- The places that the worker fills
-----------------------------------------------------------------------------------------

/-- Below a whole bound there is room for one more. -/
theorem WholeBound.succ_le {bound : Number} (whole : WholeBound bound) {n : Nat}
    (below : .finite n < bound) : .finite (n + 1 : Nat) ≤ bound := by
  cases bound with
  | finite value =>
      obtain ⟨m, rfl⟩ := whole
      have less : n < m := Nat.cast_lt.mp (of_decide_eq_true below)
      exact decide_eq_true (Nat.cast_le.mpr less)
  | infinity negative =>
      obtain rfl : negative = false := whole
      rfl
  | nan => exact whole.elim

/-- A whole bound from one on is not reached by nothing. -/
theorem WholeBound.pos {bound : Number} (whole : WholeBound bound) (positive : 1 ≤ bound)
    {n : Nat} (reached : ¬ .finite n < bound) : 0 < n := by
  apply Nat.pos_of_ne_zero
  rintro rfl
  apply reached
  cases bound with
  | finite value =>
      have one : ((1 : Nat) : ℚ) ≤ value := of_decide_eq_true positive
      exact decide_eq_true ((Nat.cast_lt.mpr Nat.zero_lt_one).trans_le one)
  | infinity negative =>
      obtain rfl : negative = false := whole
      rfl
  | nan => exact whole.elim

/-- The bound of a new worker is one at least. -/
theorem one_le_max {bound : Number} (whole : WholeBound (Number.max 1 bound))
    : 1 ≤ Number.max 1 bound := by
  cases bound with
  | nan => exact whole.elim
  | finite value =>
      simp only [Number.max]
      split
      · assumption
      · exact decide_eq_true (le_refl ((1 : Nat) : ℚ))
  | infinity negative =>
      cases negative with
      | false => rfl
      | true => exact decide_eq_true (le_refl ((1 : Nat) : ℚ))

/-- What `pump` does with the places: none is given up, no job is lost, a job stays queued
only without a free place, and the last place taken was free.
-/
structure Pumped (config : WorkerConfig) (running : Bool)
    (active pending taken queued : Nat) : Prop where
  more : active ≤ taken
  same : taken + queued = active + pending
  full : running = true → 0 < queued → ¬ .finite taken < config.concurrency
  free : taken = active ∨ .finite (taken - 1 : Nat) < config.concurrency

/-- By recursion on the queue. -/
theorem pumpJobs_pumped (config : WorkerConfig) (running : Bool) (active pending : Nat)
    : Pumped config running active pending
        (BaseWorker.pumpJobs config running active pending).1
        (BaseWorker.pumpJobs config running active pending).2 := by
  induction pending generalizing active with
  | zero => exact ⟨le_rfl, rfl, fun _ none => absurd none (Nat.lt_irrefl 0), .inl rfl⟩
  | succ pending ih =>
      rw [BaseWorker.pumpJobs]
      split
      · next taken =>
          have rest := ih (active + 1)
          refine ⟨(Nat.le_succ _).trans rest.more, ?_, rest.full, .inr ?_⟩
          · rw [rest.same]
            omega
          · rcases rest.free with last | later
            · rw [last, Nat.add_sub_cancel]
              exact taken.1
            · exact later
      · next kept =>
          refine ⟨le_rfl, rfl, fun runs _ free => kept ⟨free, runs⟩, .inl rfl⟩

/-- The items take the places of the worker, and an accepted item is queued, or was started
and is at work or settled.
-/
structure Placed (queue : WorkQueue) : Prop where
  active : queue.worker.active = queue.active.length
  pending : queue.worker.pending = queue.pending.length
  order : queue.accepted = queue.started ++ queue.pending
  places : queue.started.Perm (queue.active ++ queue.settled)
  bounded : .finite queue.active.length ≤ queue.worker.config.concurrency

/-- A queued item waits for a place. -/
def Full (queue : WorkQueue) : Prop :=
  queue.pending ≠ [] → ¬ .finite queue.active.length < queue.worker.config.concurrency

variable {queue : WorkQueue}

/-- Filling places that `pump` has found leaves no free place to a queued item. -/
theorem Placed.fill (placed : queue.Placed) (running : queue.worker.running = true)
    (whole : WholeBound queue.worker.config.concurrency)
    : (queue.fill queue.worker.pump).Placed ∧ (queue.fill queue.worker.pump).Full := by
  have pumped : Pumped queue.worker.config queue.worker.running queue.worker.active
      queue.worker.pending queue.worker.pump.active queue.worker.pump.pending :=
    pumpJobs_pumped ..
  rw [placed.active, placed.pending] at pumped
  have same := pumped.same
  have more := pumped.more
  have moved : (queue.fill queue.worker.pump).active.length = queue.worker.pump.active := by
    simp only [WorkQueue.fill, List.length_append, List.length_take]
    omega
  have left : (queue.fill queue.worker.pump).pending.length = queue.worker.pump.pending := by
    simp only [WorkQueue.fill, List.length_drop]
    omega
  have rest := List.take_append_drop (queue.worker.pump.active - queue.active.length)
    queue.pending
  refine ⟨⟨moved.symm, left.symm, ?_, ?_, ?_⟩, ?_⟩
  · simp only [WorkQueue.fill, List.append_assoc, rest]
    exact placed.order
  · simp only [WorkQueue.fill, List.append_assoc]
    refine (placed.places.append_right _).trans ?_
    rw [List.append_assoc]
    exact List.perm_append_comm.append_left _
  · rw [moved]
    rcases pumped.free with same | free
    · rw [same]
      exact placed.bounded
    · rcases Nat.eq_zero_or_pos queue.worker.pump.active with none | some
      · have nothing : queue.active.length = queue.worker.pump.active := by omega
        rw [← nothing]
        exact placed.bounded
      · have last := whole.succ_le free
        rwa [Nat.sub_add_cancel some] at last
  · intro queued
    rw [moved]
    refine pumped.full running ?_
    rw [← left]
    exact List.length_pos_iff.mpr queued

-----------------------------------------------------------------------------------------
-- What holds between two events
-----------------------------------------------------------------------------------------

/-- A worker that does not run has no items. One that is being stopped accepts none, and has
none left once its queue is drained.
-/
structure Sound (queue : WorkQueue) : Prop extends Placed queue where
  whole : WholeBound queue.worker.config.concurrency
  positive : 1 ≤ queue.worker.config.concurrency
  full : queue.Full
  numbered : queue.accepted = List.range queue.accepted.length
  resting : queue.worker.running = false → queue.Quiet
  starting : queue.point = some .starting → queue.worker.running = false
  closing : ∀ point, queue.point = some (.stopping point) → queue.worker.accepting = false
  drained : queue.point = some (.stopping .drained) → queue.Quiet

theorem create_sound {config : WorkerConfig}
    (whole : WholeBound (Number.max 1 config.concurrency)) : (create config).Sound where
  active := rfl
  pending := rfl
  order := rfl
  places := .rfl
  bounded :=
    have below : ((0 : Nat) : ℚ) ≤ ((1 : Nat) : ℚ) := Nat.cast_le.mpr (Nat.zero_le 1)
    have none : Number.finite (0 : Nat) ≤ 1 := decide_eq_true below
    Number.le_trans none (one_le_max whole)
  whole := whole
  positive := one_le_max whole
  full := fun queued => absurd rfl queued
  numbered := rfl
  resting _ := ⟨rfl, rfl⟩
  starting := nofun
  closing := nofun
  drained := nofun

/-- A worker that takes an item runs and accepts. -/
theorem of_process_ok {worker queued : BaseWorker} (taken : worker.process = .ok queued)
    : worker.running = true ∧ worker.accepting = true
      ∧ queued = { worker with pending := worker.pending + 1 }.pump := by
  unfold BaseWorker.process at taken
  split at taken
  · cases taken
  · next takes =>
      simp only [Bool.or_eq_true, Bool.not_eq_true', decide_eq_true_eq, not_or,
        Bool.not_eq_false] at takes
      exact ⟨takes.1.1, takes.1.2, (Except.ok.inj taken).symm⟩

theorem Sound.process (sound : queue.Sound) : queue.process.Sound := by
  unfold WorkQueue.process
  cases taken : queue.worker.process with
  | error text => exact sound
  | ok worker =>
      obtain ⟨running, accepting, rfl⟩ := of_process_ok taken
      let asked : WorkQueue :=
        { queue with
          worker := { queue.worker with pending := queue.worker.pending + 1 }
          pending := queue.pending ++ [queue.accepted.length]
          accepted := queue.accepted ++ [queue.accepted.length] }
      have placed : asked.Placed :=
        { active := sound.active
          pending := by simp [asked, sound.pending]
          order := by
            change queue.accepted ++ _ = queue.started ++ (queue.pending ++ _)
            rw [← List.append_assoc, ← sound.order]
          places := sound.places
          bounded := sound.bounded }
      obtain ⟨placed, full⟩ := placed.fill running sound.whole
      refine
        { toPlaced := placed
          whole := sound.whole
          positive := sound.positive
          full
          numbered := ?_
          resting := fun stopped => absurd running (Bool.eq_false_iff.mp stopped)
          starting := fun point => absurd running (Bool.eq_false_iff.mp (sound.starting point))
          closing := sound.closing
          drained := fun point =>
            absurd accepting (Bool.eq_false_iff.mp (sound.closing _ point)) }
      change queue.accepted ++ [queue.accepted.length]
        = List.range (queue.accepted ++ [queue.accepted.length]).length
      rw [List.length_append, List.length_singleton, List.range_succ, ← sound.numbered]

/-- The end of a job gives up its place and pumps. -/
structure EndsJob (change : BaseWorker → BaseWorker) (worker freed : BaseWorker) : Prop where
  pumps : change worker = freed.pump
  active : freed.active = worker.active - 1
  pending : freed.pending = worker.pending
  running : freed.running = worker.running
  accepting : freed.accepting = worker.accepting
  config : freed.config = worker.config

theorem Sound.jobEnds (sound : queue.Sound) (item : Nat)
    {change : BaseWorker → BaseWorker} {freed : BaseWorker}
    (ends : EndsJob change queue.worker freed)
    : (queue.jobEnds item change).Sound := by
  unfold WorkQueue.jobEnds
  split
  · next working =>
      rw [ends.pumps]
      have busy : queue.active ≠ [] := List.ne_nil_of_mem working
      have running : queue.worker.running = true := by
        apply Bool.eq_true_of_not_eq_false
        exact fun stopped => busy (sound.resting stopped).1
      let left : WorkQueue :=
        { queue with
          worker := freed
          active := queue.active.erase item
          settled := queue.settled ++ [item] }
      have fewer : left.active.length ≤ queue.active.length := List.length_erase_le
      have placed : left.Placed :=
        { active := by rw [ends.active, sound.active, List.length_erase_of_mem working]
          pending := ends.pending.trans sound.pending
          order := sound.order
          places := by
            have settles : (queue.active ++ queue.settled).Perm
                (queue.active.erase item ++ (queue.settled ++ [item])) := by
              have first := (List.perm_cons_erase working).append_right queue.settled
              refine first.trans ?_
              rw [← List.append_assoc]
              exact (List.perm_append_singleton _ _).symm
            exact sound.places.trans settles
          bounded := by
            rw [ends.config]
            exact Number.le_trans (decide_eq_true (Nat.cast_le.mpr fewer)) sound.bounded }
      have whole : WholeBound left.worker.config.concurrency := ends.config ▸ sound.whole
      obtain ⟨placed, full⟩ := placed.fill (ends.running.trans running) whole
      exact
        { toPlaced := placed
          whole
          positive := ends.config ▸ sound.positive
          full
          numbered := sound.numbered
          resting := fun stopped =>
            absurd running (Bool.eq_false_iff.mp (ends.running.symm.trans stopped))
          starting := fun point => absurd running (Bool.eq_false_iff.mp (sound.starting point))
          closing := fun point at_ => ends.accepting.trans (sound.closing point at_)
          drained := fun point => absurd (sound.drained point).1 busy }
  · exact sound

/-- A step of `start` or `stop` leaves the items and their places alone. -/
theorem Sound.lifecycle (sound : queue.Sound) {worker : BaseWorker}
    {point : Option LifecyclePoint}
    (same
      : worker.active = queue.worker.active ∧ worker.pending = queue.worker.pending
        ∧ worker.config = queue.worker.config)
    (resting : worker.running = false → queue.Quiet)
    (starting : point = some .starting → worker.running = false)
    (closing : ∀ stage, point = some (.stopping stage) → worker.accepting = false)
    (drained : point = some (.stopping .drained) → queue.Quiet)
    : Sound { queue with worker, point } := by
  obtain ⟨active, pending, config⟩ := same
  exact
    { active := active.trans sound.active
      pending := pending.trans sound.pending
      order := sound.order
      places := sound.places
      bounded := config ▸ sound.bounded
      whole := config ▸ sound.whole
      positive := config ▸ sound.positive
      full := fun queued => config ▸ sound.full queued
      numbered := sound.numbered
      resting
      starting
      closing
      drained }

/-- A step that leaves no point to go on from. -/
theorem Sound.leaves (sound : queue.Sound) {worker : BaseWorker}
    (same
      : worker.active = queue.worker.active ∧ worker.pending = queue.worker.pending
        ∧ worker.config = queue.worker.config)
    (resting : worker.running = false → queue.Quiet)
    : Sound { queue with worker, point := none } := by
  apply sound.lifecycle same resting
  · intro starting
    cases starting
  · intro stage stopping
    cases stopping
  · intro drained
    cases drained

theorem Sound.start (sound : queue.Sound) : (queue.step .start).Sound := by
  simp only [step, BaseWorker.start]
  split
  · rcases Bool.eq_false_or_eq_true queue.worker.running with runs | rests
    · simp only [runs, if_true]
      exact sound.leaves ⟨rfl, rfl, rfl⟩ sound.resting
    · simp only [rests, Bool.false_eq_true, if_false]
      refine sound.lifecycle ⟨rfl, rfl, rfl⟩ (fun _ => sound.resting rests) (fun _ => rfl) ?_ ?_
      · intro stage stopping
        cases stopping
      · intro drained
        cases drained
  · exact sound

theorem Sound.started (sound : queue.Sound) (threw : Bool)
    : (queue.step (.started threw)).Sound := by
  simp only [step]
  split
  · next waits =>
      have quiet := sound.resting (sound.starting waits)
      cases threw with
      | true => exact sound.leaves ⟨rfl, rfl, rfl⟩ (fun _ => quiet)
      | false => exact sound.leaves ⟨rfl, rfl, rfl⟩ nofun
  · exact sound

theorem Sound.stop (sound : queue.Sound) : (queue.step .stop).Sound := by
  simp only [step, BaseWorker.stop]
  split
  · split
    · exact sound.leaves ⟨rfl, rfl, rfl⟩ sound.resting
    · refine sound.lifecycle ⟨rfl, rfl, rfl⟩ sound.resting ?_ (fun _ _ => rfl) ?_
      · intro starting
        cases starting
      · intro drained
        cases drained
  · exact sound

/-- The end of a stop of a quiet worker. -/
theorem Sound.stopped (sound : queue.Sound) (quiet : queue.Quiet)
    : Sound { queue with worker := queue.worker.stopped, point := none } :=
  sound.leaves ⟨rfl, rfl, rfl⟩ fun _ => quiet

/-- A look of `drain` rejects nothing, since a worker that does not run has nothing queued. -/
theorem Sound.drain (sound : queue.Sound) (accepting : queue.worker.accepting = false)
    : queue.drain.Sound := by
  have look : queue.worker.drain.1 = queue.worker
      ∧ (queue.worker.drain.2 = true → queue.Quiet) := by
    unfold BaseWorker.drain
    split
    · split
      · next rejects =>
          simp only [Bool.and_eq_true, decide_eq_true_eq, Bool.not_eq_true'] at rejects
          have none := (sound.resting rejects.2).2
          rw [sound.pending, none] at rejects
          exact absurd rejects.1 (Nat.lt_irrefl 0)
      · exact ⟨rfl, nofun⟩
    · next empty =>
        simp only [Bool.or_eq_true, decide_eq_true_eq, not_or, not_lt, Nat.le_zero] at empty
        rw [sound.active, sound.pending] at empty
        exact ⟨rfl, fun _ =>
          ⟨List.eq_nil_of_length_eq_zero empty.1, List.eq_nil_of_length_eq_zero empty.2⟩⟩
  have same : queue.drain
      = { queue with
          point := some (.stopping (if queue.worker.drain.2 then .drained else .draining)) } := by
    simp only [WorkQueue.drain, look.1, sound.pending, List.take_length, List.drop_length,
      List.append_nil]
  rw [same]
  refine sound.lifecycle ⟨rfl, rfl, rfl⟩ sound.resting nofun (fun _ _ => accepting) ?_
  intro point
  apply look.2
  by_contra waits
  simp [Bool.eq_false_iff.mpr waits] at point

theorem Sound.proceed (sound : queue.Sound) {threw : Bool}
    (quietly : queue.ThrowsQuietly (.proceed threw)) : (queue.proceed threw).Sound := by
  unfold WorkQueue.proceed
  split
  · next waits =>
      cases threw with
      | true => exact sound.stopped (quietly rfl waits)
      | false =>
          have accepting := sound.closing _ waits
          exact sound.lifecycle ⟨rfl, rfl, rfl⟩ sound.resting nofun (fun _ _ => accepting) nofun
  · next waits => exact sound.drain (sound.closing _ waits)
  · next waits => exact sound.stopped (sound.drained waits)
  · exact sound
  · exact sound

theorem Sound.step (sound : queue.Sound) {event : QueueEvent}
    (quietly : queue.ThrowsQuietly event) : (queue.step event).Sound := by
  cases event with
  | process => exact sound.process
  | succeeds item => exact sound.jobEnds item ⟨rfl, rfl, rfl, rfl, rfl, rfl⟩
  | fails item => exact sound.jobEnds item ⟨rfl, rfl, rfl, rfl, rfl, rfl⟩
  | start => exact sound.start
  | started threw => exact sound.started threw
  | stop => exact sound.stop
  | proceed threw => exact sound.proceed quietly

-----------------------------------------------------------------------------------------
-- Bound, order and settlement
-----------------------------------------------------------------------------------------

theorem Sound.nodup (sound : queue.Sound) : (queue.active ++ queue.settled).Nodup := by
  have all : (queue.started ++ queue.pending).Nodup := by
    rw [← sound.order, sound.numbered]
    exact List.nodup_range
  exact sound.places.nodup_iff.mp (List.nodup_append.mp all).1

/-- Without items at work and in the queue, all that were accepted are settled. -/
theorem Sound.allSettled (sound : queue.Sound) (quiet : queue.Quiet) : queue.AllSettled := by
  intro item accepted
  rw [sound.order, quiet.2, List.append_nil, sound.places.mem_iff, quiet.1,
    List.nil_append] at accepted
  exact List.count_eq_one_of_mem (List.nodup_append.mp sound.nodup).2.1 accepted

/-- Where no item is at work, none is queued. -/
theorem Sound.quiet (sound : queue.Sound) (idle : queue.active = []) : queue.Quiet := by
  refine ⟨idle, ?_⟩
  by_contra queued
  have some := sound.whole.pos sound.positive (sound.full queued)
  rw [idle] at some
  exact Nat.lt_irrefl 0 some

theorem Sound.orderly (sound : queue.Sound) : queue.Orderly where
  bounded := sound.bounded
  ordered := sound.order ▸ List.prefix_append _ _
  once := (List.nodup_append.mp sound.nodup).2.1
  accepted := by
    intro item settled
    rw [sound.order]
    apply List.mem_append_left
    exact sound.places.mem_iff.mpr (List.mem_append_right _ settled)
  finished idle := sound.allSettled (sound.quiet idle)

/-- A `stop` returns in a quiet state and leaves the items alone. -/
theorem Sound.quiet_of_returns (sound : queue.Sound) {event : QueueEvent}
    (returns : queue.Returns event)
    : queue.Quiet ∧ (queue.step event).Quiet := by
  rcases returns with ⟨rfl, idle, atOnce⟩ | ⟨⟨threw, rfl⟩, waits⟩
  · have rests : queue.worker.running = false := by
      unfold BaseWorker.stop at atOnce
      split at atOnce
      · next early =>
          simp only [Bool.and_eq_true, Bool.not_eq_true'] at early
          exact early.1
      · cases atOnce
    have quiet := sound.resting rests
    refine ⟨quiet, ?_⟩
    simp only [WorkQueue.step, idle, if_true]
    exact quiet
  · have quiet := sound.drained waits
    refine ⟨quiet, ?_⟩
    simp only [WorkQueue.step, WorkQueue.proceed, waits]
    exact quiet

/-- In every run in which `onStop` throws quietly if at all, under a concurrency that is a whole
number or infinite, the items are bounded, ordered and settled as they should be, and when a
`stop` returns none is at work or queued and all that were accepted are settled once.
-/
theorem orderly_of_run (config : WorkerConfig)
    (whole : WholeBound (Number.max 1 config.concurrency)) (events : List QueueEvent)
    (lawful : Always step ThrowsQuietly (create config) events)
    : (run step (create config) events).Orderly
      ∧ Always step
          (fun queue event => queue.Returns event →
            (queue.step event).Quiet ∧ (queue.step event).AllSettled)
          (create config) events := by
  have kept : ∀ (queue : WorkQueue) (event : QueueEvent), queue.Sound →
      queue.ThrowsQuietly event →
      (queue.Returns event → (queue.step event).Quiet ∧ (queue.step event).AllSettled)
      ∧ (queue.step event).Sound := by
    intro queue event sound quietly
    have next := sound.step quietly
    refine ⟨fun returns => ?_, next⟩
    have quiet := (sound.quiet_of_returns returns).2
    exact ⟨quiet, next.allSettled quiet⟩
  obtain ⟨returned, reached⟩ := lawful.of_invariant_run kept (create_sound whole)
  exact ⟨reached.orderly, returned⟩

/-- Three items for two places, one of which fails while the worker stops. -/
def failureWhileStopping : List QueueEvent :=
  [.start, .started false, .process, .process, .process, .stop, .fails 1, .proceed false,
    .proceed false, .succeeds 2, .succeeds 0, .proceed false, .proceed false]

/-- Two places. -/
def twoPlaces : WorkerConfig := { name := "w", concurrency := 2 }

theorem failureWhileStopping_orderly
    : (run step (create twoPlaces) failureWhileStopping).Orderly
      ∧ Always step
          (fun queue event => queue.Returns event →
            (queue.step event).Quiet ∧ (queue.step event).AllSettled)
          (create twoPlaces) failureWhileStopping :=
  orderly_of_run twoPlaces ⟨2, by decide +kernel⟩ failureWhileStopping (by decide +kernel)

/-- Where `onStop` throws, the next `stop` returns at once with one item at work and one queued,
neither settled; and a concurrency of one and a half lets two items be at work.
-/
theorem throwing_stop_leaves_items
    : (let events : List QueueEvent :=
        [.start, .started false, .process, .process, .stop, .proceed true]
      let queue := run step (create { name := "w" }) events
      queue.Returns .stop
      ∧ (queue.step .stop).active = [0] ∧ (queue.step .stop).pending = [1]
      ∧ (queue.step .stop).accepted = [0, 1] ∧ (queue.step .stop).settled = [])
      ∧ (let config : WorkerConfig := { name := "w", concurrency := .finite (3 / 2) }
        let queue := run step (create config) [.start, .started false, .process, .process]
        queue.worker.config.concurrency < .finite queue.active.length) := by
  refine ⟨⟨.inl ⟨rfl, ?_, ?_⟩, ?_, ?_, ?_, ?_⟩, ?_⟩ <;> decide +kernel

end WorkQueue

end CrashWave.Workers
