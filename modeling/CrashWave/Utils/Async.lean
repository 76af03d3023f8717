import Mathlib.Data.List.Nodup
import CrashWave.Turnstiles.Basic

/-! The mutex, the semaphore and the pool of promises. Who calls `acquire` is let in when its
promise is resolved; a call of `release` says who makes it, which the code does not ask.
-/

namespace CrashWave.Async

open Runs Turnstiles

/-- The counter of a mutex: `locked`. -/
def Mutex.rule : Counter Bool where
  isFree locked := !locked
  take _ := true
  give _ := false

abbrev Mutex (ι : Type) := Turnstile Bool ι

/-- The counter of a semaphore: `permits`. -/
def Semaphore.rule : Counter ℚ where
  isFree permits := decide (0 < permits)
  take permits := permits - 1
  give permits := permits + 1

abbrev Semaphore (ι : Type) := Turnstile ℚ ι

namespace Mutex

variable {ι : Type}

def new : Mutex ι := { counter := false }

def acquire (mutex : Mutex ι) (who : ι) : Mutex ι × Option ι := Turnstile.acquire rule mutex who

def release (mutex : Mutex ι) : Mutex ι × Option ι := Turnstile.release rule mutex

def isLocked (mutex : Mutex ι) : Bool := mutex.counter

end Mutex

namespace Semaphore

variable {ι : Type}

def new (permits : ℚ) : Semaphore ι := { counter := permits }

def acquire (semaphore : Semaphore ι) (who : ι) : Semaphore ι × Option ι :=
  Turnstile.acquire rule semaphore who

def release (semaphore : Semaphore ι) : Semaphore ι × Option ι :=
  Turnstile.release rule semaphore

end Semaphore

/-- A pool: the tasks that were let in and call `fn` next, those that wait for its answer, the calls
of `fn`, its answers, and the results so far.
-/
structure Pool (α ρ ε : Type) where
  items : List α
  semaphore : Semaphore Nat
  results : List (Option ρ)
  ready : List Nat := []
  inFlight : List Nat := []
  calls : List (α × Nat) := []
  answers : List (Nat × ρ) := []
  rejections : List (Nat × ε) := []

/-- What happens at a pool: a task goes on after `acquire`, or `fn` answers. -/
inductive PoolInput (ρ ε : Type) where
  | entered (index : Nat)
  | fulfilled (index : Nat) (value : ρ)
  | rejected (index : Nat) (reason : ε)

namespace Pool

variable {α ρ ε : Type}

/-- A task up to its `acquire`. -/
def ask (pool : Pool α ρ ε) (index : Nat) : Pool α ρ ε :=
  let (semaphore, entered) := pool.semaphore.acquire index
  { pool with semaphore, ready := pool.ready ++ entered.toList }

/-- `promisePool`, which starts every task. -/
def promisePool (items : List α) (concurrency : ℚ) : Pool α ρ ε :=
  (List.range items.length).foldl ask
    {
      items
      semaphore := .new concurrency
      results := List.replicate items.length none
    }

/-- A task after `acquire`, up to the answer of `fn`. -/
def enter (pool : Pool α ρ ε) (index : Nat) : Pool α ρ ε :=
  match pool.items[index]? with
  | some item =>
      { pool with
        ready := pool.ready.erase index
        inFlight := pool.inFlight ++ [index]
        calls := pool.calls ++ [(item, index)] }
  | none => pool

/-- The `finally` of a task. -/
def leave (pool : Pool α ρ ε) (index : Nat) : Pool α ρ ε :=
  let (semaphore, entered) := pool.semaphore.release
  { pool with
    semaphore
    ready := pool.ready ++ entered.toList
    inFlight := pool.inFlight.erase index }

def next (pool : Pool α ρ ε) : PoolInput ρ ε → Pool α ρ ε
  | .entered index => if index ∈ pool.ready then pool.enter index else pool
  | .fulfilled index value =>
      if index ∈ pool.inFlight then
        { pool with
          results := pool.results.set index (some value)
          answers := pool.answers ++ [(index, value)] }.leave index
      else pool
  | .rejected index reason =>
      if index ∈ pool.inFlight then
        { pool with rejections := pool.rejections ++ [(index, reason)] }.leave index
      else pool

/-- What the call of `promisePool` is settled with, by `Promise.all`: the first rejection, or the
results once all tasks are fulfilled.
-/
def settled (pool : Pool α ρ ε) : Option (Except ε (List (Option ρ))) :=
  match pool.rejections with
  | (_, reason) :: _ => some (.error reason)
  | [] => if pool.answers.length = pool.items.length then some (.ok pool.results) else none

end Pool

-----------------------------------------------------------------------------------------
-- The locks
-----------------------------------------------------------------------------------------

theorem mutex_measures
    : Visits.Measures Mutex.rule (fun locked => if locked then 0 else 1) 1 where
  isFree locked := by cases locked <;> simp [Mutex.rule]
  take locked free := by
    cases locked with
    | false => simp [Mutex.rule]
    | true => cases free
  give locked taken := by
    cases locked with
    | false => simp at taken
    | true => simp [Mutex.rule]

theorem semaphore_measures (permits : ℚ) : Visits.Measures Semaphore.rule id permits where
  isFree _ := decide_eq_true_iff
  take _ _ := rfl
  give _ _ := rfl

/-- A lock in a run: it is fair, and where only holders release it, no more hold it than there are
places.
-/
structure LockLaw {σ ι : Type} [DecidableEq ι] (rule : Counter σ) (counter : σ) (places : ℚ)
    (calls : List (Call ι)) : Prop where
  fair : Visits.Fair rule (run (Visits.next rule) { turnstile := { counter } } calls)
  holders : Always (Visits.next rule) Visits.LeavesOwn { turnstile := { counter } } calls →
    (run (Visits.next rule) { turnstile := { counter } } calls).holders.length ≤ ⌈places⌉₊

theorem lockLaw_of_measures {σ ι : Type} [DecidableEq ι] {rule : Counter σ} {left : σ → ℚ}
    {places : ℚ} (measures : Visits.Measures rule left places) {counter : σ}
    (all : left counter = places) (calls : List (Call ι))
    : LockLaw rule counter places calls where
  fair := run_invariant (fun _ call => (·.next call)) calls (Visits.fair_initial rule counter)
  holders own := by
    have counted : Visits.Counted left places _ :=
      own.invariant (fun _ _ counted own => counted.next measures own)
        (Visits.counted_initial all)
    exact counted.holders_le

-----------------------------------------------------------------------------------------
-- The pool
-----------------------------------------------------------------------------------------

namespace Pool

variable {α ρ ε : Type} {pool : Pool α ρ ε} {visits : Visits ℚ Nat} {concurrency : ℚ} {index : Nat}

/-- The visits to the semaphore of a pool: those who are in are the tasks that call `fn` next, and
those that wait for its answer; those who were let in are the former, and those that have called.
-/
structure Tracked (concurrency : ℚ) (pool : Pool α ρ ε) (visits : Visits ℚ Nat) : Prop where
  semaphore : visits.turnstile = pool.semaphore
  fair : Visits.Fair Semaphore.rule visits
  counted : Visits.Counted id concurrency visits
  holders : visits.holders.Perm (pool.ready ++ pool.inFlight)
  granted : visits.granted.Perm (pool.ready ++ pool.calls.map (·.2))

/-- A new one goes in between. -/
theorem perm_insert {α : Type} {whole front back : List α} (same : whole.Perm (front ++ back))
    (added : List α)
    : (whole ++ added).Perm (front ++ added ++ back) := by
  refine (same.append_right added).trans ?_
  rw [List.append_assoc, List.append_assoc]
  exact List.perm_append_comm.append_left front

theorem Tracked.ask (tracked : Tracked concurrency pool visits) (index : Nat)
    : Tracked concurrency (pool.ask index) (visits.next Semaphore.rule (.acquire index)) where
  semaphore := congrArg (fun semaphore => (Semaphore.acquire semaphore index).1) tracked.semaphore
  fair := tracked.fair.next _
  counted := tracked.counted.next (semaphore_measures concurrency) trivial
  holders := by
    have inserted := perm_insert tracked.holders (pool.semaphore.acquire index).2.toList
    rw [← tracked.semaphore] at inserted
    simp only [Pool.ask, ← tracked.semaphore]
    exact inserted
  granted := by
    have inserted := perm_insert tracked.granted (pool.semaphore.acquire index).2.toList
    rw [← tracked.semaphore] at inserted
    simp only [Pool.ask, ← tracked.semaphore]
    exact inserted

theorem Tracked.leave (tracked : Tracked concurrency pool visits) (waits : index ∈ pool.inFlight)
    : Tracked concurrency (pool.leave index) (visits.next Semaphore.rule (.release index)) where
  semaphore := congrArg (fun semaphore => (Semaphore.release semaphore).1) tracked.semaphore
  fair := tracked.fair.next _
  counted := by
    have inside : index ∈ visits.holders :=
      tracked.holders.mem_iff.mpr (List.mem_append_right _ waits)
    exact tracked.counted.next (semaphore_measures concurrency) inside
  holders := by
    have fewer : (visits.holders.erase index).Perm (pool.ready ++ pool.inFlight.erase index) := by
      refine (List.Perm.cons_inv (a := index) ?_)
      have inside : index ∈ visits.holders :=
        tracked.holders.mem_iff.mpr (List.mem_append_right _ waits)
      refine (List.perm_cons_erase inside).symm.trans (tracked.holders.trans ?_)
      exact ((List.perm_cons_erase waits).append_left _).trans List.perm_middle
    have inserted := perm_insert fewer pool.semaphore.release.2.toList
    rw [← tracked.semaphore] at inserted
    simp only [Pool.leave, ← tracked.semaphore]
    exact inserted
  granted := by
    have inserted := perm_insert tracked.granted pool.semaphore.release.2.toList
    rw [← tracked.semaphore] at inserted
    simp only [Pool.leave, ← tracked.semaphore]
    exact inserted

theorem Tracked.enter (tracked : Tracked concurrency pool visits) (entered : index ∈ pool.ready)
    {item : α} (found : pool.items[index]? = some item)
    : Tracked concurrency (pool.enter index) visits where
  semaphore := by simpa only [Pool.enter, found] using tracked.semaphore
  fair := tracked.fair
  counted := tracked.counted
  holders := by
    simp only [Pool.enter, found]
    refine tracked.holders.trans (((List.perm_cons_erase entered).append_right _).trans ?_)
    exact List.perm_middle.symm.trans
      ((List.perm_append_singleton index pool.inFlight).symm.append_left _)
  granted := by
    simp only [Pool.enter, found, List.map_append, List.map_cons, List.map_nil]
    refine tracked.granted.trans (((List.perm_cons_erase entered).append_right _).trans ?_)
    exact List.perm_middle.symm.trans ((List.perm_append_singleton index _).symm.append_left _)

/-- What every step keeps: the visits were asked for by all tasks in turn, `fn` was called with the
items at their indices, and every call waits for its answer or has it, a value among the results.
-/
structure Sound (concurrency : ℚ) (items : List α) (pool : Pool α ρ ε) : Prop where
  given : pool.items = items
  tracked : ∃ visits, Tracked concurrency pool visits
    ∧ visits.requested = List.range items.length
  calls : ∀ call ∈ pool.calls, items[call.2]? = some call.1
  ended : (pool.calls.map (·.2)).Perm
    (pool.inFlight ++ (pool.answers.map (·.1) ++ pool.rejections.map (·.1)))
  filled : pool.results.length = items.length
  results : ∀ index value,
    pool.results[index]? = some (some value) ↔ (index, value) ∈ pool.answers

variable {items : List α}

/-- Every task has asked once, and calls `fn` at most once. -/
theorem Sound.distinct (sound : Sound concurrency items pool)
    : (pool.ready ++ pool.calls.map (·.2)).Nodup := by
  obtain ⟨visits, tracked, requested⟩ := sound.tracked
  have asked : (visits.granted ++ visits.turnstile.queue).Nodup := by
    rw [← tracked.fair.ordered, requested]
    exact List.nodup_range
  exact tracked.granted.nodup_iff.mp (List.nodup_append.mp asked).1

theorem Sound.calls_nodup (sound : Sound concurrency items pool)
    : (pool.calls.map (·.2)).Nodup :=
  (List.nodup_append.mp sound.distinct).2.1

theorem sound_promisePool (items : List α) (concurrency : ℚ)
    : Sound concurrency items (promisePool items concurrency : Pool α ρ ε) := by
  let empty : Pool α ρ ε :=
    {
      items
      semaphore := .new concurrency
      results := List.replicate items.length none
    }
  -- the tasks that have asked so far, by induction on the list of the others backwards
  have asked : ∀ count, ∃ visits,
      Tracked concurrency ((List.range count).foldl Pool.ask empty) visits
      ∧ visits.requested = List.range count
      ∧ (List.range count).foldl Pool.ask empty
        = { empty with
            semaphore := ((List.range count).foldl Pool.ask empty).semaphore
            ready := ((List.range count).foldl Pool.ask empty).ready } := by
    intro count
    induction count with
    | zero =>
        refine ⟨{ turnstile := Semaphore.new concurrency }, ⟨rfl, Visits.fair_initial _ _,
          Visits.counted_initial rfl, .nil, .nil⟩, rfl, rfl⟩
    | succ count ih =>
        obtain ⟨visits, tracked, requested, rest⟩ := ih
        rw [List.range_succ, List.foldl_append]
        refine ⟨_, tracked.ask count, ?_, ?_⟩
        · exact congrArg (· ++ [count]) requested
        · rw [rest]
          rfl
  obtain ⟨visits, tracked, requested, rest⟩ := asked items.length
  have whole : (promisePool items concurrency : Pool α ρ ε)
      = (List.range items.length).foldl Pool.ask empty := rfl
  rw [whole]
  refine ⟨?_, ⟨visits, tracked, requested⟩, ?_, ?_, ?_, ?_⟩
  all_goals rw [rest]
  · intro call called
    cases called
  · exact .nil
  · exact List.length_replicate ..
  · intro index value
    refine iff_of_false (fun found => ?_) List.not_mem_nil
    cases List.eq_of_mem_replicate (List.mem_of_getElem? found)

/-- Who waits for an answer has called, and has none yet. -/
theorem Sound.waits (sound : Sound concurrency items pool) (waits : index ∈ pool.inFlight)
    : index < items.length ∧ index ∉ pool.answers.map (·.1) := by
  constructor
  · have called : index ∈ pool.calls.map (·.2) :=
      sound.ended.mem_iff.mpr (List.mem_append_left _ waits)
    obtain ⟨call, among, rfl⟩ := List.mem_map.mp called
    exact (List.getElem?_eq_some_iff.mp (sound.calls call among)).1
  · have distinct := sound.ended.nodup_iff.mp sound.calls_nodup
    intro answered
    exact (List.nodup_append.mp distinct).2.2 index waits index
      (List.mem_append_left _ answered) rfl

theorem Sound.entered (sound : Sound concurrency items pool) (ready : index ∈ pool.ready)
    : Sound concurrency items (pool.enter index) := by
  cases found : pool.items[index]? with
  | none =>
      have same : pool.enter index = pool := by simp [Pool.enter, found]
      exact same.symm ▸ sound
  | some item =>
      obtain ⟨visits, tracked, requested⟩ := sound.tracked
      refine ⟨?_, ⟨visits, tracked.enter ready found, requested⟩, ?_, ?_, ?_, ?_⟩
      all_goals simp only [Pool.enter, found]
      · exact sound.given
      · intro call called
        rcases List.mem_append.mp called with earlier | now
        · exact sound.calls call earlier
        · rw [List.mem_singleton.mp now, ← sound.given]
          exact found
      · rw [List.map_append]
        exact perm_insert sound.ended [index]
      · exact sound.filled
      · exact sound.results

/-- A task whose `fn` has answered leaves. -/
theorem Sound.leave (sound : Sound concurrency items pool) (waits : index ∈ pool.inFlight)
    {results : List (Option ρ)} {answers : List (Nat × ρ)} {rejections : List (Nat × ε)}
    (filled : results.length = items.length)
    (ended : (answers.map (·.1) ++ rejections.map (·.1)).Perm
      (index :: (pool.answers.map (·.1) ++ pool.rejections.map (·.1))))
    (found : ∀ place value,
      results[place]? = some (some value) ↔ (place, value) ∈ answers)
    : Sound concurrency items ({ pool with results, answers, rejections }.leave index) := by
  obtain ⟨visits, tracked, requested⟩ := sound.tracked
  have after : Tracked concurrency { pool with results, answers, rejections } visits :=
    ⟨tracked.semaphore, tracked.fair, tracked.counted, tracked.holders, tracked.granted⟩
  refine ⟨sound.given, ⟨_, after.leave waits, requested⟩, sound.calls, ?_, filled, found⟩
  refine sound.ended.trans ?_
  refine ((List.perm_cons_erase waits).append_right _).trans ?_
  exact List.perm_middle.symm.trans (ended.symm.append_left _)

/-- Every step keeps the pool sound. -/
theorem Sound.next (sound : Sound concurrency items pool) (input : PoolInput ρ ε)
    : Sound concurrency items (pool.next input) := by
  cases input with
  | entered index =>
      rw [Pool.next]
      split
      · next ready => exact sound.entered ready
      · exact sound
  | fulfilled index value =>
      rw [Pool.next]
      split
      · next waits =>
          obtain ⟨inside, unanswered⟩ := sound.waits waits
          refine sound.leave waits ?_ ?_ ?_
          · rw [List.length_set]
            exact sound.filled
          · rw [List.map_append, List.append_assoc]
            exact List.perm_middle
          · intro place other
            by_cases own : place = index
            · subst own
              rw [List.getElem?_set_self (sound.filled.symm ▸ inside)]
              have new : (place, other) ∉ pool.answers := fun answered =>
                unanswered (List.mem_map_of_mem (f := (·.1)) answered)
              simp [new, eq_comm]
            · rw [List.getElem?_set_ne (Ne.symm own), sound.results]
              simp [own]
      · exact sound
  | rejected index reason =>
      rw [Pool.next]
      split
      · next waits =>
          refine sound.leave waits sound.filled ?_ sound.results
          rw [List.map_append, ← List.append_assoc]
          exact List.perm_append_singleton index _
      · exact sound

/-- The pool is settled with its results once `fn` has fulfilled all. -/
theorem settled_ok {results : List (Option ρ)} (settled : pool.settled = some (.ok results))
    : pool.answers.length = pool.items.length ∧ results = pool.results := by
  unfold Pool.settled at settled
  split at settled
  · cases settled
  · split at settled
    · next all =>
        cases settled
        exact ⟨all, rfl⟩
    · cases settled

/-- As many answers as items are those to all of them. -/
theorem Sound.all_answered (sound : Sound concurrency items pool)
    (fulfilled : pool.answers.length = pool.items.length)
    : ∀ index < items.length, index ∈ pool.answers.map (·.1) := by
  have distinct : (pool.answers.map (·.1)).Nodup := by
    have whole := sound.ended.nodup_iff.mp sound.calls_nodup
    exact (List.nodup_append.mp (List.nodup_append.mp whole).2.1).1
  have inside : pool.answers.map (·.1) ⊆ List.range items.length := by
    intro index answered
    have called : index ∈ pool.calls.map (·.2) :=
      sound.ended.mem_iff.mpr (List.mem_append_right _ (List.mem_append_left _ answered))
    obtain ⟨call, among, rfl⟩ := List.mem_map.mp called
    exact List.mem_range.mpr (List.getElem?_eq_some_iff.mp (sound.calls call among)).1
  have all : (pool.answers.map (·.1)).Perm (List.range items.length) := by
    refine (List.subperm_of_subset distinct inside).perm_of_length_le ?_
    rw [List.length_range, List.length_map, fulfilled, sound.given]
  exact fun index below => all.mem_iff.mpr (List.mem_range.mpr below)

/-- Results that are all there are those of values, by induction on them. -/
theorem exists_values {results : List (Option ρ)} (filled : ∀ result ∈ results, result ≠ none)
    : ∃ values : List ρ, results = values.map some := by
  induction results with
  | nil => exact ⟨[], rfl⟩
  | cons result rest ih =>
      obtain ⟨first, others⟩ := List.forall_mem_cons.mp filled
      obtain ⟨value, rfl⟩ := Option.ne_none_iff_exists'.mp first
      obtain ⟨values, rfl⟩ := ih others
      exact ⟨value :: values, rfl⟩

/-- Once nothing is in flight or about to be, every task has called `fn`. -/
theorem Sound.all_called (sound : Sound concurrency items pool) (positive : 0 < concurrency)
    (noneReady : pool.ready = []) (noneWaits : pool.inFlight = [])
    : ∀ index < items.length, index ∈ pool.calls.map (·.2) := by
  obtain ⟨visits, tracked, requested⟩ := sound.tracked
  have nobody : visits.holders = [] := by
    have holders := tracked.holders
    rw [noneReady, noneWaits] at holders
    exact holders.eq_nil
  have free : Semaphore.rule.isFree visits.turnstile.counter = true := by
    have total := tracked.counted.total
    rw [nobody] at total
    have all : visits.turnstile.counter = concurrency := by simpa using total
    exact decide_eq_true (all.symm ▸ positive)
  have asked := tracked.fair.ordered
  rw [tracked.fair.awake free, List.append_nil, requested] at asked
  have granted := tracked.granted
  rw [noneReady, ← asked] at granted
  exact fun index below => granted.mem_iff.mp (List.mem_range.mpr below)

/-- Calls at all indices are those of all tasks, each with its item. -/
theorem Sound.calls_perm (sound : Sound concurrency items pool)
    (all : ∀ index < items.length, index ∈ pool.calls.map (·.2))
    : pool.calls.Perm items.zipIdx := by
  have distinct : pool.calls.Nodup := sound.calls_nodup.of_map _
  have distinct' : items.zipIdx.Nodup := by
    refine List.Nodup.of_map (·.2) ?_
    rw [List.zipIdx_map_snd]
    exact List.nodup_range'
  refine (List.perm_ext_iff_of_nodup distinct distinct').mpr fun call => ?_
  rw [List.mem_zipIdx_iff_getElem?]
  constructor
  · exact sound.calls call
  · intro given
    obtain ⟨other, called, same⟩ :=
      List.mem_map.mp (all call.2 (List.getElem?_eq_some_iff.mp given).1)
    have item := sound.calls other called
    rw [same, given] at item
    have equal : other = call := Prod.ext (Option.some.inj item).symm same
    exact equal ▸ called

/-- Once `fn` has fulfilled all, every result is there. -/
theorem Sound.results_filled (sound : Sound concurrency items pool)
    (fulfilled : pool.answers.length = pool.items.length)
    : ∀ result ∈ pool.results, result ≠ none := by
  intro result among
  obtain ⟨index, inside, rfl⟩ := List.getElem_of_mem among
  rw [sound.filled] at inside
  obtain ⟨answer, answered, rfl⟩ := List.mem_map.mp (sound.all_answered fulfilled index inside)
  have found := (sound.results answer.1 answer.2).mpr answered
  rw [List.getElem?_eq_getElem (sound.filled.symm ▸ inside)] at found
  rw [Option.some.inj found]
  exact Option.some_ne_none _

/-- What a pool does in every run: no more calls of `fn` are in flight than its concurrency allows,
each task calls it at most once, with its item, and once nothing is in flight or about to be, every
task has called it; the results come in the order of the items, as `fn` answered.
-/
structure PoolLaw (items : List α) (concurrency : ℚ) (pool : Pool α ρ ε) : Prop where
  bounded : pool.inFlight.length ≤ ⌈concurrency⌉₊
  once : (pool.calls.map (·.2)).Nodup ∧ ∀ call ∈ pool.calls, items[call.2]? = some call.1
  all : 0 < concurrency → pool.ready = [] → pool.inFlight = [] → pool.calls.Perm items.zipIdx
  ordered : ∀ results, pool.settled = some (.ok results) →
    ∃ values : List ρ, results = values.map some ∧ values.length = items.length
      ∧ ∀ index value, values[index]? = some value ↔ (index, value) ∈ pool.answers

theorem Sound.poolLaw (sound : Sound concurrency items pool) : PoolLaw items concurrency pool where
  bounded := by
    obtain ⟨visits, tracked, _⟩ := sound.tracked
    have within := tracked.counted.holders_le
    rw [tracked.holders.length_eq, List.length_append] at within
    omega
  once := ⟨sound.calls_nodup, sound.calls⟩
  all positive noneReady noneWaits :=
    sound.calls_perm (sound.all_called positive noneReady noneWaits)
  ordered := by
    intro results settled
    obtain ⟨fulfilled, rfl⟩ := settled_ok settled
    obtain ⟨values, all⟩ := exists_values (sound.results_filled fulfilled)
    refine ⟨values, all, ?_, ?_⟩
    · rw [← sound.filled, all, List.length_map]
    · intro index value
      rw [← sound.results, all, List.getElem?_map]
      cases values[index]? <;> simp

end Pool

/-- For every sequence of calls a mutex and a semaphore let in those who ask in this order, and
nobody waits while they are free; where only holders release them, one holds the mutex at most, and
no more hold the semaphore than it has permits, rounded up. In every run of a pool this bounds the
calls in flight, each task is run once at most, and once nothing is in flight or about to be exactly
once, where the concurrency is positive, and the results come in the order of the items.
-/
theorem locks_and_pool_lawful {ι α ρ ε : Type} [DecidableEq ι] (calls : List (Call ι))
    (permits : ℚ) (items : List α) (concurrency : ℚ) (inputs : List (PoolInput ρ ε))
    : LockLaw Mutex.rule false 1 calls
      ∧ LockLaw Semaphore.rule permits permits calls
      ∧ Pool.PoolLaw items concurrency
          (run Pool.next (Pool.promisePool items concurrency) inputs) := by
  refine ⟨lockLaw_of_measures mutex_measures rfl calls,
    lockLaw_of_measures (semaphore_measures permits) rfl calls, ?_⟩
  have sound : Pool.Sound concurrency items
      (run Pool.next (Pool.promisePool items concurrency) inputs) :=
    run_invariant (fun _ input => (·.next input)) inputs
      (Pool.sound_promisePool items concurrency)
  exact sound.poolLaw

/-- A release by one who holds nothing lets a second holder in, half a permit lets one in, and a
pool without concurrency never runs its task.
-/
theorem stray_release_lets_in
    : (run (Visits.next Mutex.rule) { turnstile := Mutex.new }
          [.acquire 1, .acquire 2, .release 3]).holders = [1, 2]
      ∧ (run (Visits.next Semaphore.rule) { turnstile := Semaphore.new 1 }
          [.acquire 1, .release 3, .acquire 2]).holders = [1, 2]
      ∧ (run (Visits.next Semaphore.rule) { turnstile := Semaphore.new (1 / 2) }
          [.acquire 1]).holders = [1]
      ∧ let pool : Pool Nat Nat Nat := Pool.promisePool [7] 0
        pool.ready = [] ∧ pool.inFlight = [] ∧ pool.calls = [] := by
  decide +kernel

end CrashWave.Async
