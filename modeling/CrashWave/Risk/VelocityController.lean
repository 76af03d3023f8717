import CrashWave.Runs.Basic
import CrashWave.Windows.Basic
import Mathlib.Algebra.Order.Field.Basic
import Mathlib.Algebra.Order.Floor.Ring
import Mathlib.Data.Int.Order.Basic
import Mathlib.Data.List.Chain
import Mathlib.Data.Rat.Floor

/-! `VelocityController`: how often actions may be taken. Times are whole milliseconds; the
settings and the draws of `Math.random()` are exact.
-/

namespace CrashWave.Risk

open Runs Windows

variable {K : Type*} [Field K] [LinearOrder K] [FloorRing K]

/-- `VelocityConfig` without the jitter of a cash-out. -/
structure VelocityConfig (K : Type*) where
  enabled : Bool
  maxActionsPerMinute : K
  maxActionsPerHour : K
  minActionIntervalMs : K
  maxActionIntervalMs : K
  idleProbability : K
  minIdleMs : K
  maxIdleMs : K

structure ActionRecord where
  timestamp : ℤ
  type : String
  deriving DecidableEq

/-- `VelocityDecision`. -/
structure VelocityDecision (K : Type*) where
  allowed : Bool
  waitMs : K
  reason : Option String := none

/-- What `Math.random()` answers in an `acquire`, in this order. -/
structure Draws (K : Type*) where
  interval : K
  idle : K
  idleLength : K

/-- `VelocityController`. -/
structure VelocityController where
  history : List ActionRecord := []
  lastActionAt : ℤ := 0
  deriving DecidableEq

namespace VelocityController

variable (config : VelocityConfig K) (controller : VelocityController)

/-- The times of the history. -/
def times : List ℤ := controller.history.map (·.timestamp)

/-- `prune`. -/
def prune (now : ℤ) : VelocityController :=
  { controller with
    history := controller.history.filter fun action => now - 3600000 ≤ action.timestamp }

/-- `randomBetween`, with the draw that it makes. -/
def randomBetween (draw min max : K) : K := ⌊draw * (max - min + 1)⌋ + min

/-- The wait until the oldest action of the last minute is a minute old, but a second at
least.
-/
def minuteWait (now : ℤ) (lastMinute : List ℤ) : ℤ :=
  match lastMinute.min? with
  | some oldest => max 1000 (60000 - (now - oldest))
  | none => 60000

/-- `acquire` after the history is pruned. -/
def decision (now : ℤ) (draws : Draws K) : VelocityDecision K :=
  let lastMinute := trailing now 60000 controller.times
  let lastHour := trailing now 3600000 controller.times
  let elapsed : K := (now - controller.lastActionAt : ℤ)
  let minInterval :=
    randomBetween draws.interval config.minActionIntervalMs config.maxActionIntervalMs
  if config.maxActionsPerMinute ≤ lastMinute.length then
    { allowed := false
      waitMs := minuteWait now lastMinute
      reason := some "maxActionsPerMinute" }
  else if config.maxActionsPerHour ≤ lastHour.length then
    { allowed := false, waitMs := (30000 : ℤ), reason := some "maxActionsPerHour" }
  else if 0 < controller.lastActionAt ∧ elapsed < minInterval then
    { allowed := false, waitMs := minInterval - elapsed, reason := some "minInterval" }
  else if draws.idle < config.idleProbability then
    { allowed := false
      waitMs := randomBetween draws.idleLength config.minIdleMs config.maxIdleMs
      reason := some "humanIdle" }
  else { allowed := true, waitMs := 0 }

/-- `acquire`. -/
def acquire (now : ℤ) (draws : Draws K) : VelocityController × VelocityDecision K :=
  if config.enabled then
    (controller.prune now, (controller.prune now).decision config now draws)
  else (controller, { allowed := true, waitMs := 0 })

/-- `record`. -/
def record (now : ℤ) (actionType : String) : VelocityController where
  history := controller.history ++ [{ timestamp := now, type := actionType }]
  lastActionAt := now

/-- A call, at the time that `Date.now()` answers in it. -/
inductive Call (K : Type*) where
  | acquire (now : ℤ) (draws : Draws K)
  | record (now : ℤ) (actionType : String)

/-- The time of a call. -/
def Call.now : Call K → ℤ
  | .acquire now _ => now
  | .record now _ => now

/-- A controller in use: the time of the last call, whether an action is allowed that has not
been recorded, and the times of all records.
-/
structure Session where
  controller : VelocityController := {}
  clock : ℤ := 0
  granted : Bool := false
  log : List ℤ := []
  deriving DecidableEq

/-- One call. -/
def Session.step (session : Session) : Call K → Session
  | .acquire now draws =>
      let (controller, decision) := session.controller.acquire config now draws
      { session with
        controller
        clock := now
        granted := session.granted || decision.allowed }
  | .record now actionType =>
      { controller := session.controller.record now actionType
        clock := now
        granted := false
        log := session.log ++ [now] }

/-- The clock is positive and does not go back, the draws are those of `Math.random()`, and a
record follows an allowed `acquire` with no other record in between.
-/
def Session.Orderly (session : Session) (call : Call K) : Prop :=
  session.clock ≤ call.now ∧ 0 < call.now
  ∧ match call with
    | .acquire _ draws => 0 ≤ draws.interval ∧ draws.interval < 1
    | .record _ _ => session.granted = true

/-- The records keep to the limits: no window of a minute or an hour has more of them than the
limit, rounded up, and none follows another too early.
-/
structure WithinLimits (log : List ℤ) : Prop where
  minute : WithinRate 60000 ⌈config.maxActionsPerMinute⌉₊ log
  hour : WithinRate 3600000 ⌈config.maxActionsPerHour⌉₊ log
  interval
    : log.IsChain fun earlier later => config.minActionIntervalMs ≤ ((later - earlier : ℤ) : K)

/-- What was found when an action was allowed: room in both windows, and time since the last
record.
-/
structure Room (log : List ℤ) (asked : ℤ) : Prop where
  minute : ((trailing asked 60000 log).length : K) < config.maxActionsPerMinute
  hour : ((trailing asked 3600000 log).length : K) < config.maxActionsPerHour
  interval
    : ∀ last ∈ log.getLast?, config.minActionIntervalMs ≤ ((asked - last : ℤ) : K)

/-- What holds of a session between its calls. The history may lack old records, but no later
window of an hour misses them.
-/
structure Session.Sound (session : Session) : Prop where
  clock : 0 ≤ session.clock
  windows
    : ∀ now width, session.clock ≤ now → width ≤ 3600000 →
        trailing now width session.controller.times = trailing now width session.log
  last : session.controller.lastActionAt = session.log.getLast?.getD 0
  positive : ∀ time ∈ session.log, 0 < time
  room : session.granted = true → ∃ asked ≤ session.clock, Room config session.log asked
  limits : WithinLimits config session.log

variable {config} {controller : VelocityController} {now : ℤ} {draws : Draws K}

theorem prune_times
    : (controller.prune now).times
      = controller.times.filter fun time => now - 3600000 ≤ time := by
  rw [times, times, List.filter_map]
  rfl

/-- Pruning loses nothing that a later window of an hour or less holds. -/
theorem trailing_prune {later width : ℤ} (order : now ≤ later) (narrow : width ≤ 3600000)
    : trailing later width (controller.prune now).times
      = trailing later width controller.times := by
  rw [prune_times, trailing_filter order narrow]

theorem record_times (actionType : String)
    : (controller.record now actionType).times = controller.times ++ [now] :=
  List.map_append

/-- What an allowed action finds. -/
theorem of_decision_allowed (allowed : (controller.decision config now draws).allowed = true)
    : ((trailing now 60000 controller.times).length : K) < config.maxActionsPerMinute
      ∧ ((trailing now 3600000 controller.times).length : K) < config.maxActionsPerHour
      ∧ (0 < controller.lastActionAt →
          randomBetween draws.interval config.minActionIntervalMs config.maxActionIntervalMs
            ≤ ((now - controller.lastActionAt : ℤ) : K)) := by
  simp only [decision] at allowed
  split_ifs at allowed with minute hour interval idle
  refine ⟨not_le.mp minute, not_le.mp hour, fun acted => ?_⟩
  exact not_lt.mp fun early => interval ⟨acted, early⟩

variable [IsStrictOrderedRing K]

/-- A drawn interval is never below the lower bound. -/
theorem le_randomBetween {draw min max : K} (nonneg : 0 ≤ draw) (order : min ≤ max)
    : min ≤ randomBetween draw min max := by
  have width : 0 ≤ max - min + 1 := add_nonneg (sub_nonneg.mpr order) zero_le_one
  have whole : (0 : K) ≤ (⌊draw * (max - min + 1)⌋ : ℤ) :=
    Int.cast_nonneg (Int.floor_nonneg.mpr (mul_nonneg nonneg width))
  exact le_add_of_nonneg_left whole

omit [IsStrictOrderedRing K] in
/-- A new controller has recorded nothing. -/
theorem Session.sound_new (config : VelocityConfig K) : Session.Sound config {} where
  clock := le_rfl
  windows _ _ _ _ := rfl
  last := rfl
  positive := nofun
  room := nofun
  limits := ⟨withinRate_nil, withinRate_nil, .nil⟩

variable {session : Session}

/-- An allowed `acquire` finds room. -/
theorem Session.Sound.room_of_allowed (sound : session.Sound config)
    (order : config.minActionIntervalMs ≤ config.maxActionIntervalMs)
    (later : session.clock ≤ now) (nonneg : 0 ≤ draws.interval)
    (allowed : ((session.controller.prune now).decision config now draws).allowed = true)
    : Room config session.log now := by
  obtain ⟨minute, hour, interval⟩ := of_decision_allowed allowed
  rw [trailing_prune le_rfl (by norm_num), sound.windows now _ later (by norm_num)] at minute
  rw [trailing_prune le_rfl (by norm_num), sound.windows now _ later (by norm_num)] at hour
  refine ⟨minute, hour, fun last member => ?_⟩
  have lastAction : (session.controller.prune now).lastActionAt = last :=
    sound.last.trans (by rw [Option.mem_def.mp member, Option.getD_some])
  have acted : 0 < last := sound.positive last (List.mem_of_mem_getLast? member)
  rw [lastAction] at interval
  exact (le_randomBetween nonneg order).trans (interval acted)

/-- An `acquire` keeps what holds of a session. -/
theorem Session.Sound.acquire (sound : session.Sound config) (enabled : config.enabled = true)
    (order : config.minActionIntervalMs ≤ config.maxActionIntervalMs)
    (orderly : session.Orderly (.acquire now draws))
    : (session.step config (.acquire now draws)).Sound config := by
  obtain ⟨later, positive, nonneg, -⟩ := orderly
  simp only [Call.now] at later positive
  simp only [Session.step, VelocityController.acquire, enabled, if_true]
  refine
    { clock := positive.le
      windows := fun after width order narrow => ?_
      last := sound.last
      positive := sound.positive
      room := fun granted => ?_
      limits := sound.limits }
  · rw [trailing_prune order narrow]
    exact sound.windows after width (later.trans order) narrow
  · rcases Bool.or_eq_true_iff.mp granted with before | allowed
    · obtain ⟨asked, earlier, room⟩ := sound.room before
      exact ⟨asked, earlier.trans later, room⟩
    · exact ⟨now, le_rfl, sound.room_of_allowed order later nonneg allowed⟩

/-- A further record that had room keeps to the limits. -/
theorem WithinLimits.concat {log : List ℤ} {asked : ℤ} (limits : WithinLimits config log)
    (room : Room config log asked) (order : asked ≤ now)
    : WithinLimits config (log ++ [now]) where
  minute := limits.minute.concat order (Nat.lt_ceil.mpr room.minute)
  hour := limits.hour.concat order (Nat.lt_ceil.mpr room.hour)
  interval := by
    refine List.isChain_append.mpr ⟨limits.interval, .singleton now, ?_⟩
    rintro last member _ ⟨⟩
    refine (room.interval last member).trans (Int.cast_le.mpr ?_)
    exact sub_le_sub_right order last

/-- A record keeps what holds of a session. -/
theorem Session.Sound.record {actionType : String} (sound : session.Sound config)
    (orderly : session.Orderly (.record now actionType : Call K))
    : (session.step config (.record now actionType)).Sound config := by
  obtain ⟨later, positive, granted⟩ := orderly
  obtain ⟨asked, earlier, room⟩ := sound.room granted
  simp only [Call.now] at later positive
  refine
    { clock := positive.le
      windows := fun after width order narrow => ?_
      last := by simp [Session.step, VelocityController.record]
      positive := ?_
      room := nofun
      limits := sound.limits.concat room (earlier.trans later) }
  · simp only [Session.step, record_times, trailing_append]
    rw [sound.windows after width (later.trans order) narrow]
  · intro time member
    rcases List.mem_append.mp member with old | new
    · exact sound.positive time old
    · rwa [List.mem_singleton.mp new]

/-- At most two and a half actions a minute, half a second apart. -/
def twoAndAHalf : VelocityConfig ℚ where
  enabled := true
  maxActionsPerMinute := 5 / 2
  maxActionsPerHour := 100
  minActionIntervalMs := 500
  maxActionIntervalMs := 800
  idleProbability := 0
  minIdleMs := 0
  maxIdleMs := 0

/-- Three actions, each asked for a second after the one before. -/
def threeActions : List (Call ℚ) :=
  let draws : Draws ℚ := { interval := 1 / 2, idle := 1 / 2, idleLength := 0 }
  [.acquire 1000 draws, .record 1010 "bet", .acquire 2000 draws, .record 2010 "bet",
    .acquire 3000 draws, .record 3010 "bet"]

theorem threeActions_orderly
    : Always (Session.step twoAndAHalf) Session.Orderly {} threeActions := by
  refine ⟨⟨?_, ?_, ?_⟩, ⟨?_, ?_, ?_⟩, ⟨?_, ?_, ?_⟩, ⟨?_, ?_, ?_⟩, ⟨?_, ?_, ?_⟩, ⟨?_, ?_, ?_⟩,
    trivial⟩ <;> decide +kernel

end VelocityController

end CrashWave.Risk
