import Mathlib.Data.List.Nodup
import CrashWave.Game.Adapter
import CrashWave.Runs.Basic

/-! How often the adapter reports the start and the crash of a round. It remembers neither the
rounds it has started nor those it has crashed, and it writes a crash over the state from
before it waited for the crash point.
-/

namespace CrashWave.Game

open JavaScript

-----------------------------------------------------------------------------------------
-- What a step does to the rounds
-----------------------------------------------------------------------------------------

/-- The rounds of the events of a type. -/
def roundsOf (type : GameEventType) (emitted : List NormalizedGameEvent) : List String :=
  emitted.filterMap fun event => if event.type = type then event.roundId else none

namespace GameAdapter

/-- The rounds whose start was reported. -/
def startedRounds (adapter : GameAdapter) : List String :=
  roundsOf .roundStarted adapter.emitted

/-- The rounds whose crash was reported. -/
def crashedRounds (adapter : GameAdapter) : List String :=
  roundsOf .roundCrashed adapter.emitted

end GameAdapter

/-- What a call that waits has seen or done before: the listeners of a start or of a tick are
told of a running game, a crash point is awaited before any other await, and the state has
changed when the listeners of a crash are told.
-/
def Waits : AwaitPoint × StateChange → Prop
  | (.started, call) => call.snapshot.phase = some .running
  | (.ticked, call) => call.snapshot.phase = some .running
  | (.crashing spread, call) => spread = call.prev ∧ crashesRound call.prev call.snapshot
  | (.crashed, call) => call.stateChanged
  | (.changed, _) => True

/-- Neither the round, nor whether it has crashed, nor what was reported has changed, and new
calls wait as they should.
-/
structure RoundsKept (adapter after : GameAdapter) : Prop where
  roundId : after.currentState.roundId = adapter.currentState.roundId
  crashedAt : after.currentState.crashedAt = adapter.currentState.crashedAt
  started : after.startedRounds = adapter.startedRounds
  crashed : after.crashedRounds = adapter.crashedRounds
  calls : ∀ entry ∈ after.calls, entry ∈ adapter.calls ∨ Waits entry

/-- A crash was written over a copy of the state and reported for the round of that copy. -/
structure RoundCrashed (adapter : GameAdapter) (spread : RoundState) (after : GameAdapter)
    : Prop where
  roundId : after.currentState.roundId = spread.roundId
  crashedAt : after.currentState.crashedAt ≠ none
  started : after.startedRounds = adapter.startedRounds
  crashed : after.crashedRounds = adapter.crashedRounds ++ spread.roundId.toList
  calls : ∀ entry ∈ after.calls, entry ∈ adapter.calls ∨ Waits entry

/-- A round was started and reported. -/
structure RoundStarted (adapter : GameAdapter) (round : String) (after : GameAdapter)
    : Prop where
  roundId : after.currentState.roundId = some round
  crashedAt : after.currentState.crashedAt = none
  started : after.startedRounds = adapter.startedRounds ++ [round]
  crashed : after.crashedRounds = adapter.crashedRounds
  calls : ∀ entry ∈ after.calls, entry ∈ adapter.calls ∨ Waits entry

variable {adapter middle after : GameAdapter} {call : StateChange}

theorem RoundsKept.refl (adapter : GameAdapter) : RoundsKept adapter adapter :=
  ⟨rfl, rfl, rfl, rfl, fun _ member => .inl member⟩

theorem RoundsKept.trans (first : RoundsKept adapter middle) (second : RoundsKept middle after)
    : RoundsKept adapter after := by
  refine ⟨second.roundId.trans first.roundId, second.crashedAt.trans first.crashedAt,
    second.started.trans first.started, second.crashed.trans first.crashed, ?_⟩
  intro entry member
  rcases second.calls entry member with before | seen
  · exact first.calls entry before
  · exact .inr seen

/-- A change of the other fields of the state, with calls that were there. -/
theorem RoundsKept.of_state (roundId : after.currentState.roundId = adapter.currentState.roundId)
    (crashedAt : after.currentState.crashedAt = adapter.currentState.crashedAt)
    (emitted : after.emitted = adapter.emitted)
    (calls : ∀ entry ∈ after.calls, entry ∈ adapter.calls)
    : RoundsKept adapter after := by
  refine ⟨roundId, crashedAt, ?_, ?_, fun entry member => .inl (calls entry member)⟩
  · rw [GameAdapter.startedRounds, emitted, GameAdapter.startedRounds]
  · rw [GameAdapter.crashedRounds, emitted, GameAdapter.crashedRounds]

theorem await_kept {point : AwaitPoint} (seen : Waits (point, call))
    : RoundsKept adapter (adapter.await point call) := by
  refine ⟨rfl, rfl, rfl, rfl, ?_⟩
  intro entry member
  rcases List.mem_append.mp member with before | last
  · exact .inl before
  · exact .inr (List.mem_singleton.mp last ▸ seen)

/-- An event of another type reports neither a start nor a crash. -/
theorem emit_kept {event : NormalizedGameEvent} (notStarted : event.type ≠ .roundStarted)
    (notCrashed : event.type ≠ .roundCrashed)
    : RoundsKept adapter (adapter.emit event) := by
  refine ⟨rfl, rfl, ?_, ?_, fun _ member => .inl member⟩
  · simp [GameAdapter.startedRounds, GameAdapter.emit, roundsOf, notStarted]
  · simp [GameAdapter.crashedRounds, GameAdapter.emit, roundsOf, notCrashed]

theorem afterCrash_kept (adapter : GameAdapter) (call : StateChange)
    : RoundsKept adapter (adapter.afterCrash call) := by
  unfold GameAdapter.afterCrash
  extract_lets snapshot restarts stateChanged state phase next written
  have roundId : next.roundId = state.roundId := by
    simp only [next]
    split
    · rfl
    · split <;> rfl
  have crashedAt : next.crashedAt = state.crashedAt := by
    simp only [next]
    split
    · rfl
    · split <;> rfl
  have kept : RoundsKept adapter written :=
    .of_state roundId crashedAt rfl fun _ member => member
  split
  · exact (kept.trans (emit_kept (by simp) (by simp))).trans (await_kept trivial)
  · exact kept

/-- The end of a call that has changed the state on a crash leaves the state. -/
theorem afterCrash_state (crashes : crashesRound call.prev call.snapshot)
    (changed : call.stateChanged)
    : (adapter.afterCrash call).currentState = adapter.currentState := by
  have notCrashed : call.prev.phase ≠ .crashed := by
    rintro phase
    simp [crashesRound, phase] at crashes
  simp [GameAdapter.afterCrash, GameAdapter.await, GameAdapter.emit, notCrashed, changed]
  split <;> rfl

theorem crash_crashed (adapter : GameAdapter) (call : StateChange) (spread : RoundState)
    (crashPoint : Option Number)
    : RoundCrashed adapter spread (adapter.crash call spread crashPoint) := by
  unfold GameAdapter.crash
  extract_lets snapshot confidence next
  refine ⟨rfl, by simp [next, GameAdapter.await, GameAdapter.emit], ?_, ?_, ?_⟩
  · simp [GameAdapter.startedRounds, GameAdapter.await, GameAdapter.emit, roundsOf]
  · simp only [GameAdapter.crashedRounds, GameAdapter.await, GameAdapter.emit, roundsOf,
      List.filterMap_append]
    cases round : spread.roundId <;> simp [next]
  · intro entry member
    rcases List.mem_append.mp member with before | last
    · exact .inl before
    · rw [List.mem_singleton.mp last]
      exact .inr rfl

/-- A call that has seen a running game neither starts nor crashes a round any more. -/
theorem afterTick_kept (running : call.snapshot.phase = some .running)
    : RoundsKept adapter (adapter.afterTick call) := by
  have notCrashing : ¬ crashesRound call.prev call.snapshot := by simp [crashesRound, running]
  rw [GameAdapter.afterTick, if_neg notCrashing]
  exact afterCrash_kept adapter call

theorem afterStart_kept (running : call.snapshot.phase = some .running)
    : RoundsKept adapter (adapter.afterStart call) := by
  unfold GameAdapter.afterStart
  extract_lets snapshot state ticked
  have kept : RoundsKept adapter ticked := .of_state rfl rfl rfl fun _ member => member
  split
  · split
    · exact kept.trans (afterTick_kept running)
    · exact (kept.trans (emit_kept (by simp) (by simp))).trans (await_kept running)
  · exact afterTick_kept running

-----------------------------------------------------------------------------------------
-- What a step does
-----------------------------------------------------------------------------------------

namespace GameAdapter

/-- The round that a step starts. -/
def roundStart (adapter : GameAdapter) : AdapterInput → Option String
  | .snapshot snapshot =>
      if startsRound adapter.currentState snapshot then snapshot.roundId else none
  | .settle _ _ => none

/-- The state over which a step writes a crash. -/
def crashSpread (adapter : GameAdapter) : AdapterInput → Option RoundState
  | .snapshot snapshot =>
      if crashesRound adapter.currentState snapshot ∧ snapshot.crashPoint.isSome then
        some adapter.currentState
      else none
  | .settle index answer =>
      match adapter.calls[index]?, answer with
      | some (.crashing spread, _), .fulfilled _ => some spread
      | _, _ => none

end GameAdapter

/-- What a step does to the rounds: it starts one, crashes one, or keeps them. -/
inductive RoundEffect (adapter : GameAdapter) (input : AdapterInput) : Prop where
  | started (round : String) (starts : adapter.roundStart input = some round)
      (crashes : adapter.crashSpread input = none)
      (effect : RoundStarted adapter round (adapter.next input))
  | crashed (spread : RoundState) (starts : adapter.roundStart input = none)
      (crashes : adapter.crashSpread input = some spread)
      (effect : RoundCrashed adapter spread (adapter.next input))
  | kept (starts : adapter.roundStart input = none)
      (crashes : adapter.crashSpread input = none)
      (effect : RoundsKept adapter (adapter.next input))

theorem processStateChange_started {snapshot : SourceSnapshot} {round : String}
    (starts : startsRound adapter.currentState snapshot) (names : snapshot.roundId = some round)
    : RoundStarted adapter round (adapter.processStateChange snapshot) := by
  have running : snapshot.phase = some .running := by
    simp only [startsRound, decide_eq_true_eq] at starts
    exact starts.2.1
  rw [GameAdapter.processStateChange, if_pos starts]
  refine ⟨names, rfl, ?_, ?_, ?_⟩
  · simp [GameAdapter.startedRounds, GameAdapter.await, GameAdapter.emit, roundsOf, names]
  · simp [GameAdapter.crashedRounds, GameAdapter.await, GameAdapter.emit, roundsOf]
  · intro entry member
    rcases List.mem_append.mp member with before | last
    · exact .inl before
    · rw [List.mem_singleton.mp last]
      exact .inr running

theorem snapshot_effect (adapter : GameAdapter) (snapshot : SourceSnapshot)
    : RoundEffect adapter (.snapshot snapshot) := by
  by_cases starts : startsRound adapter.currentState snapshot
  · have shown : snapshot.phase = some .running ∧ truthy snapshot.roundId := by
      simp only [startsRound, decide_eq_true_eq] at starts
      exact starts.2
    obtain ⟨round, names⟩ : ∃ round, snapshot.roundId = some round := by
      cases named : snapshot.roundId with
      | none => simp [truthy, named] at shown
      | some round => exact ⟨round, rfl⟩
    refine .started round (by simp [GameAdapter.roundStart, starts, names]) ?_
      (processStateChange_started starts names)
    simp [GameAdapter.crashSpread, crashesRound, shown.1]
  · have noStart : adapter.roundStart (.snapshot snapshot) = none := by
      simp [GameAdapter.roundStart, starts]
    have goesOn : adapter.next (.snapshot snapshot)
        = adapter.afterStart { prev := adapter.currentState, snapshot } := by
      rw [GameAdapter.next, GameAdapter.processStateChange, if_neg starts]
    by_cases running : snapshot.phase = some .running
    · refine .kept noStart (by simp [GameAdapter.crashSpread, crashesRound, running]) ?_
      rw [goesOn]
      exact afterStart_kept running
    · rw [GameAdapter.afterStart, if_neg (by simp [ticks, running]), GameAdapter.afterTick]
        at goesOn
      by_cases crashes : crashesRound adapter.currentState snapshot
      · rw [if_pos crashes] at goesOn
        cases point : snapshot.crashPoint with
        | none =>
            refine .kept noStart (by simp [GameAdapter.crashSpread, point]) ?_
            rw [goesOn, point]
            exact await_kept ⟨rfl, crashes⟩
        | some crashPoint =>
            refine .crashed adapter.currentState noStart
              (by simp [GameAdapter.crashSpread, crashes, point]) ?_
            rw [goesOn, point]
            exact crash_crashed _ _ _ _
      · rw [if_neg crashes] at goesOn
        refine .kept noStart (by simp [GameAdapter.crashSpread, crashes]) ?_
        rw [goesOn]
        exact afterCrash_kept _ _

/-- A call that is taken out of the waiting ones changes nothing else. -/
theorem eraseCall_kept (adapter : GameAdapter) (index : Nat)
    : RoundsKept adapter { adapter with calls := adapter.calls.eraseIdx index } :=
  .of_state rfl rfl rfl fun _ member => List.mem_of_mem_eraseIdx member

theorem abandon_kept (adapter : GameAdapter) (call : StateChange)
    : RoundsKept adapter (adapter.abandon call) := by
  rw [GameAdapter.abandon]
  split
  · exact .of_state rfl rfl rfl fun _ member => member
  · exact .refl adapter

/-- A call that does not wait for a crash point goes on without starting or crashing a round. -/
theorem resume_kept {point : AwaitPoint} (waiting : Waits (point, call))
    (other : ∀ spread, point ≠ .crashing spread) (crashPoint : Option Number)
    : RoundsKept adapter (adapter.resume call crashPoint point) := by
  cases point with
  | started => exact afterStart_kept waiting
  | ticked => exact afterTick_kept waiting
  | crashing spread => exact absurd rfl (other spread)
  | crashed => exact afterCrash_kept adapter call
  | changed => exact .refl adapter

theorem settle_effect (waits : ∀ entry ∈ adapter.calls, Waits entry) (index : Nat)
    (answer : AdapterAnswer)
    : RoundEffect adapter (.settle index answer) := by
  have erased := eraseCall_kept adapter index
  cases called : adapter.calls[index]? with
  | none =>
      refine .kept rfl (by simp [GameAdapter.crashSpread, called]) ?_
      simp only [GameAdapter.next, called]
      exact .refl adapter
  | some entry =>
      obtain ⟨point, call⟩ := entry
      have waiting : Waits (point, call) := waits _ (List.mem_of_getElem? called)
      cases answer with
      | rejected =>
          refine .kept rfl (by simp [GameAdapter.crashSpread, called]) ?_
          simp only [GameAdapter.next, called]
          exact erased.trans (abandon_kept _ call)
      | fulfilled crashPoint =>
          by_cases crashing : ∃ spread, point = .crashing spread
          · obtain ⟨spread, rfl⟩ := crashing
            refine .crashed spread rfl (by simp [GameAdapter.crashSpread, called]) ?_
            simp only [GameAdapter.next, called, GameAdapter.resume]
            have written := crash_crashed { adapter with
              calls := adapter.calls.eraseIdx index } call spread crashPoint
            refine ⟨written.roundId, written.crashedAt, written.started, written.crashed, ?_⟩
            intro entry member
            exact (written.calls entry member).imp List.mem_of_mem_eraseIdx id
          · have other : ∀ spread, point ≠ .crashing spread := fun spread is =>
              crashing ⟨spread, is⟩
            refine .kept rfl ?_ ?_
            · cases point with
              | crashing spread => exact absurd rfl (other spread)
              | started | ticked | crashed | changed => simp [GameAdapter.crashSpread, called]
            · simp only [GameAdapter.next, called]
              exact erased.trans (resume_kept waiting other crashPoint)

/-- Every step starts a round, crashes one or keeps them. -/
theorem next_effect (waits : ∀ entry ∈ adapter.calls, Waits entry) (input : AdapterInput)
    : RoundEffect adapter input := by
  cases input with
  | snapshot snapshot => exact snapshot_effect adapter snapshot
  | settle index answer => exact settle_effect waits index answer

-----------------------------------------------------------------------------------------
-- Rounds along a run
-----------------------------------------------------------------------------------------

/-- Every round is started and crashed once, the current one was started, and the state tells
whether it has crashed.
-/
structure RoundsReported (adapter : GameAdapter) : Prop where
  startedOnce : adapter.startedRounds.Nodup
  crashedOnce : adapter.crashedRounds.Nodup
  crashedStarted : adapter.crashedRounds ⊆ adapter.startedRounds
  currentStarted : ∀ round, adapter.currentState.roundId = some round →
    round ∈ adapter.startedRounds
  currentCrashed : ∀ round, adapter.currentState.roundId = some round →
    (adapter.currentState.crashedAt ≠ none ↔ round ∈ adapter.crashedRounds)
  waits : ∀ entry ∈ adapter.calls, Waits entry

/-- What is wanted of a step: no round has been started twice or crashed twice after it, and a
call that handles a crash leaves the state when the round is no longer the one that it saw.
-/
def ReportsOnce (adapter : GameAdapter) (input : AdapterInput) : Prop :=
  (adapter.next input).startedRounds.Nodup
  ∧ (adapter.next input).crashedRounds.Nodup
  ∧ ∀ index answer point call, input = .settle index answer →
      adapter.calls[index]? = some (point, call) →
      crashesRound call.prev call.snapshot →
      adapter.currentState.roundId ≠ call.prev.roundId →
      (adapter.next input).currentState = adapter.currentState

/-- A step starts no round that was started before, and it writes a crash over the round that is
current and has not crashed.
-/
def InRound (adapter : GameAdapter) (input : AdapterInput) : Prop :=
  (∀ round ∈ adapter.roundStart input, round ∉ adapter.startedRounds)
  ∧ ∀ spread ∈ adapter.crashSpread input,
      adapter.currentState.roundId = spread.roundId
      ∧ (adapter.currentState.roundId = none ∨ adapter.currentState.crashedAt = none)

/-- A crash that was awaited is written over the state that its call saw. -/
theorem crashSpread_settle {index : Nat} {answer : AdapterAnswer} {spread : RoundState}
    (waits : ∀ entry ∈ adapter.calls, Waits entry)
    (written : adapter.crashSpread (.settle index answer) = some spread)
    : ∃ call, adapter.calls[index]? = some (.crashing spread, call)
      ∧ spread = call.prev ∧ crashesRound call.prev call.snapshot := by
  simp only [GameAdapter.crashSpread] at written
  split at written
  · rename_i other call crashPoint called
    obtain rfl : other = spread := Option.some_inj.mp written
    exact ⟨call, called, waits _ (List.mem_of_getElem? called)⟩
  · cases written

/-- Where no crash is written, a call that handles one leaves the state. -/
theorem settle_keeps_state {index : Nat} {answer : AdapterAnswer} {point : AwaitPoint}
    (waits : ∀ entry ∈ adapter.calls, Waits entry)
    (called : adapter.calls[index]? = some (point, call))
    (crashes : crashesRound call.prev call.snapshot)
    (unwritten : adapter.crashSpread (.settle index answer) = none)
    : (adapter.next (.settle index answer)).currentState = adapter.currentState := by
  have waiting : Waits (point, call) := waits _ (List.mem_of_getElem? called)
  have shown : call.snapshot.phase = some .crashed := by
    simp only [crashesRound, decide_eq_true_eq] at crashes
    exact crashes.2
  simp only [GameAdapter.next, called]
  cases answer with
  | rejected =>
      simp only [GameAdapter.abandon]
      split <;> rfl
  | fulfilled crashPoint =>
      cases point with
      | crashing spread => simp [GameAdapter.crashSpread, called] at unwritten
      | started => simp [Waits, shown] at waiting
      | ticked => simp [Waits, shown] at waiting
      | crashed => exact afterCrash_state crashes waiting
      | changed => rfl

theorem nodup_snoc {rounds : List String} {round : String}
    : (rounds ++ [round]).Nodup ↔ round ∉ rounds ∧ rounds.Nodup := by
  rw [← List.concat_eq_append]
  exact List.nodup_concat rounds round

/-- Calls that were there wait as they should, and so do new ones. -/
theorem RoundsReported.waits_of (reported : RoundsReported adapter)
    (calls : ∀ entry ∈ after.calls, entry ∈ adapter.calls ∨ Waits entry)
    : ∀ entry ∈ after.calls, Waits entry :=
  fun entry member => (calls entry member).elim (reported.waits entry) id

theorem RoundsKept.reported (effect : RoundsKept adapter after)
    (reported : RoundsReported adapter) : RoundsReported after := by
  refine ⟨?_, ?_, ?_, ?_, ?_, reported.waits_of effect.calls⟩
  · rw [effect.started]
    exact reported.startedOnce
  · rw [effect.crashed]
    exact reported.crashedOnce
  · rw [effect.started, effect.crashed]
    exact reported.crashedStarted
  · rw [effect.roundId, effect.started]
    exact reported.currentStarted
  · rw [effect.roundId, effect.crashedAt, effect.crashed]
    exact reported.currentCrashed

/-- A new round has been neither started nor crashed. -/
theorem RoundStarted.reported {round : String} (effect : RoundStarted adapter round after)
    (reported : RoundsReported adapter) (fresh : round ∉ adapter.startedRounds)
    : RoundsReported after := by
  have uncrashed : round ∉ adapter.crashedRounds :=
    fun crashed => fresh (reported.crashedStarted crashed)
  refine ⟨?_, ?_, ?_, ?_, ?_, reported.waits_of effect.calls⟩
  · rw [effect.started]
    exact nodup_snoc.mpr ⟨fresh, reported.startedOnce⟩
  · rw [effect.crashed]
    exact reported.crashedOnce
  · rw [effect.started, effect.crashed]
    exact List.Subset.trans reported.crashedStarted (List.subset_append_left _ _)
  · intro current is
    obtain rfl : round = current := Option.some_inj.mp (effect.roundId.symm.trans is)
    rw [effect.started]
    exact List.mem_append_right _ (List.mem_singleton_self round)
  · intro current is
    obtain rfl : round = current := Option.some_inj.mp (effect.roundId.symm.trans is)
    rw [effect.crashedAt, effect.crashed]
    simp [uncrashed]

/-- The current round, which has not crashed, was started and is now crashed. -/
theorem RoundCrashed.reported {spread : RoundState} (effect : RoundCrashed adapter spread after)
    (reported : RoundsReported adapter)
    (same : adapter.currentState.roundId = spread.roundId)
    (uncrashed : adapter.currentState.roundId = none ∨ adapter.currentState.crashedAt = none)
    : RoundsReported after := by
  refine ⟨?_, ?_, ?_, ?_, ?_, reported.waits_of effect.calls⟩
  · rw [effect.started]
    exact reported.startedOnce
  · rw [effect.crashed, ← same]
    cases current : adapter.currentState.roundId with
    | none => simpa using reported.crashedOnce
    | some round =>
        have notYet : adapter.currentState.crashedAt = none :=
          uncrashed.resolve_left (by simp [current])
        have fresh : round ∉ adapter.crashedRounds := fun crashed =>
          (reported.currentCrashed round current).mpr crashed notYet
        exact nodup_snoc.mpr ⟨fresh, reported.crashedOnce⟩
  · rw [effect.started, effect.crashed, ← same]
    refine List.append_subset.mpr ⟨reported.crashedStarted, ?_⟩
    intro round current
    exact reported.currentStarted round (Option.mem_toList.mp current)
  · rw [effect.roundId, effect.started, ← same]
    exact reported.currentStarted
  · intro round current
    rw [effect.roundId] at current
    simp [effect.crashedAt, effect.crashed, current]

/-- A step in a round keeps what was reported, by its effect. -/
theorem InRound.keeps {input : AdapterInput} (reported : RoundsReported adapter)
    (inRound : InRound adapter input)
    : RoundsReported (adapter.next input) := by
  cases next_effect reported.waits input with
  | kept _ _ effect => exact effect.reported reported
  | started round starts _ effect => exact effect.reported reported (inRound.1 round starts)
  | crashed spread _ crashes effect =>
      obtain ⟨same, uncrashed⟩ := inRound.2 spread crashes
      exact effect.reported reported same uncrashed

/-- Where no newer round is overwritten, a crash is written over the current round. -/
theorem ReportsOnce.current {input : AdapterInput} {spread : RoundState}
    (once : ReportsOnce adapter input) (waits : ∀ entry ∈ adapter.calls, Waits entry)
    (crashes : adapter.crashSpread input = some spread)
    (effect : RoundCrashed adapter spread (adapter.next input))
    : adapter.currentState.roundId = spread.roundId := by
  cases input with
  | snapshot snapshot =>
      simp only [GameAdapter.crashSpread] at crashes
      split at crashes
      · rw [Option.some_inj.mp crashes]
      · cases crashes
  | settle index answer =>
      obtain ⟨call, called, rfl, handles⟩ := crashSpread_settle waits crashes
      by_contra other
      have unchanged := once.2.2 index answer _ call rfl called handles other
      exact other (unchanged ▸ effect.roundId)

/-- What is wanted of a step is that it is in a round. -/
theorem reportsOnce_iff {input : AdapterInput} (reported : RoundsReported adapter)
    : ReportsOnce adapter input ↔ InRound adapter input := by
  constructor
  · intro once
    have startedOnce := once.1
    have crashedOnce := once.2.1
    cases next_effect reported.waits input with
    | kept starts crashes effect => simp [InRound, starts, crashes]
    | started round starts crashes effect =>
        rw [effect.started] at startedOnce
        have fresh : round ∉ adapter.startedRounds := (nodup_snoc.mp startedOnce).1
        simp [InRound, starts, crashes, fresh]
    | crashed spread starts crashes effect =>
        have same := once.current reported.waits crashes effect
        refine ⟨by simp [starts], ?_⟩
        intro state written
        obtain rfl : spread = state := Option.some_inj.mp (crashes.symm.trans written)
        refine ⟨same, ?_⟩
        cases current : adapter.currentState.roundId with
        | none => exact .inl rfl
        | some round =>
            rw [effect.crashed, ← same, current] at crashedOnce
            have fresh : round ∉ adapter.crashedRounds := (nodup_snoc.mp crashedOnce).1
            by_contra crashed
            exact fresh ((reported.currentCrashed round current).mp (by simpa using crashed))
  · intro inRound
    have kept := inRound.keeps reported
    refine ⟨kept.startedOnce, kept.crashedOnce, ?_⟩
    rintro index answer point call rfl called crashes newer
    apply settle_keeps_state reported.waits called crashes
    cases written : adapter.crashSpread (.settle index answer) with
    | none => rfl
    | some spread =>
        obtain ⟨handler, handled, rfl, _⟩ := crashSpread_settle reported.waits written
        obtain rfl : call = handler :=
          (Prod.mk.inj (Option.some_inj.mp (called.symm.trans handled))).2
        exact absurd (inRound.2 _ written).1 newer

/-- Along every run, every round is reported started once and crashed once and no crash is
written over a newer round, exactly when every step starts a new round and writes a crash over
the round that is current and has not crashed.
-/
theorem rounds_once_iff (inputs : List AdapterInput)
    : Runs.Always GameAdapter.next ReportsOnce {} inputs
      ↔ Runs.Always GameAdapter.next InRound {} inputs := by
  have initial : RoundsReported {} := by
    refine ⟨List.nodup_nil, List.nodup_nil, List.nil_subset _, ?_, ?_, ?_⟩ <;> simp
  apply Runs.always_iff_of_invariant _ _ inputs initial
  · intro adapter input reported
    exact reportsOnce_iff reported
  · intro adapter input reported inRound
    exact inRound.keeps reported

def shown (roundId : Option String) (phase : RoundPhase) (crashPoint : Option Number)
    : SourceSnapshot :=
  { source := "ws"
    roundId
    multiplier := none
    phase := some phase
    crashPoint
    timestamp := "2024-01-01T00:00:00.000Z"
    latencyMs := 0 }

/-- A round starts while the crash point of the last one is awaited. -/
def lateCrashPoint : List AdapterInput :=
  [.snapshot (shown (some "4711") .running none), .settle 0 (.fulfilled none),
    .snapshot (shown (some "4711") .crashed none), .snapshot (shown none .starting none),
    .snapshot (shown (some "4712") .running none), .settle 0 (.fulfilled none)]

/-- One source still shows a round as running after the other one has shown it idle. -/
def slowerSource : List AdapterInput :=
  [.snapshot (shown (some "4711") .running none), .snapshot (shown none .idle none),
    .snapshot (shown (some "4711") .running none)]

/-- Both sources show a crash, and one of them shows the next start in between. -/
def twoCrashes : List AdapterInput :=
  [.snapshot (shown (some "4711") .running none),
    .snapshot (shown (some "4711") .crashed (some 2)), .snapshot (shown none .starting none),
    .snapshot (shown (some "4711") .crashed (some 2))]

theorem rounds_repeat
    : (Runs.run GameAdapter.next {} lateCrashPoint).currentState.roundId = some "4711"
      ∧ ¬ Runs.Always GameAdapter.next ReportsOnce {} lateCrashPoint
      ∧ ¬ Runs.Always GameAdapter.next ReportsOnce {} slowerSource
      ∧ ¬ Runs.Always GameAdapter.next ReportsOnce {} twoCrashes := by
  refine ⟨by decide, ?_, ?_, ?_⟩
  · intro ⟨_, _, _, _, _, last, _⟩
    have kept := last.2.2 0 _ _ _ rfl rfl (by decide) (by decide)
    exact absurd (congrArg (·.roundId) kept) (by decide)
  · intro ⟨_, _, last, _⟩
    exact absurd last.1 (by decide)
  · intro ⟨_, _, _, last, _⟩
    exact absurd last.2.1 (by decide)

end CrashWave.Game
