import CrashWave.Persistence.RoundRepository
import CrashWave.Runs.Basic

/-! The handlers that persist rounds: each event of the bus starts one, and their queries are
executed, and answered, at any later time.
-/

namespace CrashWave.App

open JavaScript Persistence Runs

structure RoundStartedPayload where
  roundId : Option String
  sessionId : Option String := none
  startedAt : Option String := none

structure RoundCrashedPayload where
  roundId : Option String
  crashPoint : Option Number
  crashedAt : Option String := none

/-- What a crash handler has read from its payload. -/
structure CrashReport where
  roundId : String
  crashPoint : Number
  crashedAt : Option String

/-- A handler at its next query: which one has been sent, or which answer is on its way. -/
inductive RoundTask where
  | creating (input : CreateRoundInput)
  | finding (crash : CrashReport)
  | found (crash : CrashReport) (answer : Except String (Option RoundRecord))
  | updating (crash : CrashReport) (id : String) (input : UpdateRoundInput)

structure RoundPersistence where
  table : RoundTable
  tasks : List RoundTask

inductive RoundEvent where
  | started (payload : RoundStartedPayload) (now : String)
  | crashed (payload : RoundCrashedPayload)
  /-- The database executes the query of a handler; an insert gets an id and a time. -/
  | executed (index : Nat) (id : String) (createdAt : Int) (fails : Bool)
  /-- The answer reaches the handler. -/
  | answered (index : Nat) (now : String)

/-- The handler of `RoundStarted` up to its query. -/
def RoundPersistence.onRoundStarted (sessionId : String) (state : RoundPersistence)
    (payload : RoundStartedPayload) (now : String) : RoundPersistence :=
  match payload.roundId with
  | none => state
  | some roundId =>
      if roundId = "" then state
      else
        { state with tasks := state.tasks ++ [.creating {
          externalRoundId := roundId
          sessionId := payload.sessionId.getD sessionId
          startedAt := some (payload.startedAt.getD now)
          observationSource := some "session-supervisor"
          dataQuality := some "medium"
        }] }

/-- The handler of `RoundCrashed` up to its first query. -/
def RoundPersistence.onRoundCrashed (state : RoundPersistence) (payload : RoundCrashedPayload)
    : RoundPersistence :=
  match payload.roundId, payload.crashPoint with
  | some roundId, some crashPoint =>
      if roundId = "" then state
      else
        let crash := { roundId, crashPoint, crashedAt := payload.crashedAt }
        { state with tasks := state.tasks ++ [.finding crash] }
  | _, _ => state

/-- What the crash handler writes. -/
def CrashReport.input (crash : CrashReport) (now : String) : UpdateRoundInput where
  crashedAt := some (some (crash.crashedAt.getD now))
  observedCrashPoint := some (some crash.crashPoint)
  finalConfirmedCrashPoint := some (some crash.crashPoint)

/-- The database executes the query of the handler at `index`. After a create or an update the
handler only logs.
-/
def RoundPersistence.executed (state : RoundPersistence) (index : Nat) (id : String)
    (createdAt : Int) (fails : Bool) : RoundPersistence :=
  match state.tasks[index]? with
  | some (.creating input) =>
      {
        table := (state.table.create input id createdAt fails).1
        tasks := state.tasks.eraseIdx index
      }
  | some (.finding crash) =>
      let answer := state.table.findByExternalId crash.roundId fails
      { state with tasks := state.tasks.set index (.found crash answer) }
  | some (.updating _ id input) =>
      {
        table := (state.table.update id input fails).1
        tasks := state.tasks.eraseIdx index
      }
  | _ => state

/-- The crash handler goes on with the answer of its find: without a row it ends. -/
def RoundPersistence.answered (state : RoundPersistence) (index : Nat) (now : String)
    : RoundPersistence :=
  match state.tasks[index]? with
  | some (.found crash (.ok (some existing))) =>
      if existing.id = "" then { state with tasks := state.tasks.eraseIdx index }
      else
        { state with
          tasks := state.tasks.set index (.updating crash existing.id (crash.input now)) }
  | some (.found _ _) => { state with tasks := state.tasks.eraseIdx index }
  | _ => state

def RoundPersistence.next (sessionId : String) (state : RoundPersistence)
    : RoundEvent → RoundPersistence
  | .started payload now => state.onRoundStarted sessionId payload now
  | .crashed payload => state.onRoundCrashed payload
  | .executed index id createdAt fails => state.executed index id createdAt fails
  | .answered index now => state.answered index now

/-- The database answers no query with an error. -/
def NoDatabaseError (state : RoundPersistence) : RoundEvent → Prop
  | .executed index id createdAt fails =>
      match state.tasks[index]? with
      | some (.creating input) =>
          ∃ record, (state.table.create input id createdAt fails).2 = .ok record
      | some (.finding crash) =>
          ∃ record, state.table.findByExternalId crash.roundId fails = .ok record
      | some (.updating _ id input) =>
          ∃ record, (state.table.update id input fails).2 = .ok record
      | _ => True
  | _ => True

/-- The crash point was reported for the round. -/
def Reported (events : List RoundEvent) (roundId : String) (crashPoint : Number) : Prop :=
  ∃ crashedAt,
    .crashed { roundId := some roundId, crashPoint := some crashPoint, crashedAt } ∈ events

/-- A row of the round holds a crash point that was reported for it. -/
def Stored (points : String → Number → Prop) (roundId : String) (table : RoundTable) : Prop :=
  ∃ id row crashPoint, table.rows.get id = some row ∧ row.externalRoundId = roundId
    ∧ points roundId crashPoint ∧ row.observedCrashPoint = some crashPoint
    ∧ row.finalConfirmedCrashPoint = some crashPoint

/-- A crash handler of the round looks for a row while the table has one. -/
def FindsRound (roundId : String) (state : RoundPersistence) : RoundEvent → Prop
  | .executed index _ _ _ =>
      ∃ crash, state.tasks[index]? = some (.finding crash) ∧ crash.roundId = roundId
        ∧ state.table.Knows roundId
  | _ => False

-----------------------------------------------------------------------------------------
-- What handlers hold
-----------------------------------------------------------------------------------------

/-- What a handler has read: its crash point was reported, its row is one of its round, and an
insert has no crash point.
-/
def RoundTask.Sound (points : String → Number → Prop) (table : RoundTable) : RoundTask → Prop
  | .creating input => input.observedCrashPoint = none
  | .finding crash => points crash.roundId crash.crashPoint
  | .found crash answer =>
      points crash.roundId crash.crashPoint
      ∧ ∀ existing, answer = .ok (some existing) →
          existing.id ≠ "" ∧ table.Holds existing.id crash.roundId
  | .updating crash id input =>
      points crash.roundId crash.crashPoint ∧ table.Holds id crash.roundId
      ∧ ∃ now, input = crash.input now

/-- The handler has found a row of the round and will write to it. -/
def RoundTask.Carries (roundId : String) : RoundTask → Prop
  | .found crash (.ok (some _)) => crash.roundId = roundId
  | .updating crash _ _ => crash.roundId = roundId
  | _ => False

@[simp] theorem not_carries_creating (roundId : String) (input : CreateRoundInput)
    : ¬ (RoundTask.creating input).Carries roundId := id

@[simp] theorem not_carries_finding (roundId : String) (crash : CrashReport)
    : ¬ (RoundTask.finding crash).Carries roundId := id

@[simp] theorem not_carries_none (roundId : String) (crash : CrashReport)
    : ¬ (RoundTask.found crash (.ok none)).Carries roundId := id

@[simp] theorem carries_found {roundId : String} {crash : CrashReport} {existing : RoundRecord}
    : (RoundTask.found crash (.ok (some existing))).Carries roundId ↔ crash.roundId = roundId :=
  Iff.rfl

@[simp] theorem carries_updating {roundId id : String} {crash : CrashReport}
    {input : UpdateRoundInput}
    : (RoundTask.updating crash id input).Carries roundId ↔ crash.roundId = roundId :=
  Iff.rfl

/-- Every handler has read what is right. -/
def Consistent (points : String → Number → Prop) (state : RoundPersistence) : Prop :=
  ∀ task ∈ state.tasks, task.Sound points state.table

/-- The crash point is stored, or a handler will store it. -/
def Promised (points : String → Number → Prop) (roundId : String) (state : RoundPersistence)
    : Prop :=
  Stored points roundId state.table ∨ ∃ task ∈ state.tasks, task.Carries roundId

/-- The payload reports crash points among `points`. -/
def Among (points : String → Number → Prop) : RoundEvent → Prop
  | .crashed payload =>
      ∀ roundId crashPoint, payload.roundId = some roundId →
        payload.crashPoint = some crashPoint → points roundId crashPoint
  | _ => True

/-- What a step does: which handler it starts, or which it takes on and how. -/
inductive RoundEffect (points : String → Number → Prop) (state : RoundPersistence)
    : RoundEvent → RoundPersistence → Prop where
  | idle {event} (missed : ∀ roundId, ¬ FindsRound roundId state event)
    : RoundEffect points state event state
  | begun {event task} (sound : task.Sound points state.table)
    (fresh : ∀ roundId, ¬ task.Carries roundId)
    (missed : ∀ roundId, ¬ FindsRound roundId state event)
    : RoundEffect points state event { state with tasks := state.tasks ++ [task] }
  | created {event before after input id row table}
    (waiting : state.tasks = before ++ .creating input :: after)
    (new : state.table.rows.get id = none) (plain : row.observedCrashPoint = none)
    (written : table.rows = state.table.rows.set id row)
    (missed : ∀ roundId, ¬ FindsRound roundId state event)
    : RoundEffect points state event { table, tasks := before ++ after }
  | found {event before after crash existing}
    (waiting : state.tasks = before ++ .finding crash :: after)
    (named : existing.id ≠ "") (holds : state.table.Holds existing.id crash.roundId)
    (finds : ∀ roundId, FindsRound roundId state event ↔ crash.roundId = roundId)
    : RoundEffect points state event
        { state with tasks := before ++ .found crash (.ok (some existing)) :: after }
  | missed {event before after crash}
    (waiting : state.tasks = before ++ .finding crash :: after)
    (missed : ∀ roundId, ¬ FindsRound roundId state event)
    : RoundEffect points state event
        { state with tasks := before ++ .found crash (.ok none) :: after }
  | written {event before after crash id input table}
    (waiting : state.tasks = before ++ .updating crash id input :: after)
    (written : table.rows = state.table.rows.modify id fun row => row.updated input)
    (missed : ∀ roundId, ¬ FindsRound roundId state event)
    : RoundEffect points state event { table, tasks := before ++ after }
  | resumed {event before after crash existing now}
    (waiting : state.tasks = before ++ .found crash (.ok (some existing)) :: after)
    (missed : ∀ roundId, ¬ FindsRound roundId state event)
    : RoundEffect points state event
        { state with tasks := before ++ .updating crash existing.id (crash.input now) :: after }
  | ended {event before after task} (waiting : state.tasks = before ++ task :: after)
    (idle : ∀ roundId, ¬ task.Carries roundId)
    (missed : ∀ roundId, ¬ FindsRound roundId state event)
    : RoundEffect points state event { state with tasks := before ++ after }

variable {points : String → Number → Prop} {state : RoundPersistence} {sessionId : String}

theorem effect_executed {index : Nat} {id : String} {createdAt : Int} {fails : Bool}
    (consistent : Consistent points state)
    (clean : NoDatabaseError state (.executed index id createdAt fails))
    : RoundEffect points state (.executed index id createdAt fails)
        (state.executed index id createdAt fails) := by
  have missed (others : ∀ crash, state.tasks[index]? ≠ some (.finding crash)) (roundId : String)
      : ¬ FindsRound roundId state (.executed index id createdAt fails) := by
    intro finds
    obtain ⟨crash, waiting, _⟩ := finds
    exact others crash waiting
  unfold RoundPersistence.executed
  unfold NoDatabaseError at clean
  cases waiting : state.tasks[index]? with
  | none => exact .idle (missed (by simp [waiting]))
  | some task =>
      have member : task ∈ state.tasks := List.mem_of_getElem? waiting
      cases task with
      | creating input =>
          simp only [waiting] at clean ⊢
          obtain ⟨record, created⟩ := clean
          obtain ⟨before, after, split, _, erased⟩ := exists_around waiting (.creating input)
          obtain ⟨new, written⟩ := create_ok created
          have plain : (input.row id createdAt).observedCrashPoint = none := consistent _ member
          rw [erased]
          exact .created split new plain written (missed (by simp [waiting]))
      | finding crash =>
          simp only [waiting] at clean ⊢
          obtain ⟨record, succeeded⟩ := clean
          have succeeds : fails = false := by
            cases fails
            · rfl
            · cases succeeded
          subst succeeds
          have finds (roundId : String)
              : FindsRound roundId state (.executed index id createdAt false)
                ↔ crash.roundId = roundId ∧ state.table.Knows roundId := by
            simp [FindsRound, waiting]
          obtain ⟨before, after, split, replaced, _⟩ := exists_around waiting
            (.found crash (state.table.findByExternalId crash.roundId false))
          rw [replaced]
          rcases findByExternalId_spec state.table crash.roundId with
            ⟨known, existing, answer, named, holds⟩ | ⟨unknown, answer⟩
          · rw [answer]
            refine .found split named holds ?_
            intro roundId
            rw [finds]
            constructor
            · intro both
              exact both.1
            · intro same
              exact ⟨same, same ▸ known⟩
          · rw [answer]
            refine .missed split ?_
            intro roundId both
            obtain ⟨rfl, known⟩ := (finds roundId).mp both
            exact unknown known
      | found crash answer =>
          simp only
          exact .idle (missed (by simp [waiting]))
      | updating crash target input =>
          simp only [waiting] at clean ⊢
          obtain ⟨record, updated⟩ := clean
          obtain ⟨before, after, split, _, erased⟩ :=
            exists_around waiting (.updating crash target input)
          obtain ⟨_, _, now, rfl⟩ := consistent _ member
          rw [erased]
          exact .written split (update_ok rfl updated) (missed (by simp [waiting]))

theorem effect_answered {index : Nat} {now : String} (consistent : Consistent points state)
    : RoundEffect points state (.answered index now) (state.answered index now) := by
  have missed (roundId : String) : ¬ FindsRound roundId state (.answered index now) := id
  unfold RoundPersistence.answered
  split
  · next crash existing waiting =>
      obtain ⟨before, after, split, replaced, _⟩ := exists_around waiting
        (.updating crash existing.id (crash.input now))
      have named : existing.id ≠ "" :=
        ((consistent _ (List.mem_of_getElem? waiting)).2 existing rfl).1
      rw [if_neg named, replaced]
      exact .resumed split missed
  · next crash answer rowless waiting =>
      obtain ⟨before, after, split, _, erased⟩ := exists_around waiting (.found crash answer)
      rw [erased]
      refine .ended split ?_ missed
      intro roundId carries
      cases answer with
      | error code => exact carries
      | ok existing =>
          cases existing with
          | none => exact carries
          | some existing => exact rowless existing rfl
  · exact .idle missed

theorem effect_started (payload : RoundStartedPayload) (now : String)
    : RoundEffect points state (.started payload now)
        (state.onRoundStarted sessionId payload now) := by
  unfold RoundPersistence.onRoundStarted
  split
  · exact .idle fun _ => id
  · split
    · exact .idle fun _ => id
    · exact .begun rfl (fun _ => id) fun _ => id

theorem effect_crashed {payload : RoundCrashedPayload}
    (among : Among points (.crashed payload))
    : RoundEffect points state (.crashed payload) (state.onRoundCrashed payload) := by
  unfold RoundPersistence.onRoundCrashed
  split
  · next roundId crashPoint named reported =>
      split
      · exact .idle fun _ => id
      · exact .begun (among roundId crashPoint named reported) (fun _ => id) fun _ => id
  · exact .idle fun _ => id

/-- Every step without a database error has one of the effects. -/
theorem effect_next {event : RoundEvent} (consistent : Consistent points state)
    (clean : NoDatabaseError state event) (among : Among points event)
    : RoundEffect points state event (state.next sessionId event) := by
  cases event with
  | started payload now => exact effect_started payload now
  | crashed payload => exact effect_crashed among
  | executed index id createdAt fails => exact effect_executed consistent clean
  | answered index now => exact effect_answered consistent

-----------------------------------------------------------------------------------------
-- What every step keeps
-----------------------------------------------------------------------------------------

/-- A step keeps the rows at their ids, with the rounds they are of. -/
theorem RoundEffect.holds {event : RoundEvent} {after : RoundPersistence}
    (effect : RoundEffect points state event after) {id roundId : String}
    (holds : state.table.Holds id roundId)
    : after.table.Holds id roundId := by
  obtain ⟨row, stored, same⟩ := holds
  cases effect with
  | @created before rest input fresh other table waiting new plain written missed =>
      have different : id ≠ fresh := by
        intro equal
        rw [equal, new] at stored
        cases stored
      exact ⟨row, by rw [written, Map.get_set_of_ne _ _ different, stored], same⟩
  | @written before rest crash target input table waiting written missed =>
      by_cases here : id = target
      · refine ⟨row.updated input, ?_, same⟩
        rw [here] at stored ⊢
        simp [written, Map.get_modify, stored]
      · refine ⟨row, ?_, same⟩
        simp [written, Map.get_modify, stored, here]
  | _ => exact ⟨row, stored, same⟩

theorem RoundTask.Sound.of_holds {task : RoundTask} {table other : RoundTable}
    (sound : task.Sound points table)
    (kept : ∀ id roundId, table.Holds id roundId → other.Holds id roundId)
    : task.Sound points other := by
  cases task with
  | creating input => exact sound
  | finding crash => exact sound
  | found crash answer =>
      refine ⟨sound.1, ?_⟩
      intro existing answered
      obtain ⟨named, holds⟩ := sound.2 existing answered
      exact ⟨named, kept _ _ holds⟩
  | updating crash id input => exact ⟨sound.1, kept _ _ sound.2.1, sound.2.2⟩

/-- Every step keeps what the handlers have read right. -/
theorem RoundEffect.consistent {event : RoundEvent} {after : RoundPersistence}
    (effect : RoundEffect points state event after) (consistent : Consistent points state)
    : Consistent points after := by
  have old : ∀ task ∈ state.tasks, task.Sound points after.table := by
    intro task member
    exact (consistent task member).of_holds fun _ _ holds => effect.holds holds
  -- the tasks after the step are old ones, but for the one that was begun or taken on
  have others {before rest : List RoundTask} {task : RoundTask}
      (waiting : state.tasks = before ++ task :: rest)
      : ∀ other ∈ before ++ rest, other.Sound points after.table := by
    intro other member
    refine old other ?_
    rw [waiting]
    exact List.mem_append.mpr ((List.mem_append.mp member).imp_right (List.mem_cons_of_mem _))
  have replaced {before rest : List RoundTask} {task new : RoundTask}
      (waiting : state.tasks = before ++ task :: rest) (sound : new.Sound points after.table)
      : ∀ other ∈ before ++ new :: rest, other.Sound points after.table := by
    intro other member
    rcases List.mem_append.mp member with earlier | later
    · exact others waiting other (List.mem_append_left _ earlier)
    · rcases List.mem_cons.mp later with rfl | further
      · exact sound
      · exact others waiting other (List.mem_append_right _ further)
  cases effect with
  | idle missed => exact consistent
  | begun sound fresh missed =>
      intro task member
      rcases List.mem_append.mp member with earlier | new
      · exact old task earlier
      · exact (List.mem_singleton.mp new) ▸ sound
  | created waiting new plain written missed => exact others waiting
  | @found before rest crash existing waiting named holds finds =>
      have sound : (RoundTask.finding crash).Sound points state.table :=
        old _ (by simp [waiting])
      refine replaced waiting ⟨sound, ?_⟩
      intro answered same
      cases same
      exact ⟨named, holds⟩
  | @missed before rest crash waiting missed =>
      have sound : (RoundTask.finding crash).Sound points state.table :=
        old _ (by simp [waiting])
      refine replaced waiting ⟨sound, ?_⟩
      intro answered same
      cases same
  | written waiting written missed => exact others waiting
  | @resumed before rest crash existing now waiting missed =>
      have sound : (RoundTask.found crash (.ok (some existing))).Sound points state.table :=
        old _ (by simp [waiting])
      exact replaced waiting ⟨sound.1, (sound.2 existing rfl).2, now, rfl⟩
  | ended waiting idle missed => exact others waiting

/-- A new row without a crash point stores none. -/
theorem stored_set_iff {table other : RoundTable} {id : String} {row : RoundRecord}
    (new : table.rows.get id = none) (plain : row.observedCrashPoint = none)
    (written : other.rows = table.rows.set id row) (roundId : String)
    : Stored points roundId other ↔ Stored points roundId table := by
  unfold Stored
  rw [written]
  constructor
  · intro stored
    obtain ⟨key, held, crashPoint, found, same, known, observed, confirmed⟩ := stored
    by_cases here : key = id
    · rw [here, Map.get_set_self] at found
      rw [← Option.some_inj.mp found, plain] at observed
      cases observed
    · rw [Map.get_set_of_ne _ _ here] at found
      exact ⟨key, held, crashPoint, found, same, known, observed, confirmed⟩
  · intro stored
    obtain ⟨key, held, crashPoint, found, fields⟩ := stored
    have different : key ≠ id := by
      intro equal
      rw [equal, new] at found
      cases found
    exact ⟨key, held, crashPoint, (Map.get_set_of_ne _ _ different).trans found, fields⟩

/-- The write of a crash handler stores a crash point of its round and touches no other round. -/
theorem stored_modify_iff {table other : RoundTable} {crash : CrashReport} {id now : String}
    (reported : points crash.roundId crash.crashPoint) (holds : table.Holds id crash.roundId)
    (written : other.rows = table.rows.modify id fun row => row.updated (crash.input now))
    (roundId : String)
    : Stored points roundId other ↔ Stored points roundId table ∨ crash.roundId = roundId := by
  obtain ⟨row, here, same⟩ := holds
  have target : other.rows.get id = some (row.updated (crash.input now)) := by
    simp [written, Map.get_modify, here]
  have elsewhere {key : String} (different : key ≠ id)
      : other.rows.get key = table.rows.get key := by
    simp [written, Map.get_modify, different]
  constructor
  · intro stored
    obtain ⟨key, held, crashPoint, found, ofRound, fields⟩ := stored
    by_cases equal : key = id
    · rw [equal, target] at found
      right
      rw [← ofRound, ← Option.some_inj.mp found]
      exact same.symm
    · exact .inl ⟨key, held, crashPoint, (elsewhere equal).symm.trans found, ofRound, fields⟩
  · have now' : Stored points crash.roundId other :=
      ⟨id, row.updated (crash.input now), crash.crashPoint, target, same, reported, rfl, rfl⟩
    intro cases
    rcases cases with stored | rfl
    · obtain ⟨key, held, crashPoint, found, ofRound, fields⟩ := stored
      by_cases equal : key = id
      · rw [equal, here] at found
        obtain rfl := Option.some_inj.mp found
        obtain rfl : crash.roundId = roundId := same.symm.trans ofRound
        exact now'
      · exact ⟨key, held, crashPoint, (elsewhere equal).trans found, ofRound, fields⟩
    · exact now'

/-- A step makes a round's crash point promised exactly when a handler of the round finds it. -/
theorem RoundEffect.promised_iff {event : RoundEvent} {after : RoundPersistence}
    (effect : RoundEffect points state event after) (consistent : Consistent points state)
    (roundId : String)
    : Promised points roundId after
      ↔ Promised points roundId state ∨ FindsRound roundId state event := by
  unfold Promised
  cases effect with
  | idle missed => simp [missed roundId]
  | begun sound fresh missed =>
      simp [missed roundId, fresh roundId, or_and_right, exists_or]
  | created waiting new plain written missed =>
      rw [stored_set_iff new plain written, waiting]
      simp [missed roundId, or_and_right, exists_or]
  | found waiting named holds finds =>
      rw [waiting, finds roundId]
      simp [or_and_right, exists_or]
      grind
  | missed waiting missed =>
      rw [waiting]
      simp [missed roundId, or_and_right, exists_or]
  | @written before rest crash id input table waiting written missed =>
      obtain ⟨reported, holds, now, rfl⟩ :=
        consistent (.updating crash id input) (by simp [waiting])
      rw [stored_modify_iff reported holds written, waiting]
      simp [missed roundId, or_and_right, exists_or]
      grind
  | resumed waiting missed =>
      rw [waiting]
      simp [missed roundId, or_and_right, exists_or]
  | ended waiting idle missed =>
      rw [waiting]
      simp [missed roundId, idle roundId, or_and_right, exists_or]

-----------------------------------------------------------------------------------------
-- Which rounds end with their crash point stored
-----------------------------------------------------------------------------------------

/-- The steps of a run without database errors report the crash points that its events name. -/
theorem among_reported {events : List RoundEvent} {event : RoundEvent} (member : event ∈ events)
    : Among (Reported events) event := by
  cases event with
  | crashed payload =>
      intro roundId crashPoint named reported
      refine ⟨payload.crashedAt, ?_⟩
      obtain ⟨_, _, crashedAt⟩ := payload
      cases named
      cases reported
      exact member
  | _ => trivial

/-- The round was reported as started and later as crashed, with a crash point. -/
def StartedThenCrashed (events : List RoundEvent) (roundId : String) : Prop :=
  ∃ before between after started crashed now crashPoint,
    events = before ++ .started started now :: between ++ .crashed crashed :: after
    ∧ roundId ≠ "" ∧ started.roundId = some roundId ∧ crashed.roundId = some roundId
    ∧ crashed.crashPoint = some crashPoint

section Runs

variable (sessionId : String) (table : RoundTable) (events : List RoundEvent)

/-- The state after the events, from one in which no handler is at work. -/
def RoundPersistence.after : RoundPersistence :=
  run (RoundPersistence.next sessionId) ⟨table, []⟩ events

/-- A crash handler of the round looks for a row, at some step of the run, while the table has
one.
-/
def FindsRow (roundId : String) : Prop :=
  ∃ before event after, events = before ++ event :: after
    ∧ FindsRound roundId (.after sessionId table before) event

/-- A round ends with a crash point of its own stored exactly when one was stored before, or a
crash handler of the round found its row.
-/
theorem stored_iff
    (clean : Always (RoundPersistence.next sessionId) NoDatabaseError ⟨table, []⟩ events)
    (finished : (RoundPersistence.after sessionId table events).tasks = []) (roundId : String)
    : Stored (Reported events) roundId (RoundPersistence.after sessionId table events).table
      ↔ Stored (Reported events) roundId table ∨ FindsRow sessionId table events roundId := by
  have among : Always (RoundPersistence.next sessionId)
      (fun _ event => Among (Reported events) event) ⟨table, []⟩ events :=
    .of_forall_mem fun event member _ => among_reported member
  have initial : Consistent (Reported events) ⟨table, []⟩ := by
    intro task member
    cases member
  have latches (state : RoundPersistence) (event : RoundEvent)
      (consistent : Consistent (Reported events) state)
      (lawful : NoDatabaseError state event ∧ Among (Reported events) event)
      : Promised (Reported events) roundId (state.next sessionId event)
        ↔ Promised (Reported events) roundId state ∨ FindsRound roundId state event :=
    (effect_next consistent lawful.1 lawful.2).promised_iff consistent roundId
  have latched := (clean.and among).run_iff_triggered
    (fun state event consistent lawful =>
      (effect_next consistent lawful.1 lawful.2).consistent consistent) latches initial
  have start : Promised (Reported events) roundId ⟨table, []⟩
      ↔ Stored (Reported events) roundId table := by
    simp [Promised]
  have final : Promised (Reported events) roundId (.after sessionId table events)
      ↔ Stored (Reported events) roundId
          (RoundPersistence.after sessionId table events).table := by
    simp [Promised, finished]
  rw [← final, RoundPersistence.after, latched, start]
  rfl

/-- In a run that ends with all handlers finished, without an error of the database, every round
that was reported as started and later as crashed has its crash point stored exactly when each
had it before or one of its crash handlers looked for its row after it was inserted.
-/
theorem crash_points_stored_iff
    (clean : Always (RoundPersistence.next sessionId) NoDatabaseError ⟨table, []⟩ events)
    (finished : (RoundPersistence.after sessionId table events).tasks = [])
    : (∀ roundId, StartedThenCrashed events roundId →
        Stored (Reported events) roundId (RoundPersistence.after sessionId table events).table)
      ↔ ∀ roundId, StartedThenCrashed events roundId →
          Stored (Reported events) roundId table ∨ FindsRow sessionId table events roundId := by
  refine forall₂_congr ?_
  intro roundId reported
  exact stored_iff sessionId table events clean finished roundId

end Runs

def emptyTable : RoundTable := { rows := ∅, named := rfl }

/-- The row is inserted before the crash handler looks for it. -/
def insertFirst : List RoundEvent :=
  [.started { roundId := some "4711" } "t0", .executed 0 "a1" 0 false,
    .crashed { roundId := some "4711", crashPoint := some 2 }, .executed 0 "" 1 false,
    .answered 0 "t1", .executed 0 "" 2 false]

theorem insertFirst_stored
    : Stored (Reported insertFirst) "4711"
        (RoundPersistence.after "s1" emptyTable insertFirst).table := by
  have clean : Always (RoundPersistence.next "s1") NoDatabaseError ⟨emptyTable, []⟩
      insertFirst :=
    ⟨trivial, ⟨_, rfl⟩, trivial, ⟨_, rfl⟩, trivial, ⟨_, rfl⟩, trivial⟩
  have reported : StartedThenCrashed insertFirst "4711" :=
    ⟨[], [.executed 0 "a1" 0 false], insertFirst.drop 3, { roundId := some "4711" },
      { roundId := some "4711", crashPoint := some 2 }, "t0", 2, rfl, by decide, rfl, rfl, rfl⟩
  refine (crash_points_stored_iff "s1" emptyTable insertFirst clean rfl).mpr ?_ "4711" reported
  intro roundId reported
  obtain ⟨before, between, after, started, crashed, now, crashPoint, split, _, _, named, _⟩ :=
    reported
  have member : RoundEvent.crashed crashed ∈ insertFirst := by simp [split]
  obtain rfl : roundId = "4711" := by
    simp only [insertFirst, List.mem_cons, RoundEvent.crashed.injEq, reduceCtorEq, false_or,
      List.not_mem_nil, or_false] at member
    rw [member] at named
    exact (Option.some_inj.mp named).symm
  exact .inr ⟨insertFirst.take 3, _, insertFirst.drop 4, rfl,
    ⟨"4711", 2, none⟩, rfl, rfl, "a1", _, rfl, rfl⟩

/-- The crash handler looks for the row before it is inserted. -/
def findFirst : List RoundEvent :=
  [.started { roundId := some "4711" } "t0",
    .crashed { roundId := some "4711", crashPoint := some 2 }, .executed 1 "" 0 false,
    .answered 1 "t1", .executed 0 "a1" 1 false]

/-- Then the crash point is stored nowhere, although no query fails. -/
theorem findFirst_loses_crash
    : Always (RoundPersistence.next "s1") NoDatabaseError ⟨emptyTable, []⟩ findFirst
      ∧ (RoundPersistence.after "s1" emptyTable findFirst).tasks = []
      ∧ StartedThenCrashed findFirst "4711"
      ∧ ¬ Stored (Reported findFirst) "4711"
          (RoundPersistence.after "s1" emptyTable findFirst).table := by
  refine ⟨⟨trivial, trivial, ⟨_, rfl⟩, trivial, ⟨_, rfl⟩, trivial⟩, rfl, ?_, ?_⟩
  · exact ⟨[], [], findFirst.drop 2, _, _, "t0", 2, rfl, by decide, rfl, rfl, rfl⟩
  · intro stored
    obtain ⟨id, row, crashPoint, found, _, _, observed, _⟩ := stored
    have plain : ∀ entry ∈ (RoundPersistence.after "s1" emptyTable findFirst).table.rows.entries,
        entry.2.observedCrashPoint = none := by decide +kernel
    rw [plain (id, row) (Map.mem_entries_iff.mpr found)] at observed
    cases observed

end CrashWave.App
