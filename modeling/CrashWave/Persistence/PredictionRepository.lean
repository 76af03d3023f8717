import CrashWave.JavaScript.Double
import CrashWave.JavaScript.FixedPoint
import CrashWave.JavaScript.Map
import CrashWave.JavaScript.Number
import CrashWave.Merges.Basic

/-! The outcomes of predictions in the database and in memory, under the calls of the decision and
of the crash. Generated ids and times are left out, and of a prediction what no outcome reads.
A finite number is written as the decimal of its double.
-/

namespace CrashWave.Persistence

open JavaScript Merges

/-- A row of `prediction_outcomes`, and a record in memory. -/
structure PredictionOutcomeRecord where
  predictionId : String
  roundId : Option String
  riskApproved : Option Bool
  riskRejectionReason : Option String
  betExecuted : Bool
  actualCrashPoint : Option Number
  thresholdHit : Option Bool
  predictionCorrect : Option Bool
  probabilityError : Option Number
  absoluteError : Option Number
  deriving DecidableEq

/-- `ResolveOutcomeInput`; a missing field and one that is null are read alike. -/
structure ResolveOutcomeInput where
  predictionId : String
  roundId : Option String := none
  riskApproved : Option Bool := none
  riskRejectionReason : Option String := none
  betExecuted : Option Bool := none
  actualCrashPoint : Option Number := none
  targetThreshold : Number

/-- What a column `NUMERIC(18, 8)` gives back for a number; nothing where it refuses it. -/
def column : Number → Option Number
  | .finite value =>
      let stored := toFixedSigned 8 value
      if |stored| < 10 ^ 10 then some (.finite stored) else none
  | .infinity _ => none
  | .nan => some .nan

/-- `probability - (hit ? 1 : 0)`. -/
def errorOf (probability : Number) (hit : Bool) : Number :=
  match probability with
  | .finite value => .finite (subtract value (if hit then 1 else 0))
  | other => other

/-- The values of one call, for a prediction of this probability. -/
def ResolveOutcomeInput.values (input : ResolveOutcomeInput) (probability : Option Number)
    : PredictionOutcomeRecord :=
  let hit := input.actualCrashPoint.map fun point => decide (input.targetThreshold ≤ point)
  let probabilityError := probability.bind fun estimate => hit.map (errorOf estimate)
  {
    predictionId := input.predictionId
    roundId := input.roundId
    riskApproved := input.riskApproved
    riskRejectionReason := input.riskRejectionReason
    betExecuted := input.betExecuted.getD false
    actualCrashPoint := input.actualCrashPoint
    thresholdHit := hit
    predictionCorrect := hit
    probabilityError
    absoluteError := probabilityError.map Number.abs
  }

/-- A value in a column that may be null. -/
def nullable : Option Number → Option (Option Number)
  | none => some none
  | some value => (column value).map some

/-- The values as the columns hold them, if they take them all. -/
def PredictionOutcomeRecord.columns (values : PredictionOutcomeRecord)
    : Option PredictionOutcomeRecord := do
  let actualCrashPoint ← nullable values.actualCrashPoint
  let probabilityError ← nullable values.probabilityError
  let absoluteError ← nullable values.absoluteError
  some { values with actualCrashPoint, probabilityError, absoluteError }

/-- `ON CONFLICT (prediction_id) DO UPDATE`. -/
def PredictionOutcomeRecord.updated (row excluded : PredictionOutcomeRecord)
    : PredictionOutcomeRecord :=
  { row with
    riskApproved := excluded.riskApproved.or row.riskApproved
    riskRejectionReason := excluded.riskRejectionReason.or row.riskRejectionReason
    betExecuted := excluded.betExecuted
    actualCrashPoint := excluded.actualCrashPoint.or row.actualCrashPoint
    thresholdHit := excluded.thresholdHit.or row.thresholdHit
    predictionCorrect := excluded.predictionCorrect.or row.predictionCorrect
    probabilityError := excluded.probabilityError.or row.probabilityError
    absoluteError := excluded.absoluteError.or row.absoluteError }

/-- The row after the insertion of these values. -/
def upsert (row : Option PredictionOutcomeRecord) (values : PredictionOutcomeRecord)
    : PredictionOutcomeRecord :=
  match row with
  | none => values
  | some row => row.updated values

/-- `mapOutcome`: an empty text is read as null. -/
def mapOutcome (row : PredictionOutcomeRecord) : PredictionOutcomeRecord :=
  { row with
    roundId := row.roundId.filter (· ≠ "")
    riskRejectionReason := row.riskRejectionReason.filter (· ≠ "") }

/-- The tables behind the repository: the probabilities of the predictions as their column holds
them, the ids of the rounds and the outcomes.
-/
structure PredictionRepository where
  predictions : Map String Number
  rounds : List String
  outcomes : Map String PredictionOutcomeRecord := ∅

namespace PredictionRepository

variable (repo : PredictionRepository)

/-- The tables after the call, and its result; nothing where a column or a foreign key refuses the
row.
-/
def resolveOutcome (input : ResolveOutcomeInput)
    : Option (PredictionRepository × PredictionOutcomeRecord) := do
  let values ← (input.values (repo.predictions.get input.predictionId)).columns
  if repo.predictions.has input.predictionId
      ∧ ∀ round ∈ input.roundId, round ∈ repo.rounds then
    let row := upsert (repo.outcomes.get input.predictionId) values
    some ({ repo with outcomes := repo.outcomes.set input.predictionId row }, mapOutcome row)
  else none

/-- Callers log a failure. -/
def attempt (input : ResolveOutcomeInput) : PredictionRepository :=
  match repo.resolveOutcome input with
  | none => repo
  | some (after, _) => after

end PredictionRepository

structure InMemoryPredictionRepository where
  predictions : Map String Number
  outcomes : Map String PredictionOutcomeRecord := ∅

namespace InMemoryPredictionRepository

variable (repo : InMemoryPredictionRepository)

def resolveOutcome (input : ResolveOutcomeInput)
    : InMemoryPredictionRepository × PredictionOutcomeRecord :=
  let record := input.values (repo.predictions.get input.predictionId)
  ({ repo with outcomes := repo.outcomes.set input.predictionId record }, record)

end InMemoryPredictionRepository

-----------------------------------------------------------------------------------------
-- The two callers
-----------------------------------------------------------------------------------------

/-- A call of `persistAsync` or of `resolveActualOutcome`. -/
inductive OutcomeCall where
  | decision (roundId : String) (approved : Bool) (rejectionReason : Option String)
      (target : Number)
  | crash (roundId : Option String) (actualCrashPoint targetThreshold : Number)
      (betExecuted : Option Bool)
  deriving DecidableEq

namespace OutcomeCall

def input (predictionId : String) : OutcomeCall → ResolveOutcomeInput
  | .decision roundId approved rejectionReason target =>
      {
        predictionId
        roundId
        riskApproved := approved
        riskRejectionReason := rejectionReason
        betExecuted := false
        targetThreshold := target
      }
  | .crash roundId actualCrashPoint targetThreshold betExecuted =>
      {
        predictionId
        roundId
        actualCrashPoint
        targetThreshold
        betExecuted := betExecuted.getD false
      }

def roundId : OutcomeCall → Option String
  | .decision roundId _ _ _ => roundId
  | .crash roundId _ _ _ => roundId

def isDecision : OutcomeCall → Bool
  | .decision _ _ _ _ => true
  | .crash _ _ _ _ => false

/-- The verdict and the reason that a decision tells. -/
def verdict : OutcomeCall → Option (Bool × Option String)
  | .decision _ approved rejectionReason _ => some (approved, rejectionReason)
  | .crash _ _ _ _ => none

/-- The crash point and the threshold that a crash tells. -/
def result : OutcomeCall → Option (Number × Number)
  | .decision _ _ _ _ => none
  | .crash _ actualCrashPoint targetThreshold _ => some (actualCrashPoint, targetThreshold)

def saysExecuted : OutcomeCall → Bool
  | .decision _ _ _ _ => false
  | .crash _ _ _ betExecuted => betExecuted.getD false

end OutcomeCall

/-- The calls about a prediction. -/
def callsOf (predictionId : String) (calls : List (String × OutcomeCall)) : List OutcomeCall :=
  (calls.filter fun call => call.1 = predictionId).map (·.2)

def PredictionRepository.run (repo : PredictionRepository) (calls : List (String × OutcomeCall))
    : PredictionRepository :=
  calls.foldl (fun repo call => repo.attempt (call.2.input call.1)) repo

def InMemoryPredictionRepository.run (repo : InMemoryPredictionRepository)
    (calls : List (String × OutcomeCall)) : InMemoryPredictionRepository :=
  calls.foldl (fun repo call => (repo.resolveOutcome (call.2.input call.1)).1) repo

-----------------------------------------------------------------------------------------
-- What a call tells
-----------------------------------------------------------------------------------------

/-- The crash reached the threshold. -/
def hits (result : Number × Number) : Bool := result.2 ≤ result.1

/-- A crash in an outcome: its point, whether it hit, and the error of the probability. -/
structure CrashResult where
  point : Number
  hit : Bool
  error : Number

/-- The result as the columns hold it. -/
def CrashResult.columns (result : CrashResult) : Option CrashResult := do
  let point ← column result.point
  let error ← column result.error
  some { result with point, error }

/-- The outcome that tells this of a prediction. -/
def outcomeOf (predictionId : String) (roundId : Option String) (approved : Option Bool)
    (rejectionReason : Option String) (betExecuted : Bool) (crash : Option CrashResult)
    : PredictionOutcomeRecord where
  predictionId
  roundId
  riskApproved := approved
  riskRejectionReason := rejectionReason
  betExecuted
  actualCrashPoint := crash.map (·.point)
  thresholdHit := crash.map (·.hit)
  predictionCorrect := crash.map (·.hit)
  probabilityError := crash.map (·.error)
  absoluteError := crash.map (·.error.abs)

namespace OutcomeCall

/-- The values of a call about a prediction of this probability. -/
def values (predictionId : String) (probability : Number) (call : OutcomeCall)
    : PredictionOutcomeRecord :=
  (call.input predictionId).values (some probability)

/-- The reason that a call tells. -/
def rejectionReason (call : OutcomeCall) : Option String := call.verdict.bind (·.2)

/-- The crash that a call tells, for a prediction of this probability. -/
def told (probability : Number) (call : OutcomeCall) : Option CrashResult :=
  call.result.map fun result =>
    { point := result.1, hit := hits result, error := errorOf probability (hits result) }

/-- What the columns keep of it. -/
def kept (stored : Number) (call : OutcomeCall) : Option CrashResult :=
  (call.told stored).bind CrashResult.columns

/-- The row of a call alone. -/
def row (predictionId : String) (stored : Number) (call : OutcomeCall) : PredictionOutcomeRecord :=
  outcomeOf predictionId call.roundId (call.verdict.map (·.1)) call.rejectionReason
    call.saysExecuted (call.kept stored)

/-- The tables take a call about a stored round, if about any, where its numbers fit the columns. -/
def taken (rounds : List String) (stored : Number) (call : OutcomeCall) : Bool :=
  (∀ round ∈ call.roundId, round ∈ rounds)
  ∧ ∀ result ∈ call.told stored, result.columns.isSome

end OutcomeCall

variable {repo : PredictionRepository} {memory : InMemoryPredictionRepository}
  {predictionId other : String} {probability stored : Number} {rounds : List String}
  {call first last : OutcomeCall} {calls : List OutcomeCall}

theorem column_abs (value : Number) : column value.abs = (column value).map Number.abs := by
  cases value with
  | finite value =>
      simp only [Number.abs, column, toFixedSigned_abs, abs_abs]
      split <;> rfl
  | infinity negative => rfl
  | nan => rfl

/-- What a column gave back comes back unchanged. -/
theorem column_column {value held : Number} (holds : column value = some held)
    : column held = some held := by
  cases value with
  | finite value =>
      simp only [column] at holds
      split at holds
      case isTrue fits =>
        obtain rfl := Option.some_inj.mp holds
        simp only [column, toFixedSigned_eq_self toFixedSigned_onScale, if_pos fits]
      case isFalse => cases holds
  | infinity negative => cases holds
  | nan =>
      obtain rfl := Option.some_inj.mp holds
      rfl

theorem CrashResult.columns_eq_some_iff {result held : CrashResult}
    : result.columns = some held
      ↔ column result.point = some held.point ∧ result.hit = held.hit
        ∧ column result.error = some held.error := by
  obtain ⟨point, hit, error⟩ := result
  obtain ⟨point', hit', error'⟩ := held
  simp only [columns]
  cases column point <;> cases column error <;> simp

/-- The columns change the numbers of a crash only. -/
theorem outcomeOf_columns (predictionId : String) (roundId : Option String)
    (approved : Option Bool) (rejectionReason : Option String) (betExecuted : Bool)
    (crash : Option CrashResult)
    : (outcomeOf predictionId roundId approved rejectionReason betExecuted crash).columns
      = match crash with
        | none =>
            some (outcomeOf predictionId roundId approved rejectionReason betExecuted none)
        | some result => result.columns.map fun result =>
            outcomeOf predictionId roundId approved rejectionReason betExecuted (some result) := by
  cases crash with
  | none => rfl
  | some result =>
      simp only [PredictionOutcomeRecord.columns, CrashResult.columns, outcomeOf, Option.map_some,
        nullable, column_abs]
      cases column result.point <;> cases column result.error <;> rfl

theorem values_eq (predictionId : String) (probability : Number) (call : OutcomeCall)
    : call.values predictionId probability
      = outcomeOf predictionId call.roundId (call.verdict.map (·.1)) call.rejectionReason
          call.saysExecuted (call.told probability) := by
  cases call with
  | decision roundId approved rejectionReason target => rfl
  | crash roundId actualCrashPoint targetThreshold betExecuted => rfl

/-- What the columns hold of the values of a call. -/
theorem values_columns (predictionId : String) (stored : Number) (call : OutcomeCall)
    : (call.values predictionId stored).columns
      = if ∀ result ∈ call.told stored, result.columns.isSome
        then some (call.row predictionId stored) else none := by
  rw [values_eq, outcomeOf_columns, OutcomeCall.row, OutcomeCall.kept]
  cases call.told stored with
  | none => exact (if_pos fun _ none => nomatch none).symm
  | some result => cases held : result.columns <;> simp [held]

theorem taken_iff
    : call.taken rounds stored = true
      ↔ (∀ round ∈ call.roundId, round ∈ rounds)
        ∧ ∀ result ∈ call.told stored, result.columns.isSome :=
  decide_eq_true_iff

theorem verdict_isSome (call : OutcomeCall) : call.verdict.isSome = call.isDecision := by
  cases call <;> rfl

theorem told_isSome (probability : Number) (call : OutcomeCall)
    : (call.told probability).isSome = !call.isDecision := by
  cases call <;> rfl

/-- Of a call that was taken the columns keep the crash. -/
theorem kept_isSome (taken : call.taken rounds stored)
    : (call.kept stored).isSome = !call.isDecision := by
  rw [← told_isSome stored, OutcomeCall.kept]
  have fits := (taken_iff.mp taken).2
  cases told : call.told stored with
  | none => rfl
  | some result => exact fits result told

-----------------------------------------------------------------------------------------
-- Runs, one prediction at a time
-----------------------------------------------------------------------------------------

@[simp] theorem input_predictionId (predictionId : String) (call : OutcomeCall)
    : (call.input predictionId).predictionId = predictionId := by
  cases call <;> rfl

@[simp] theorem input_roundId (predictionId : String) (call : OutcomeCall)
    : (call.input predictionId).roundId = call.roundId := by
  cases call <;> rfl

theorem callsOf_cons_self (call : OutcomeCall) (rest : List (String × OutcomeCall))
    : callsOf predictionId ((predictionId, call) :: rest) = call :: callsOf predictionId rest := by
  simp only [callsOf, List.filter_cons, decide_true, if_true, List.map_cons]

theorem callsOf_cons_of_ne (different : other ≠ predictionId) (call : OutcomeCall)
    (rest : List (String × OutcomeCall))
    : callsOf predictionId ((other, call) :: rest) = callsOf predictionId rest := by
  simp only [callsOf, List.filter_cons, different, decide_false, Bool.false_eq_true, if_false]

/-- A call changes no prediction, no round and no outcome of another prediction. -/
theorem attempt_frame (repo : PredictionRepository) (input : ResolveOutcomeInput)
    : (repo.attempt input).predictions = repo.predictions
      ∧ (repo.attempt input).rounds = repo.rounds
      ∧ ∀ other, other ≠ input.predictionId →
        (repo.attempt input).outcomes.get other = repo.outcomes.get other := by
  unfold PredictionRepository.attempt PredictionRepository.resolveOutcome
  cases (input.values (repo.predictions.get input.predictionId)).columns with
  | none => exact ⟨rfl, rfl, fun _ _ => rfl⟩
  | some values =>
      dsimp only [Option.bind_eq_bind, Option.bind_some]
      split_ifs with stored
      · exact ⟨rfl, rfl, fun other different => Map.get_set_of_ne _ _ different⟩
      · exact ⟨rfl, rfl, fun _ _ => rfl⟩

/-- A call about a stored prediction is merged into its row, or refused. -/
theorem attempt_get (present : repo.predictions.get predictionId = some stored)
    (call : OutcomeCall)
    : (repo.attempt (call.input predictionId)).outcomes.get predictionId
      = if call.taken repo.rounds stored
        then some (upsert (repo.outcomes.get predictionId) (call.row predictionId stored))
        else repo.outcomes.get predictionId := by
  have has : repo.predictions.has predictionId = true := by
    rw [Map.has, present]
    rfl
  have columns := values_columns predictionId stored call
  unfold PredictionRepository.attempt PredictionRepository.resolveOutcome
  rw [input_predictionId, input_roundId, present]
  rw [OutcomeCall.values] at columns
  rw [columns]
  by_cases fits : ∀ result ∈ call.told stored, result.columns.isSome
  · rw [if_pos fits]
    dsimp only [Option.bind_eq_bind, Option.bind_some]
    by_cases known : ∀ round ∈ call.roundId, round ∈ repo.rounds
    · rw [if_pos ⟨has, known⟩, if_pos (taken_iff.mpr ⟨known, fits⟩)]
      exact Map.get_set_self _ _ _
    · rw [if_neg fun both => known both.2, if_neg fun taken => known (taken_iff.mp taken).1]
  · rw [if_neg fits, if_neg fun taken => fits (taken_iff.mp taken).2]
    rfl

/-- The row of a prediction after calls that the tables take. -/
def rowAfter (predictionId : String) (stored : Number) (row : Option PredictionOutcomeRecord)
    (calls : List OutcomeCall) : Option PredictionOutcomeRecord :=
  calls.foldl (fun row call => some (upsert row (call.row predictionId stored))) row

/-- What the tables hold of a prediction comes from its own calls. -/
theorem run_get (calls : List (String × OutcomeCall))
    (present : repo.predictions.get predictionId = some stored)
    : (repo.run calls).outcomes.get predictionId
      = rowAfter predictionId stored (repo.outcomes.get predictionId)
          ((callsOf predictionId calls).filter (·.taken repo.rounds stored)) := by
  induction calls generalizing repo with
  | nil => rfl
  | cons head rest ih =>
      obtain ⟨name, call⟩ := head
      obtain ⟨predictions, rounds, outcomes⟩ := attempt_frame repo (call.input name)
      have next := @ih (repo.attempt (call.input name))
      rw [predictions, rounds] at next
      refine (next present).trans ?_
      by_cases same : name = predictionId
      · subst same
        rw [callsOf_cons_self, List.filter_cons, attempt_get present]
        split <;> rfl
      · rw [callsOf_cons_of_ne same,
          outcomes predictionId (by rw [input_predictionId]; exact fun equal => same equal.symm)]

/-- In memory only the last call of a prediction is left. -/
theorem memory_run_get (calls : List (String × OutcomeCall))
    (present : memory.predictions.get predictionId = some probability)
    : (memory.run calls).outcomes.get predictionId
      = ((callsOf predictionId calls).getLast?.map (·.values predictionId probability)).or
          (memory.outcomes.get predictionId) := by
  induction calls generalizing memory with
  | nil => rfl
  | cons head rest ih =>
      obtain ⟨name, call⟩ := head
      refine (@ih (memory.resolveOutcome (call.input name)).1 present).trans ?_
      simp only [InMemoryPredictionRepository.resolveOutcome, input_predictionId]
      by_cases same : name = predictionId
      · subst same
        rw [callsOf_cons_self, List.getLast?_cons, Map.get_set_self, present]
        cases (callsOf name rest).getLast? <;> rfl
      · rw [callsOf_cons_of_ne same, Map.get_set_of_ne _ _ (Ne.symm same)]

-----------------------------------------------------------------------------------------
-- The rows in closed form
-----------------------------------------------------------------------------------------

/-- A row keeps what a call does not tell, and its round. -/
theorem upsert_row (roundId : Option String) (approved : Option Bool)
    (rejectionReason : Option String) (betExecuted : Bool) (crash : Option CrashResult)
    (call : OutcomeCall)
    : upsert (some (outcomeOf predictionId roundId approved rejectionReason betExecuted crash))
        (call.row predictionId stored)
      = outcomeOf predictionId roundId ((call.verdict.map (·.1)).or approved)
          (call.rejectionReason.or rejectionReason) call.saysExecuted
          ((call.kept stored).or crash) := by
  rw [OutcomeCall.row]
  cases call.kept stored with
  | none => rfl
  | some result => rfl

/-- The verdict and the crash come from the calls that were the last to tell one; the round is that
of the first call, and whether a bet was executed that of the last.
-/
theorem rowAfter_eq (isFirst : calls.head? = some first) (isLast : calls.getLast? = some last)
    : rowAfter predictionId stored none calls
      = some (outcomeOf predictionId first.roundId
          ((latest OutcomeCall.verdict calls).map (·.1)) (latest OutcomeCall.rejectionReason calls)
          last.saysExecuted (latest (OutcomeCall.kept stored) calls)) := by
  induction calls using List.reverseRecOn generalizing last with
  | nil => cases isFirst
  | append_singleton before call ih =>
      rw [List.getLast?_concat] at isLast
      obtain rfl := Option.some_inj.mp isLast
      rw [rowAfter, List.foldl_concat, ← rowAfter]
      simp only [latest_concat]
      cases earlier : before.getLast? with
      | none =>
          rw [List.getLast?_eq_none_iff.mp earlier] at isFirst ⊢
          obtain rfl := Option.some_inj.mp isFirst
          simp only [latest_nil, Option.or_none]
          rfl
      | some last =>
          have isFirst : before.head? = some first := by
            rwa [List.head?_append_of_ne_nil] at isFirst
            exact fun empty => by rw [empty] at earlier; cases earlier
          rw [ih isFirst earlier, upsert_row]
          cases call.verdict <;> rfl

-----------------------------------------------------------------------------------------
-- What is kept
-----------------------------------------------------------------------------------------

/-- The outcome has the last verdict, the last crash, and the bet if any call told of one. -/
structure Kept (probability : Number) (calls : List OutcomeCall) (record : PredictionOutcomeRecord)
    : Prop where
  verdict : ∀ approved rejectionReason,
    latest OutcomeCall.verdict calls = some (approved, rejectionReason) →
    record.riskApproved = some approved ∧ record.riskRejectionReason = rejectionReason
  result : ∀ result, latest OutcomeCall.result calls = some result →
    record.actualCrashPoint = some result.1 ∧ record.thresholdHit = some (hits result)
    ∧ record.predictionCorrect = some (hits result)
    ∧ record.probabilityError = some (errorOf probability (hits result))
    ∧ record.absoluteError = some (errorOf probability (hits result)).abs
  betExecuted : (∃ call ∈ calls, call.saysExecuted) → record.betExecuted = true

/-- All calls are of the decision or all of the crash. The last one is about a stored round, that of
the first call which the tables take; its crash point and the error of the probability that the
tables have come back from a column as they are in memory. It tells of a bet if any call does, and
gives a reason if any does which the tables take.
-/
structure MergeSafe (rounds : List String) (stored probability : Number) (calls : List OutcomeCall)
    : Prop where
  oneKind : ∀ call ∈ calls, ∀ other ∈ calls, call.isDecision = other.isDecision
  known : ∀ last, calls.getLast? = some last → ∀ round ∈ last.roundId, round ∈ rounds
  round : ∀ first last, (calls.filter (·.taken rounds stored)).head? = some first →
    calls.getLast? = some last → first.roundId = last.roundId
  exact : ∀ last, calls.getLast? = some last → ∀ result ∈ last.result,
    column result.1 = some result.1
    ∧ column (errorOf stored (hits result)) = some (errorOf probability (hits result))
  executed : ∀ last, calls.getLast? = some last →
    (∃ call ∈ calls, call.saysExecuted) → last.saysExecuted
  reason : ∀ last, calls.getLast? = some last → last.rejectionReason = none →
    ∀ call ∈ calls.filter (·.taken rounds stored), call.rejectionReason = none

/-- Where all calls are of one kind, the last one tells the latest verdict and the latest crash. -/
theorem latest_of_oneKind {β : Type} {told : OutcomeCall → Option β} (kind : Bool → Bool)
    (tells : ∀ call ∈ calls, (told call).isSome = kind call.isDecision)
    (oneKind : ∀ call ∈ calls, ∀ other ∈ calls, call.isDecision = other.isDecision)
    (isLast : calls.getLast? = some last)
    : latest told calls = told last := by
  refine (latest_eq_last_iff isLast).mpr ?_
  intro silent other among
  have mem := List.mem_of_getLast? isLast
  have same := oneKind other among last mem
  rw [← Option.isNone_iff_eq_none, ← Option.not_isSome, tells other among, same,
    ← tells last mem, silent]
  rfl

theorem result_isSome (call : OutcomeCall) : call.result.isSome = !call.isDecision := by
  cases call <;> rfl

/-- What is left in memory tells everything only if no other kind of call came before. -/
theorem oneKind_of_kept
    (kept : Kept probability calls (last.values predictionId probability))
    : ∀ call ∈ calls, call.isDecision = last.isDecision := by
  intro call among
  rw [values_eq] at kept
  cases isDecision : call.isDecision with
  | true =>
      obtain ⟨verdict, told⟩ := exists_latest among ((verdict_isSome call).trans isDecision)
      have approved := (kept.verdict verdict.1 verdict.2 told).1
      rw [← verdict_isSome, ← Option.isSome_map]
      exact (Option.isSome_of_eq_some approved).symm
  | false =>
      have tells : call.result.isSome = true := by rw [result_isSome, isDecision]; rfl
      obtain ⟨result, told⟩ := exists_latest among tells
      have point := (kept.result result told).1
      have lastTells : (last.told probability).isSome = true := by
        rw [← Option.isSome_map]
        exact Option.isSome_of_eq_some point
      rw [told_isSome] at lastTells
      exact ((Bool.not_eq_true' _).mp lastTells).symm

namespace MergeSafe

/-- Under the condition the tables take the last call, and hold its crash as it is in memory. -/
theorem last_taken (safe : MergeSafe rounds stored probability calls)
    (isLast : calls.getLast? = some last)
    : last.taken rounds stored = true ∧ last.kept stored = last.told probability := by
  have exact := safe.exact last isLast
  have kept : last.kept stored = last.told probability := by
    rw [OutcomeCall.kept, OutcomeCall.told, OutcomeCall.told]
    cases crash : last.result with
    | none => rfl
    | some result =>
        obtain ⟨point, error⟩ := exact result crash
        exact CrashResult.columns_eq_some_iff.mpr ⟨point, rfl, error⟩
  refine ⟨taken_iff.mpr ⟨safe.known last isLast, ?_⟩, kept⟩
  intro result told
  rw [OutcomeCall.kept, Option.mem_def.mp told, Option.bind_some] at kept
  rw [kept, told_isSome, ← told_isSome stored]
  exact Option.isSome_of_eq_some told

/-- Under the condition the last call tells everything, and the tables have what it tells. -/
theorem row (safe : MergeSafe rounds stored probability calls)
    (isLast : calls.getLast? = some last)
    : rowAfter predictionId stored none (calls.filter (·.taken rounds stored))
      = some (last.values predictionId probability) := by
  obtain ⟨taken, kept⟩ := safe.last_taken isLast
  have isLast' : (calls.filter (·.taken rounds stored)).getLast? = some last := by
    obtain ⟨before, rfl⟩ := List.getLast?_eq_some_iff.mp isLast
    rw [List.filter_append, List.filter_singleton, taken]
    exact List.getLast?_concat
  obtain ⟨first, isFirst⟩ := Option.ne_none_iff_exists'.mp
    (mt List.head?_eq_none_iff.mp (List.ne_nil_of_mem (List.mem_of_getLast? isLast')))
  have oneKind : ∀ call ∈ calls.filter (·.taken rounds stored),
      ∀ other ∈ calls.filter (·.taken rounds stored), call.isDecision = other.isDecision :=
    fun call among other among' => safe.oneKind call (List.mem_of_mem_filter among) other
      (List.mem_of_mem_filter among')
  have kinds := fun call (among : call ∈ calls.filter (·.taken rounds stored)) =>
    kept_isSome (List.mem_filter.mp among).2
  rw [rowAfter_eq isFirst isLast', values_eq, safe.round first last isFirst isLast,
    latest_of_oneKind id (fun call _ => verdict_isSome call) oneKind isLast',
    latest_of_oneKind not kinds oneKind isLast', kept,
    (latest_eq_last_iff isLast').mpr (safe.reason last isLast)]

theorem kept (safe : MergeSafe rounds stored probability calls)
    (isLast : calls.getLast? = some last)
    : Kept probability calls (last.values predictionId probability) := by
  rw [values_eq]
  refine ⟨?_, ?_, safe.executed last isLast⟩
  · intro approved rejectionReason told
    rw [latest_of_oneKind id (fun call _ => verdict_isSome call) safe.oneKind isLast] at told
    rw [OutcomeCall.rejectionReason, told]
    exact ⟨rfl, rfl⟩
  · intro result told
    rw [latest_of_oneKind not (fun call _ => result_isSome call) safe.oneKind isLast] at told
    rw [OutcomeCall.told, told]
    exact ⟨rfl, rfl, rfl, rfl, rfl⟩

end MergeSafe

/-- The tables have what is left in memory only if they take a call about the same round, and its
numbers come back as they are.
-/
theorem mergeSafe_of_same
    (kept : Kept probability calls (last.values predictionId probability))
    (isLast : calls.getLast? = some last)
    (same : rowAfter predictionId stored none (calls.filter (·.taken rounds stored))
      = some (last.values predictionId probability))
    : MergeSafe rounds stored probability calls := by
  have ofLast := oneKind_of_kept kept
  have takes : calls.filter (·.taken rounds stored) ≠ [] := by
    intro none
    rw [none] at same
    cases same
  obtain ⟨first, isFirst⟩ := Option.ne_none_iff_exists'.mp (mt List.head?_eq_none_iff.mp takes)
  obtain ⟨end', isEnd⟩ := Option.ne_none_iff_exists'.mp (mt List.getLast?_eq_none_iff.mp takes)
  have takenEnd := List.mem_filter.mp (List.mem_of_getLast? isEnd)
  have kinds := fun call (among : call ∈ calls.filter (·.taken rounds stored)) =>
    kept_isSome (List.mem_filter.mp among).2
  have oneKind : ∀ call ∈ calls, ∀ other ∈ calls, call.isDecision = other.isDecision :=
    fun call among other among' => (ofLast call among).trans (ofLast other among').symm
  rw [rowAfter_eq isFirst isEnd, latest_of_oneKind not kinds
    (fun call among other among' => oneKind call (List.mem_of_mem_filter among) other
      (List.mem_of_mem_filter among')) isEnd] at same
  rw [values_eq] at kept same
  have same := Option.some_inj.mp same
  have round : first.roundId = last.roundId := congrArg PredictionOutcomeRecord.roundId same
  have points := congrArg PredictionOutcomeRecord.actualCrashPoint same
  have hit := congrArg PredictionOutcomeRecord.thresholdHit same
  have errors := congrArg PredictionOutcomeRecord.probabilityError same
  exact {
    oneKind
    known := by
      intro last' isLast' name about
      obtain rfl := Option.some_inj.mp (isLast.symm.trans isLast')
      rw [← round] at about
      exact (taken_iff.mp (List.mem_filter.mp (List.mem_of_head? isFirst)).2).1 name about
    round := by
      intro first' last' isFirst' isLast'
      obtain rfl := Option.some_inj.mp (isFirst.symm.trans isFirst')
      obtain rfl := Option.some_inj.mp (isLast.symm.trans isLast')
      exact round
    exact := by
      intro last' isLast' result told
      obtain rfl := Option.some_inj.mp (isLast.symm.trans isLast')
      rw [outcomeOf, outcomeOf, OutcomeCall.told, Option.mem_def.mp told] at points hit errors
      obtain ⟨held, isHeld, point⟩ := Option.map_eq_some_iff.mp points
      rw [isHeld] at hit errors
      obtain ⟨crash, told, columns⟩ := Option.bind_eq_some_iff.mp isHeld
      obtain ⟨fromPoint, sameHit, fromError⟩ := CrashResult.columns_eq_some_iff.mp columns
      obtain ⟨result', -, rfl⟩ := Option.map_eq_some_iff.mp told
      have hit : held.hit = hits result := Option.some_inj.mp hit
      have error : held.error = errorOf probability (hits result) := Option.some_inj.mp errors
      have sameHit : hits result' = hits result := sameHit.trans hit
      rw [sameHit, error] at fromError
      exact ⟨column_column (fromPoint.trans (congrArg some point)), fromError⟩
    executed := by
      intro last' isLast' told
      obtain rfl := Option.some_inj.mp (isLast.symm.trans isLast')
      exact kept.betExecuted told
    reason := by
      intro last' isLast' silent
      obtain rfl := Option.some_inj.mp (isLast.symm.trans isLast')
      have reason := congrArg PredictionOutcomeRecord.riskRejectionReason same
      exact latest_eq_none_iff.mp (reason.trans silent)
  }

/-- For a prediction that both repositories have, each with the probability that it holds, after any
calls: each of them keeps the verdict, the crash and the bet, and both hold the same outcome,
exactly under the condition on the calls about the prediction.
-/
theorem outcomes_kept_iff (predictions tables : Map String Number) (rounds : List String)
    (predictionId : String) (probability stored : Number) (calls : List (String × OutcomeCall))
    (created : predictions.get predictionId = some probability)
    (present : tables.get predictionId = some stored)
    : ((∀ row,
          (({ predictions := tables, rounds } : PredictionRepository).run calls).outcomes.get
              predictionId = some row →
          Kept probability (callsOf predictionId calls) row)
        ∧ (∀ record,
          (({ predictions } : InMemoryPredictionRepository).run calls).outcomes.get predictionId
            = some record →
          Kept probability (callsOf predictionId calls) record)
        ∧ (({ predictions := tables, rounds } : PredictionRepository).run calls).outcomes.get
            predictionId
          = (({ predictions } : InMemoryPredictionRepository).run calls).outcomes.get predictionId)
      ↔ MergeSafe rounds stored probability (callsOf predictionId calls) := by
  rw [run_get calls present, memory_run_get calls created, Map.get_empty, Option.or_none]
  cases isLast : (callsOf predictionId calls).getLast? with
  | none =>
      rw [List.getLast?_eq_none_iff.mp isLast]
      refine iff_of_true ⟨?_, ?_, rfl⟩ ?_
      · intro row none
        cases none
      · intro record none
        cases none
      · constructor <;> simp
  | some last =>
      simp only [Option.map_some, Option.some.injEq, forall_eq']
      constructor
      · rintro ⟨-, kept, same⟩
        exact mergeSafe_of_same kept isLast same
      · intro safe
        have row : rowAfter predictionId stored none
            ((callsOf predictionId calls).filter (·.taken rounds stored))
            = some (last.values predictionId probability) := safe.row isLast
        refine ⟨?_, safe.kept isLast, row⟩
        intro found isRow
        obtain rfl := Option.some_inj.mp (row.symm.trans isRow)
        exact safe.kept isLast

/-- A crash with a bet that is known before the decision: the database forgets the bet, and the
memory the bet and the crash. A crash alone is not the same in both either, where the error of the
probability has more than eight decimals.
-/
theorem crash_before_decision :
    let tables (probability : ℚ) := (∅ : Map String Number).set "p" (.finite probability)
    let crash : String × OutcomeCall := ("p", .crash (some "r") 2 (.finite 1.3) (some true))
    let decision : String × OutcomeCall := ("p", .decision "r" true none (.finite 1.3))
    let row (probability : ℚ) (calls : List (String × OutcomeCall)) :=
      (({ predictions := tables probability, rounds := ["r"] }
        : PredictionRepository).run calls).outcomes.get "p"
    let record (probability : ℚ) (calls : List (String × OutcomeCall)) :=
      (({ predictions := tables probability }
        : InMemoryPredictionRepository).run calls).outcomes.get "p"
    (row 0.5 [crash, decision]).map (·.betExecuted) = some false
      ∧ (row 0.5 [crash, decision]).map (·.actualCrashPoint) = some (some 2)
      ∧ (record 0.5 [crash, decision]).map (·.betExecuted) = some false
      ∧ (record 0.5 [crash, decision]).map (·.actualCrashPoint) = some none
      ∧ row 0.5 [crash, decision] ≠ record 0.5 [crash, decision]
      ∧ (row 0.7 [crash]).map (·.probabilityError) = some (some (.finite (-0.3)))
      ∧ (record 0.7 [crash]).map (·.probabilityError)
        = some (some (.finite (-0.30000000000000004))) := by
  decide +kernel

/-- After the crash alone nothing is lost of a probability of one half. -/
theorem crash_alone :
    let predictions := (∅ : Map String Number).set "p" (.finite 0.5)
    let calls : List (String × OutcomeCall) :=
      [("p", .crash (some "r") 2 (.finite 1.3) (some true))]
    (({ predictions, rounds := ["r"] } : PredictionRepository).run calls).outcomes.get "p"
      = (({ predictions } : InMemoryPredictionRepository).run calls).outcomes.get "p" := by
  intro predictions calls
  have safe : MergeSafe ["r"] (.finite 0.5) (.finite 0.5) (callsOf "p" calls) := {
    oneKind := by decide
    known := by
      intro last isLast
      rw [← Option.some_inj.mp isLast]
      decide
    round := by
      intro first last isFirst isLast
      obtain rfl := List.mem_singleton.mp (List.mem_of_mem_filter (List.mem_of_head? isFirst))
      rw [← Option.some_inj.mp isLast]
      rfl
    exact := by
      intro last isLast result told
      rw [← Option.some_inj.mp isLast] at told
      rw [← Option.some_inj.mp told]
      decide +kernel
    executed := by
      intro last isLast _
      rw [← Option.some_inj.mp isLast]
      rfl
    reason := by
      intro last _ _ call among
      rw [List.mem_singleton.mp (List.mem_of_mem_filter among)]
      rfl
  }
  exact ((outcomes_kept_iff predictions predictions ["r"] "p" (.finite 0.5) (.finite 0.5) calls
    (by decide +kernel) (by decide +kernel)).mpr safe).2.2

end CrashWave.Persistence
