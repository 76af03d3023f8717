import CrashWave.App.Composition
import CrashWave.Config.Schema
import CrashWave.Runs.Basic

/-! Writes of the operator to the configuration, and which of them keep it valid: those of values
that the schema declares for the property that the key leads to.
-/

namespace CrashWave.Config

open JavaScript Runs Schemas

-----------------------------------------------------------------------------------------
-- One write
-----------------------------------------------------------------------------------------

/-- A value that is no object, as a scalar. -/
def scalarOf : Value → Option Scalar
  | .null => some .null
  | .boolean value => some (.boolean value)
  | .number value => some (.number value)
  | .string text => some (.string text)
  | .function | .prototype | .object _ => none

/-- What a write stores under the last part of its key, unless it is rejected. -/
def storedScalar (last value : String) : Option Scalar :=
  (App.configEntry last value).bind scalarOf

/-- How a write ends: with the answer whether it was made, or with an error. -/
inductive WriteOutcome where
  | returned (written : Bool)
  | threw
  deriving DecidableEq

/-- The parts of a key before its last one, and the last one. -/
def keyParts (key : String) : List String × String :=
  ((splitDots key).dropLast, (splitDots key).getLast?.getD "")

/-- The assignment that a write makes. -/
def assignment (config : Datum) (key value : String) : Assigned :=
  match storedScalar (keyParts key).2 value with
  | none => .refused
  | some scalar => config.assignPath (keyParts key).1 (keyParts key).2 scalar

/-- `setConfigValue`: the configuration after it, and how it ends. -/
def setConfigValue (config : Datum) (key value : String) : Datum × WriteOutcome :=
  match assignment config key value with
  | .refused => (config, .returned false)
  | .threw => (config, .threw)
  | .done after => (after, .returned true)

/-- A call of `setConfigValue`. -/
structure ConfigWrite where
  key : String
  value : String

/-- The configuration after a call. -/
def next (config : Datum) (write : ConfigWrite) : Datum :=
  (setConfigValue config write.key write.value).1

/-- The configuration satisfies the schema. -/
def Valid (validator : Validator) (config : Datum) : Prop :=
  validator.accepts appConfigSchema (some config) = true

/-- A call returns false and leaves the configuration, or it leaves a valid one. -/
def KeepsValid (validator : Validator) (config : Datum) (write : ConfigWrite) : Prop :=
  let (after, outcome) := setConfigValue config write.key write.value
  (outcome = .returned false ∧ after = config) ∨ Valid validator after

/-- What is stored is rejected, or the schema allows it where the key leads to. -/
def Allowed (validator : Validator) (config : Datum) (write : ConfigWrite) : Prop :=
  ∀ scalar ∈ storedScalar (keyParts write.key).2 write.value,
    validator.allowsPath appConfigSchema config (keyParts write.key).1 (keyParts write.key).2
      scalar = true

-----------------------------------------------------------------------------------------
-- Every write
-----------------------------------------------------------------------------------------

section

variable {validator : Validator} {config : Datum}

theorem valid_next_iff (valid : Valid validator config) (write : ConfigWrite)
    : Valid validator (next config write) ↔ Allowed validator config write := by
  have left : Valid validator (next config write)
      ↔ (assignment config write.key write.value).Leaves (Valid validator) := by
    unfold next setConfigValue
    cases assignment config write.key write.value with
    | refused => exact iff_of_true valid trivial
    | threw => exact iff_of_true valid trivial
    | done after => exact Iff.rfl
  rw [left, assignment, Allowed]
  cases storedScalar (keyParts write.key).2 write.value with
  | none => exact iff_of_true trivial (by simp)
  | some scalar =>
      have path := Validator.assignPath_iff valid (keyParts write.key).1 (keyParts write.key).2
        scalar
      exact path.trans (by simp)

theorem keepsValid_iff (valid : Valid validator config) (write : ConfigWrite)
    : KeepsValid validator config write ↔ Valid validator (next config write) := by
  constructor
  · intro keeps
    rcases keeps with unchanged | after
    · have same : next config write = config := unchanged.2
      rw [same]
      exact valid
    · exact after
  · intro after
    exact .inr after

/-- Every call of a run from a valid configuration keeps it valid exactly when the schema allows
every one.
-/
theorem always_keepsValid_iff (valid : Valid validator config) (writes : List ConfigWrite)
    : Always next (KeepsValid validator) config writes
      ↔ Always next (Allowed validator) config writes := by
  have same (config : Datum) (write : ConfigWrite) (valid : Valid validator config)
      : KeepsValid validator config write ↔ Allowed validator config write :=
    (keepsValid_iff valid write).trans (valid_next_iff valid write)
  have kept (config : Datum) (write : ConfigWrite) (valid : Valid validator config)
      (allowed : Allowed validator config write)
      : Valid validator (next config write) :=
    (valid_next_iff valid write).mpr allowed
  exact always_iff_of_invariant same kept writes valid

theorem valid_default : Valid .recursive defaultConfig := defaultConfig_accepted

/-- A run of the default configuration whose second write stores a text for a number. -/
theorem always_keepsValid_default
    : Always next (KeepsValid .recursive) defaultConfig
        [⟨"betting.maxDailyEntries", "250"⟩, ⟨"risk.cooldownMs", "3000"⟩]
      ↔ Always next (Allowed .recursive) defaultConfig
        [⟨"betting.maxDailyEntries", "250"⟩, ⟨"risk.cooldownMs", "3000"⟩] :=
  always_keepsValid_iff valid_default _

/-- The text of a number is stored for the cooldown. -/
theorem cooldown_stored_as_text
    : ¬ Always next (KeepsValid .recursive) defaultConfig [⟨"risk.cooldownMs", "3000"⟩] := by
  intro keeps
  rcases keeps.1 with unchanged | valid
  · exact absurd unchanged.1 (by decide +kernel)
  · exact absurd valid (by unfold Valid; decide +kernel)

/-- Under the numeric names a write stores a positive finite number, or nothing. -/
theorem storedScalar_of_numeric {last : String}
    (numeric : last = "stakePerEntry" ∨ last = "cashOutTarget" ∨ last = "maxDailyEntries")
    (value : String)
    : storedScalar last value
      = if (toNumber value).isFinite ∧ 0 < toNumber value then some (.number (toNumber value))
        else none := by
  rw [storedScalar, App.configEntry, if_pos numeric]
  split <;> rfl

/-- What the schema declares for the daily entries, of a positive number. -/
theorem maxDailyEntries_accepts_iff {entries : ℚ} (positive : 0 < entries)
    : validator.acceptsAt bettingConfigSchema "maxDailyEntries" (.number (.finite entries)) = true
      ↔ entries.den = 1 ∧ entries ≤ 1000 := by
  have field : bettingConfigSchema.children "maxDailyEntries"
      = [number [.int, .positive, .max 1000 true] 500] := rfl
  have above : Number.finite 0 < .finite entries := decide_eq_true positive
  have most : Number.finite entries ≤ .finite 1000 ↔ entries ≤ 1000 := decide_eq_true_iff
  rw [Validator.acceptsAt_iff, field, List.forall_mem_singleton, number, validator.reads,
    Schema.acceptsBy, validator.reads]
  simp [Schema.acceptsBy, NumberCheck.passes, NumberCheck.positive, above, most]

/-- The schema allows a number of daily entries that is whole and at most 1000, where a write only
asks for a positive one.
-/
theorem maxDailyEntries_allowed_iff {fields : List (String × Datum)}
    (found : config.child "betting" = some (.object fields)) (value : String)
    : Allowed validator config ⟨"betting.maxDailyEntries", value⟩
      ↔ ∀ entries : ℚ, toNumber value = .finite entries → 0 < entries
          → entries.den = 1 ∧ entries ≤ 1000 := by
  have parts : keyParts "betting.maxDailyEntries" = (["betting"], "maxDailyEntries") := by
    decide +kernel
  have declared (scalar : Scalar)
      : validator.allowsPath appConfigSchema config ["betting"] "maxDailyEntries" scalar = true
        ↔ validator.acceptsAt bettingConfigSchema "maxDailyEntries" scalar = true := by
    have sections : appConfigSchema.children "betting" = [bettingConfigSchema] := rfl
    rw [Validator.allowsPath_field_iff found (by decide) (by decide), sections,
      List.forall_mem_singleton]
  rw [Allowed, parts, storedScalar_of_numeric (by decide)]
  simp only [declared]
  cases toNumber value with
  | finite entries =>
      have finite : (Number.finite entries).isFinite = true := rfl
      have above : (0 : Number) < .finite entries ↔ 0 < entries := decide_eq_true_iff
      by_cases positive : 0 < entries
      · rw [if_pos ⟨finite, above.mpr positive⟩]
        simp [maxDailyEntries_accepts_iff positive, positive]
      · rw [if_neg fun both => positive (above.mp both.2)]
        simp [positive]
  | infinity negative => simp [Number.isFinite]
  | nan => simp [Number.isFinite]

end

-----------------------------------------------------------------------------------------
-- Plain objects
-----------------------------------------------------------------------------------------

mutual

/-- A tree of plain objects, as data. -/
def dataOf : Value → Datum
  | .null | .function | .prototype => .scalar .null
  | .boolean value => .scalar (.boolean value)
  | .number value => .scalar (.number value)
  | .string text => .scalar (.string text)
  | .object fields => .object (fieldsOf fields)
termination_by structural value => value

def fieldsOf : List (String × Value) → List (String × Datum)
  | [] => []
  | field :: rest => fieldOf field :: fieldsOf rest
termination_by structural fields => fields

def fieldOf : String × Value → String × Datum
  | (name, value) => (name, dataOf value)
termination_by structural field => field

end

mutual

/-- No prototype is stored in the tree. -/
def isPlain : Value → Bool
  | .prototype => false
  | .object fields => arePlain fields
  | _ => true
termination_by structural value => value

def arePlain : List (String × Value) → Bool
  | [] => true
  | field :: rest => isPlainField field && arePlain rest
termination_by structural fields => fields

def isPlainField : String × Value → Bool
  | (_, value) => isPlain value
termination_by structural field => field

end

theorem lookup_fieldsOf (name : String) (fields : List (String × Value))
    : (fieldsOf fields).lookup name = (Value.getField name fields).map dataOf := by
  induction fields with
  | nil => rfl
  | cons field rest ih =>
      obtain ⟨first, value⟩ := field
      by_cases same : first = name
      · simp [fieldsOf, fieldOf, Value.getField, same]
      · have different : (name == first) = false := beq_false_of_ne (Ne.symm same)
        simpa [fieldsOf, fieldOf, Value.getField, same, List.lookup_cons, different] using ih

theorem fieldsOf_setField (name : String) (value : Value) (fields : List (String × Value))
    : fieldsOf (Value.setField name value fields)
      = setField name (dataOf value) (fieldsOf fields) := by
  induction fields with
  | nil => rfl
  | cons field rest ih =>
      obtain ⟨first, old⟩ := field
      by_cases same : first = name
      · simp [fieldsOf, fieldOf, Value.setField, setField, same]
      · simp [fieldsOf, fieldOf, Value.setField, setField, same, Ne.symm same, ih]

theorem isPlain_of_getField {fields : List (String × Value)} (plain : arePlain fields = true)
    {name : String} {value : Value} (found : Value.getField name fields = some value)
    : isPlain value = true := by
  induction fields with
  | nil => cases found
  | cons field rest ih =>
      obtain ⟨first, held⟩ := field
      rw [arePlain, isPlainField, Bool.and_eq_true] at plain
      rw [Value.getField] at found
      split at found
      · obtain rfl := Option.some_inj.mp found
        exact plain.1
      · exact ih plain.2 found

/-- On plain objects an assignment along a path is the one of the operator's configuration tree,
by induction on the path.
-/
theorem assignPath_dataOf {fields : List (String × Value)} (plain : arePlain fields = true)
    (parts : List String) (last : String) {entry : Value} {scalar : Scalar}
    (stored : scalarOf entry = some scalar)
    : (Datum.object (fieldsOf fields)).assignPath parts last scalar
      = match (Value.object fields).setPath parts last entry with
        | none => .refused
        | some after => .done (dataOf after) := by
  induction parts generalizing fields with
  | nil =>
      have leaf : dataOf entry = .scalar scalar := by
        cases entry <;> cases stored <;> rfl
      by_cases proto : last = "__proto__"
      · simp [Datum.assignPath, Datum.assign, Value.setPath, Value.setProperty, proto, dataOf]
      · simp [Datum.assignPath, Datum.assign, Datum.put, Value.setPath, Value.setProperty, proto,
          dataOf, fieldsOf_setField, leaf]
  | cons part rest ih =>
      by_cases proto : part = "__proto__"
      · cases rest with
        | nil =>
            simp [Datum.assignPath, Datum.assignPrototype, Value.setPath, Value.getProperty, proto,
              dataOf]
        | cons next rest =>
            simp [Datum.assignPath, Datum.assignPrototype, Value.setPath, Value.getProperty, proto]
      · have child : (Datum.object (fieldsOf fields)).child part
            = (Value.getField part fields).map dataOf :=
          lookup_fieldsOf part fields
        rw [Datum.assignPath, if_neg proto, child, Value.setPath, Value.getProperty, if_neg proto]
        cases found : Value.getField part fields with
        | none =>
            simp only [Option.map_none, Option.none_or, Value.inherited]
            split_ifs <;> rfl
        | some inner =>
            simp only [Option.map_some, Option.some_or]
            have within : isPlain inner = true := isPlain_of_getField plain found
            cases inner with
            | object others =>
                have object : (Datum.object (fieldsOf others)).isObject = true := rfl
                rw [dataOf, if_pos object, ih within]
                dsimp only
                cases (Value.object others).setPath rest last entry with
                | none => rfl
                | some after =>
                    simp [Assigned.map, Value.setProperty, proto, Datum.put, dataOf,
                      fieldsOf_setField]
            | prototype => cases within
            | _ => rfl

/-- What a write stores is a scalar. -/
theorem scalarOf_configEntry {last value : String} {entry : Value}
    (stored : App.configEntry last value = some entry)
    : ∃ scalar, scalarOf entry = some scalar := by
  unfold App.configEntry at stored
  split at stored
  · split at stored
    · obtain rfl := Option.some_inj.mp stored
      exact ⟨_, rfl⟩
    · cases stored
  · split at stored
    · split at stored
      · obtain rfl := Option.some_inj.mp stored
        exact ⟨_, rfl⟩
      · cases stored
    · obtain rfl := Option.some_inj.mp stored
      exact ⟨_, rfl⟩

/-- So is a write. -/
theorem assignment_dataOf {fields : List (String × Value)} (plain : arePlain fields = true)
    (key value : String)
    : assignment (.object (fieldsOf fields)) key value
      = match App.setConfigValue (.object fields) key value with
        | none => .refused
        | some after => .done (dataOf after) := by
  simp only [assignment, storedScalar, App.setConfigValue, keyParts]
  cases stored : App.configEntry ((splitDots key).getLast?.getD "") value with
  | none => rfl
  | some entry =>
      obtain ⟨scalar, same⟩ := scalarOf_configEntry stored
      rw [Option.bind_some, same]
      exact assignPath_dataOf plain _ _ same

end CrashWave.Config
