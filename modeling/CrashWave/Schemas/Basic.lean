import CrashWave.JavaScript.Datum

/-! Schemas of configuration data: what a validator accepts, and which assignments along a path
keep an accepted datum accepted. Nothing here depends on a particular schema.
-/

namespace Schemas

open JavaScript

inductive NumberCheck where
  | int
  | min (bound : ℚ) (inclusive : Bool)
  | max (bound : ℚ) (inclusive : Bool)

def NumberCheck.positive : NumberCheck := .min 0 false

def NumberCheck.nonnegative : NumberCheck := .min 0 true

/-- A check of a number that is not NaN. -/
def NumberCheck.passes : NumberCheck → Number → Bool
  | .int, .finite value => value.den = 1
  | .int, _ => false
  | .min bound inclusive, value =>
      if inclusive then decide (.finite bound ≤ value) else decide (.finite bound < value)
  | .max bound inclusive, value =>
      if inclusive then decide (value ≤ .finite bound) else decide (value < .finite bound)

inductive Schema where
  | number (checks : List NumberCheck)
  | string (minLength : Nat)
  | boolean
  | enum (options : List String)
  | nullable (inner : Schema)
  | withDefault (inner : Schema) (value : Datum)
  | array (item : Schema)
  | object (shape : List (String × Schema))

/-- The length of a text in UTF-16 code units. -/
def textLength (text : String) : Nat :=
  (text.toList.map fun c => if c.toNat < 0x10000 then 1 else 2).sum

/-- What a schema accepts, or with nothing the absence of it, where `accepts` says this of its
parts. An object may have fields that the shape does not name, and a number may be infinite.
-/
def Schema.acceptsBy (accepts : Schema → Option Datum → Bool) : Schema → Option Datum → Bool
  | .number checks, some (.scalar (.number value)) =>
      value ≠ .nan && checks.all (·.passes value)
  | .string minLength, some (.scalar (.string text)) => minLength ≤ textLength text
  | .boolean, some (.scalar (.boolean _)) => true
  | .enum options, some (.scalar (.string text)) => options.contains text
  | .nullable _, some (.scalar .null) => true
  | .nullable inner, found => accepts inner found
  | .withDefault inner value, none => accepts inner (some value)
  | .withDefault inner _, some found => accepts inner (some found)
  | .array item, some (.array elements _) => elements.all fun element => accepts item element
  | .object shape, some (.object fields) =>
      shape.all fun field => accepts field.2 (fields.lookup field.1)
  | _, _ => false

/-- A validator reads every schema by its parts. -/
structure Validator where
  accepts : Schema → Option Datum → Bool
  reads : ∀ schema found, accepts schema found = schema.acceptsBy accepts found

/-- The schema of what is neither missing nor null. -/
def Schema.container : Schema → Schema
  | .nullable inner => inner.container
  | .withDefault inner _ => inner.container
  | .number checks => .number checks
  | .string minLength => .string minLength
  | .boolean => .boolean
  | .enum options => .enum options
  | .array item => .array item
  | .object shape => .object shape

/-- The schemas that are declared for a property. -/
def Schema.children (schema : Schema) (name : String) : List Schema :=
  match schema.container with
  | .object shape => (shape.filter fun field => field.1 = name).map (·.2)
  | .array item => if (arrayIndex name).isSome then [item] else []
  | _ => []

namespace Validator

-----------------------------------------------------------------------------------------
-- What the parts of an accepted datum are accepted by
-----------------------------------------------------------------------------------------

section

variable {validator : Validator} {schema : Schema} {target : Datum}

/-- An object or an array is accepted by what a schema contains, by induction on its layers. -/
theorem accepts_container (validator : Validator) (schema : Schema) {target : Datum}
    (object : target.isObject = true)
    : validator.accepts schema (some target)
      = validator.accepts schema.container (some target) := by
  fun_induction Schema.container schema with
  | case1 inner ih =>
      rw [← ih, validator.reads]
      cases target with
      | scalar value => cases object
      | object fields => rfl
      | array elements fields => rfl
  | case2 inner value ih =>
      rw [← ih, validator.reads]
      rfl
  | case3 | case4 | case5 | case6 | case7 | case8 => rfl

theorem container_of_object {fields : List (String × Datum)}
    (accepted : validator.accepts schema (some (.object fields)) = true)
    : ∃ shape, schema.container = .object shape
      ∧ ∀ field ∈ shape, validator.accepts field.2 (fields.lookup field.1) = true := by
  rw [accepts_container validator schema rfl, validator.reads] at accepted
  fun_induction Schema.container schema with
  | case1 inner ih => exact ih accepted
  | case2 inner value ih => exact ih accepted
  | case8 shape => exact ⟨shape, rfl, List.all_eq_true.mp accepted⟩
  | case3 | case4 | case5 | case6 | case7 => cases accepted

theorem container_of_array {elements : List (Option Datum)} {fields : List (String × Datum)}
    (accepted : validator.accepts schema (some (.array elements fields)) = true)
    : ∃ item, schema.container = .array item
      ∧ ∀ element ∈ elements, validator.accepts item element = true := by
  rw [accepts_container validator schema rfl, validator.reads] at accepted
  fun_induction Schema.container schema with
  | case1 inner ih => exact ih accepted
  | case2 inner value ih => exact ih accepted
  | case7 item => exact ⟨item, rfl, List.all_eq_true.mp accepted⟩
  | case3 | case4 | case5 | case6 | case8 => cases accepted

/-- What a property holds is accepted by all that is declared for it. -/
theorem accepts_child (accepted : validator.accepts schema (some target) = true) {name : String}
    {inner : Datum} (found : target.child name = some inner)
    : ∀ child ∈ schema.children name, validator.accepts child (some inner) = true := by
  intro child member
  cases target with
  | scalar value => cases found
  | object fields =>
      obtain ⟨shape, core, declared⟩ := container_of_object accepted
      simp only [Schema.children, core] at member
      obtain ⟨field, among, rfl⟩ := List.mem_map.mp member
      obtain ⟨here, same⟩ := List.mem_filter.mp among
      have held := declared field here
      rw [of_decide_eq_true same] at held
      rwa [show fields.lookup name = some inner from found] at held
  | array elements fields =>
      obtain ⟨item, core, each⟩ := container_of_array accepted
      simp only [Schema.children, core] at member
      cases place : arrayIndex name with
      | none => simp [place] at member
      | some index =>
          obtain rfl : child = item := by simpa [place] using member
          rw [Datum.child_of_arrayIndex elements fields place] at found
          have here : elements[index]? = some (some inner) := Option.join_eq_some_iff.mp found
          exact each _ (List.mem_of_getElem? here)

end

-----------------------------------------------------------------------------------------
-- Setting a property
-----------------------------------------------------------------------------------------

/-- A write onto this property of an accepted datum leaves no hole that is not accepted. -/
def gapless (validator : Validator) (schema : Schema) (target : Datum) (name : String) : Bool :=
  match schema.container, target with
  | .array item, .array elements _ =>
      match arrayIndex name with
      | some index => index ≤ elements.length || validator.accepts item none
      | none => true
  | _, _ => true

section

variable {validator : Validator} {schema : Schema} {target : Datum}

/-- There is no hole before an element that is there. -/
theorem gapless_of_child {name : String} {inner : Datum} (found : target.child name = some inner)
    : validator.gapless schema target name = true := by
  unfold gapless
  split
  · next item elements fields core =>
      split
      · next index place =>
          rw [Datum.child_of_arrayIndex elements fields place] at found
          have here : elements[index]? = some (some inner) := Option.join_eq_some_iff.mp found
          obtain ⟨within, _⟩ := List.getElem?_eq_some_iff.mp here
          simp [within.le]
      · rfl
  · rfl

/-- An object accepts another value of a field exactly when all that is declared for it does. -/
theorem fields_setField_iff {shape : List (String × Schema)} {fields : List (String × Datum)}
    (declared : ∀ field ∈ shape, validator.accepts field.2 (fields.lookup field.1) = true)
    (name : String) (inner : Datum)
    : (∀ field ∈ shape,
        validator.accepts field.2 ((setField name inner fields).lookup field.1) = true)
      ↔ ∀ field ∈ shape, field.1 = name → validator.accepts field.2 (some inner) = true := by
  constructor
  · intro after field member same
    have here := after field member
    rwa [lookup_setField, if_pos same] at here
  · intro allowed field member
    rw [lookup_setField]
    by_cases same : field.1 = name
    · rw [if_pos same]
      exact allowed field member same
    · rw [if_neg same]
      exact declared field member

/-- An array accepts another element exactly when its items do, and no hole is left before it that
they do not accept.
-/
theorem elements_writeElement_iff {item : Schema} {elements : List (Option Datum)}
    (each : ∀ element ∈ elements, validator.accepts item element = true) (index : Nat)
    (inner : Datum)
    : (∀ element ∈ writeElement elements index inner, validator.accepts item element = true)
      ↔ validator.accepts item (some inner) = true
        ∧ (index ≤ elements.length ∨ validator.accepts item none = true) := by
  unfold writeElement
  split
  · next within =>
      constructor
      · intro after
        exact ⟨after (some inner) (List.mem_set within _), .inl within.le⟩
      · intro fits element member
        rcases List.mem_or_eq_of_mem_set member with old | new
        · exact each element old
        · rw [new]
          exact fits.1
  · next beyond =>
      constructor
      · intro after
        refine ⟨after (some inner) (by simp), ?_⟩
        by_cases near : index ≤ elements.length
        · exact .inl near
        · have hole : index - elements.length ≠ 0 := by omega
          exact .inr (after none (by simp [hole]))
      · intro fits element member
        rcases List.mem_append.mp member with before | new
        · rcases List.mem_append.mp before with old | hole
          · exact each element old
          · obtain ⟨some, rfl⟩ := List.mem_replicate.mp hole
            exact fits.2.resolve_left (by omega)
        · rw [List.mem_singleton.mp new]
          exact fits.1

/-- An array accepts another length exactly when it has no holes then that it does not accept. -/
theorem elements_resize_iff {item : Schema} {elements : List (Option Datum)}
    (each : ∀ element ∈ elements, validator.accepts item element = true) (length : Nat)
    : (∀ element ∈ resize elements length, validator.accepts item element = true)
      ↔ length ≤ elements.length ∨ validator.accepts item none = true := by
  unfold resize
  constructor
  · intro after
    by_cases shorter : length ≤ elements.length
    · exact .inl shorter
    · have hole : length - elements.length ≠ 0 := by omega
      exact .inr (after none (by simp [hole]))
  · intro fits element member
    rcases List.mem_append.mp member with old | hole
    · exact each element (List.mem_of_mem_take old)
    · obtain ⟨some, rfl⟩ := List.mem_replicate.mp hole
      exact fits.resolve_left (by omega)

/-- A property that is set keeps an accepted datum accepted exactly when all that is declared for
the property accepts it, and it leaves no hole that is not accepted.
-/
theorem accepts_put_iff (accepted : validator.accepts schema (some target) = true)
    (object : target.isObject = true) (name : String) (inner : Datum)
    : validator.accepts schema (some (target.put name inner)) = true
      ↔ (∀ child ∈ schema.children name, validator.accepts child (some inner) = true)
        ∧ validator.gapless schema target name = true := by
  have putObject : (target.put name inner).isObject = true := by
    rw [Datum.put_isObject, object]
  rw [accepts_container validator schema putObject, validator.reads]
  simp only [Schema.children, gapless]
  cases target with
  | scalar value => cases object
  | object fields =>
      obtain ⟨shape, core, declared⟩ := container_of_object accepted
      rw [core]
      simp only [Datum.put, Schema.acceptsBy, List.all_eq_true, and_true]
      rw [fields_setField_iff declared name inner]
      constructor
      · intro fits child member
        obtain ⟨field, among, rfl⟩ := List.mem_map.mp member
        obtain ⟨here, same⟩ := List.mem_filter.mp among
        exact fits field here (of_decide_eq_true same)
      · intro fits field here same
        exact fits field.2
          (List.mem_map.mpr ⟨field, List.mem_filter.mpr ⟨here, decide_eq_true same⟩, rfl⟩)
  | array elements fields =>
      obtain ⟨item, core, each⟩ := container_of_array accepted
      rw [core]
      simp only [Datum.put]
      cases place : arrayIndex name with
      | none => simpa [Schema.acceptsBy] using each
      | some index =>
          simp only [Schema.acceptsBy, List.all_eq_true]
          rw [elements_writeElement_iff each index inner]
          simp

end

-----------------------------------------------------------------------------------------
-- Assignments
-----------------------------------------------------------------------------------------

/-- All that is declared for a property accepts a scalar. -/
def acceptsAt (validator : Validator) (schema : Schema) (name : String) (value : Scalar) : Bool :=
  (schema.children name).all fun child => validator.accepts child (some (.scalar value))

/-- An array of a length that is made longer is filled with holes that are accepted. -/
def acceptsLength (validator : Validator) (schema : Schema) (length : Nat) (value : Scalar)
    : Bool :=
  match schema.container, arrayLength value with
  | .array item, some longer => longer ≤ length || validator.accepts item none
  | _, _ => true

/-- The schema allows the assignment `target[name] = value`. -/
def allows (validator : Validator) (schema : Schema) (target : Datum) (name : String)
    (value : Scalar) : Bool :=
  name = "__proto__"
  || match target with
    | .scalar _ => true
    | .object _ => validator.acceptsAt schema name value
    | .array elements _ =>
        if name = "length" then validator.acceptsLength schema elements.length value
        else validator.acceptsAt schema name value && validator.gapless schema target name

/-- The schema allows an assignment to the property `last` of what `parts` lead to. -/
def allowsPath (validator : Validator) (schema : Schema) (target : Datum) (parts : List String)
    (last : String) (value : Scalar) : Bool :=
  match parts with
  | [] => validator.allows schema target last value
  | part :: rest =>
      part = "__proto__"
      || match target.child part with
        | none => true
        | some inner =>
            (schema.children part).all fun child =>
              validator.allowsPath child inner rest last value

theorem acceptsAt_iff (validator : Validator) (schema : Schema) (name : String) (value : Scalar)
    : validator.acceptsAt schema name value = true
      ↔ ∀ child ∈ schema.children name,
          validator.accepts child (some (.scalar value)) = true :=
  List.all_eq_true

theorem allowsPath_scalar (validator : Validator) (schema : Schema) (held : Scalar)
    (parts : List String) (last : String) (value : Scalar)
    : validator.allowsPath schema (.scalar held) parts last value = true := by
  cases parts with
  | nil => simp [allowsPath, allows]
  | cons part rest => simp [allowsPath, Datum.child]

section

variable {validator : Validator} {schema : Schema} {target : Datum}

/-- An assignment keeps an accepted datum accepted exactly when the schema allows it. -/
theorem assign_iff (accepted : validator.accepts schema (some target) = true) (name : String)
    (value : Scalar)
    : (target.assign name value).Leaves
        (fun after => validator.accepts schema (some after) = true)
      ↔ validator.allows schema target name value = true := by
  by_cases proto : name = "__proto__"
  · simp [Datum.assign, allows, proto, Assigned.Leaves, accepted]
  · simp only [Datum.assign, allows, proto, if_false, decide_false, Bool.false_or]
    cases target with
    | scalar value => exact iff_of_true accepted rfl
    | object fields =>
        have unbroken : validator.gapless schema (.object fields) name = true := by
          simp [gapless]
        rw [acceptsAt_iff]
        exact (accepts_put_iff accepted rfl name (.scalar value)).trans (and_iff_left unbroken)
    | array elements fields =>
        by_cases length : name = "length"
        · obtain ⟨item, core, each⟩ := container_of_array accepted
          simp only [if_pos length, acceptsLength, core]
          cases taken : arrayLength value with
          | none => exact iff_of_true trivial rfl
          | some length =>
              have isArray : (Datum.array (resize elements length) fields).isObject = true := rfl
              simp only [Assigned.Leaves, accepts_container validator schema isArray, core]
              rw [validator.reads]
              simp only [Schema.acceptsBy, List.all_eq_true]
              rw [elements_resize_iff each length]
              simp
        · simp only [if_neg length, Bool.and_eq_true, acceptsAt_iff]
          exact accepts_put_iff accepted rfl name (.scalar value)

/-- What is assigned to a prototype leaves the datum. -/
theorem assignPrototype_leaves (accepted : validator.accepts schema (some target) = true)
    (rest : List String) (last : String) (value : Scalar)
    : (target.assignPrototype rest last value).Leaves
        (fun after => validator.accepts schema (some after) = true) := by
  unfold Datum.assignPrototype
  split
  · exact accepted
  · split
    · trivial
    · exact accepted
  · exact accepted
  · trivial

/-- What is assigned below a property keeps an accepted datum accepted exactly when it keeps what
the property holds accepted by all that is declared for it.
-/
theorem leaves_map_put_iff (accepted : validator.accepts schema (some target) = true)
    {name : String} {inner : Datum} (found : target.child name = some inner)
    (assigned : Assigned)
    : (assigned.map (target.put name)).Leaves
        (fun after => validator.accepts schema (some after) = true)
      ↔ ∀ child ∈ schema.children name,
          assigned.Leaves fun after => validator.accepts child (some after) = true := by
  cases assigned with
  | refused => exact iff_of_true trivial fun _ _ => trivial
  | threw => exact iff_of_true trivial fun _ _ => trivial
  | done after =>
      have object : target.isObject = true := Datum.isObject_of_child found
      exact (accepts_put_iff accepted object name after).trans
        (and_iff_left (gapless_of_child found))

/-- An assignment along a path keeps an accepted datum accepted exactly when the schema allows it,
by induction on the path.
-/
theorem assignPath_iff (accepted : validator.accepts schema (some target) = true)
    (parts : List String) (last : String) (value : Scalar)
    : (target.assignPath parts last value).Leaves
        (fun after => validator.accepts schema (some after) = true)
      ↔ validator.allowsPath schema target parts last value = true := by
  induction parts generalizing schema target with
  | nil => exact assign_iff accepted last value
  | cons part rest ih =>
      by_cases proto : part = "__proto__"
      · simp only [Datum.assignPath, allowsPath, proto, if_true, decide_true, Bool.true_or]
        exact iff_of_true (assignPrototype_leaves accepted rest last value) trivial
      · simp only [Datum.assignPath, allowsPath, proto, if_false, decide_false, Bool.false_or]
        cases found : target.child part with
        | none => exact iff_of_true trivial rfl
        | some inner =>
            simp only [List.all_eq_true]
            by_cases object : inner.isObject = true
            · rw [if_pos object]
              refine (leaves_map_put_iff accepted found _).trans ?_
              refine forall₂_congr fun child member => ?_
              exact ih (accepts_child accepted found child member)
            · rw [if_neg object]
              refine iff_of_true trivial fun child _ => ?_
              cases inner with
              | scalar held => exact allowsPath_scalar validator child held rest last value
              | object fields => exact absurd rfl object
              | array elements fields => exact absurd rfl object

/-- At the field of an object that a property holds, a schema allows what it declares there. -/
theorem allowsPath_field_iff {outer inner : String} {fields : List (String × Datum)}
    (found : target.child outer = some (.object fields)) (outerOwn : outer ≠ "__proto__")
    (innerOwn : inner ≠ "__proto__") (value : Scalar)
    : validator.allowsPath schema target [outer] inner value = true
      ↔ ∀ child ∈ schema.children outer, validator.acceptsAt child inner value = true := by
  simp [allowsPath, allows, outerOwn, innerOwn, found]

end

end Validator

-----------------------------------------------------------------------------------------
-- A validator
-----------------------------------------------------------------------------------------

mutual

/-- What a schema accepts, by recursion on it. -/
def Schema.accepts : Schema → Option Datum → Bool
  | .number checks, some (.scalar (.number value)) =>
      value ≠ .nan && checks.all (·.passes value)
  | .string minLength, some (.scalar (.string text)) => minLength ≤ textLength text
  | .boolean, some (.scalar (.boolean _)) => true
  | .enum options, some (.scalar (.string text)) => options.contains text
  | .nullable _, some (.scalar .null) => true
  | .nullable inner, found => inner.accepts found
  | .withDefault inner value, none => inner.accepts (some value)
  | .withDefault inner _, some found => inner.accepts (some found)
  | .array item, some (.array elements _) => elements.all fun element => item.accepts element
  | .object shape, some (.object fields) => acceptsShape shape fields
  | _, _ => false
termination_by structural schema => schema

/-- The fields hold what the shape asks of each. -/
def acceptsShape : List (String × Schema) → List (String × Datum) → Bool
  | [], _ => true
  | field :: rest, fields => acceptsField field fields && acceptsShape rest fields
termination_by structural shape => shape

def acceptsField : String × Schema → List (String × Datum) → Bool
  | (name, schema), fields => schema.accepts (fields.lookup name)
termination_by structural field => field

end

theorem acceptsShape_eq (shape : List (String × Schema)) (fields : List (String × Datum))
    : acceptsShape shape fields
      = shape.all fun field => field.2.accepts (fields.lookup field.1) := by
  induction shape with
  | nil => rfl
  | cons field rest ih =>
      rw [acceptsShape, acceptsField, ih, List.all_cons]

/-- The validator that recurses on schemas. -/
def Validator.recursive : Validator where
  accepts := Schema.accepts
  reads := by
    intro schema found
    cases found with
    | none => cases schema <;> rfl
    | some target =>
        cases target with
        | scalar value => cases schema <;> cases value <;> rfl
        | object fields =>
            cases schema with
            | object shape => exact acceptsShape_eq shape fields
            | _ => rfl
        | array elements fields => cases schema <;> rfl

end Schemas
