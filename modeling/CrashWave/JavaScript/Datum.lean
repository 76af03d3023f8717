import CrashWave.JavaScript.Text

/-! Data of JavaScript with arrays apart from objects, and assignments along paths of property
names. What is assigned is a scalar; a property that a shared prototype is given is not kept.
-/

namespace JavaScript

inductive Scalar where
  | null
  | boolean (value : Bool)
  | number (value : Number)
  | string (value : String)
  deriving DecidableEq

/-- An object has fields, an array elements (or holes) and fields of other names. -/
inductive Datum where
  | scalar (value : Scalar)
  | object (fields : List (String × Datum))
  | array (elements : List (Option Datum)) (fields : List (String × Datum))

/-- `Number(value)`. -/
def Scalar.toNumber : Scalar → Number
  | .null => 0
  | .boolean value => if value then 1 else 0
  | .number value => value
  | .string text => JavaScript.toNumber text

/-- What counts as true: neither missing nor `false`, zero, NaN or the empty text. -/
def Scalar.truthy : Scalar → Bool
  | .null => false
  | .boolean value => value
  | .number value => value ≠ 0 ∧ value ≠ .nan
  | .string text => text ≠ ""

/-- The index of an array that a property name is: the numeral of a number below `2 ^ 32 - 1`. -/
def arrayIndex (name : String) : Option Nat :=
  match readDigits 10 0 name.toList with
  | (index, _, []) => if toString index = name ∧ index < 4294967295 then some index else none
  | _ => none

/-- The length that an array takes from a value: a whole number below `2 ^ 32`. -/
def arrayLength (value : Scalar) : Option Nat :=
  match value.toNumber with
  | .finite length =>
      if length.den = 1 ∧ 0 ≤ length ∧ length < 4294967296 then some length.num.toNat else none
  | .infinity _ | .nan => none

/-- The fields after one of them is set, in its place or at the end. -/
def setField {α : Type*} (name : String) (value : α) : List (String × α) → List (String × α)
  | [] => [(name, value)]
  | (other, old) :: rest =>
      if name = other then (name, value) :: rest else (other, old) :: setField name value rest

/-- A set field reads back, and every other one is left, by induction on the fields. -/
theorem lookup_setField {α : Type*} (name : String) (value : α) (fields : List (String × α))
    (other : String)
    : (setField name value fields).lookup other
      = if other = name then some value else fields.lookup other := by
  induction fields with
  | nil =>
      by_cases same : other = name
      · simp [setField, same]
      · have different : (other == name) = false := beq_false_of_ne same
        simp [setField, same, different, List.lookup_cons]
  | cons field rest ih =>
      obtain ⟨first, old⟩ := field
      by_cases here : name = first
      · subst here
        by_cases same : other = name
        · simp [setField, same]
        · have different : (other == name) = false := beq_false_of_ne same
          simp [setField, same, different, List.lookup_cons]
      · by_cases same : other = first
        · subst same
          simp [setField, here, Ne.symm here]
        · have different : (other == first) = false := beq_false_of_ne same
          simpa [setField, here, different, List.lookup_cons] using ih

/-- The elements with one of them written, after holes where it is far beyond the last. -/
def writeElement {α : Type*} (elements : List (Option α)) (index : Nat) (value : α)
    : List (Option α) :=
  if index < elements.length then elements.set index (some value)
  else elements ++ List.replicate (index - elements.length) none ++ [some value]

/-- The elements cut or filled with holes to a length. -/
def resize {α : Type*} (elements : List (Option α)) (length : Nat) : List (Option α) :=
  elements.take length ++ List.replicate (length - elements.length) none

/-- What an assignment does: it is refused before it is made, it throws, or it is done. -/
inductive Assigned where
  | refused
  | threw
  | done (target : Datum)

/-- The datum that is left, if the assignment is done, meets a law. -/
def Assigned.Leaves (law : Datum → Prop) : Assigned → Prop
  | .refused | .threw => True
  | .done target => law target

def Assigned.map (within : Datum → Datum) : Assigned → Assigned
  | .refused => .refused
  | .threw => .threw
  | .done target => .done (within target)

theorem arrayIndex_length : arrayIndex "length" = none := by
  decide +kernel

namespace Datum

def isObject : Datum → Bool
  | .scalar _ => false
  | .object _ | .array _ _ => true

def truthy : Datum → Bool
  | .scalar value => value.truthy
  | .object _ | .array _ _ => true

/-- `first || second`. -/
def orElse (first second : Option Datum) : Option Datum := (first.filter truthy).or second

mutual

/-- `value.toString()` for data without functions, or nothing where it throws; `numberText` is
the text of a number. A `toString` of its own hides the inherited one, and is no function.
-/
def toText (numberText : Number → String) : Datum → Option String
  | .scalar .null => none
  | .scalar (.boolean value) => some (if value then "true" else "false")
  | .scalar (.number value) => some (numberText value)
  | .scalar (.string text) => some text
  | .object fields => if (fields.lookup "toString").isSome then none else some "[object Object]"
  | .array elements _ => (elementTexts numberText elements).map (String.intercalate ",")

/-- The texts of the elements of an array; holes and `null` have empty ones. -/
def elementTexts (numberText : Number → String) : List (Option Datum) → Option (List String)
  | [] => some []
  | none :: rest | some (.scalar .null) :: rest =>
      (elementTexts numberText rest).map ("" :: ·)
  | some element :: rest => do
      let text ← toText numberText element
      let others ← elementTexts numberText rest
      some (text :: others)

end

/-- The own property of a name. -/
def child (target : Datum) (name : String) : Option Datum :=
  match target with
  | .scalar _ => none
  | .object fields => fields.lookup name
  | .array elements fields =>
      if name = "length" then some (.scalar (.number (.finite elements.length)))
      else
        match arrayIndex name with
        | some index => elements[index]?.join
        | none => fields.lookup name

theorem isObject_of_child {target inner : Datum} {name : String}
    (found : target.child name = some inner)
    : target.isObject = true := by
  cases target with
  | scalar value => cases found
  | object fields => rfl
  | array elements fields => rfl

theorem child_of_arrayIndex (elements : List (Option Datum)) (fields : List (String × Datum))
    {name : String} {index : Nat} (place : arrayIndex name = some index)
    : (array elements fields).child name = elements[index]?.join := by
  have other : name ≠ "length" := by
    intro same
    rw [same, arrayIndex_length] at place
    cases place
  simp only [child, if_neg other, place]

/-- Sets an own property that is not the length of an array. -/
def put (target : Datum) (name : String) (inner : Datum) : Datum :=
  match target with
  | .scalar value => .scalar value
  | .object fields => .object (setField name inner fields)
  | .array elements fields =>
      match arrayIndex name with
      | some index => .array (writeElement elements index inner) fields
      | none => .array elements (setField name inner fields)

@[simp] theorem put_isObject (target : Datum) (name : String) (inner : Datum)
    : (target.put name inner).isObject = target.isObject := by
  cases target with
  | scalar value => rfl
  | object fields => rfl
  | array elements fields =>
      simp only [put]
      split <;> rfl

/-- `target[name] = value`. A prototype is not replaced by a scalar, and an array throws at what
is no length.
-/
def assign (target : Datum) (name : String) (value : Scalar) : Assigned :=
  if name = "__proto__" then .done target
  else
    match target with
    | .array elements fields =>
        if name = "length" then
          match arrayLength value with
          | none => .threw
          | some length => .done (.array (resize elements length) fields)
        else .done (target.put name (.scalar value))
    | .scalar _ | .object _ => .done (target.put name (.scalar value))

/-- An assignment to a prototype of `target`, where `rest` leads from the first of them. That of
arrays is an array.
-/
def assignPrototype (target : Datum) (rest : List String) (last : String) (value : Scalar)
    : Assigned :=
  match target, rest with
  | .object _, [] => .done target
  | .array _ _, [] =>
      if last = "length" ∧ arrayLength value = none then .threw else .done target
  | .array _ _, ["__proto__"] => .done target
  | _, _ => .refused

/-- Assigns to the property `last` of what `parts` lead to, and refuses if one of them is no
object.
-/
def assignPath (target : Datum) (parts : List String) (last : String) (value : Scalar)
    : Assigned :=
  match parts with
  | [] => target.assign last value
  | part :: rest =>
      if part = "__proto__" then target.assignPrototype rest last value
      else
        match target.child part with
        | none => .refused
        | some inner =>
            if inner.isObject then (inner.assignPath rest last value).map (target.put part)
            else .refused

end Datum

end JavaScript
