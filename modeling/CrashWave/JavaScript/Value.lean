import CrashWave.JavaScript.Text

/-! Plain objects of JavaScript, read and written along paths of property names. An array
is an object over its indices; a write onto the shared prototype is not kept.
-/

namespace JavaScript

/-- A value in a tree of plain objects, with what an object inherits. -/
inductive Value where
  | null
  | boolean (value : Bool)
  | number (value : Number)
  | string (value : String)
  | function
  | prototype
  | object (fields : List (String × Value))

namespace Value

/-- The methods that every object inherits. -/
def inheritedMethods : List String :=
  ["constructor", "hasOwnProperty", "isPrototypeOf", "propertyIsEnumerable",
    "toLocaleString", "toString", "valueOf", "__defineGetter__", "__defineSetter__",
    "__lookupGetter__", "__lookupSetter__"]

/-- An inherited method, if the name is one. -/
def inherited (name : String) : Option Value :=
  if name ∈ inheritedMethods then some .function else none

/-- The own field of a name. -/
def getField (name : String) : List (String × Value) → Option Value
  | [] => none
  | (other, value) :: rest => if other = name then some value else getField name rest

/-- `value[name]`, own before inherited; nothing stands for `undefined`. -/
def getProperty (value : Value) (name : String) : Option Value :=
  match value with
  | .object fields =>
      if name = "__proto__" then some .prototype
      else (getField name fields).or (inherited name)
  | .prototype => if name = "__proto__" then some .null else inherited name
  | _ => none

/-- The own fields after one of them is set, in its place or at the end. -/
def setField (name : String) (value : Value)
    : List (String × Value) → List (String × Value)
  | [] => [(name, value)]
  | (other, old) :: rest =>
      if other = name then (name, value) :: rest else (other, old) :: setField name value rest

/-- `target[name] = value` for a value that is no object, or for an own field. -/
def setProperty (target : Value) (name : String) (value : Value) : Value :=
  match target with
  | .object fields =>
      if name = "__proto__" then .object fields else .object (setField name value fields)
  | other => other

/-- The value at the end of a path, which goes through objects only. -/
def getPath (value : Value) : List String → Option Value
  | [] => some value
  | part :: parts => (value.getProperty part).bind fun inner => inner.getPath parts

/-- Sets the property `last` of the object that `parts` lead to; nothing if they lead
through anything else.
-/
def setPath (target : Value) (parts : List String) (last : String) (value : Value)
    : Option Value :=
  match parts with
  | [] => some (target.setProperty last value)
  | part :: rest =>
      match target.getProperty part with
      | some (.object fields) =>
          ((Value.object fields).setPath rest last value).map (target.setProperty part)
      | some .prototype => if rest = [] then some target else none
      | _ => none

/-- `Number(value)`, where an object is not a number. -/
def toNumber : Value → Number
  | .null => 0
  | .boolean value => if value then 1 else 0
  | .number value => value
  | .string text => JavaScript.toNumber text
  | _ => .nan

/-- `value[name]` where `undefined` and `null` count as missing. -/
def getPresent (value : Value) (name : String) : Option Value :=
  match value.getProperty name with
  | some .null => none
  | found => found

/-- The value is no object with fields of its own. -/
def Leaf : Value → Prop
  | .object _ => False
  | _ => True

/-- The value is this text. -/
def isText (text : String) : Option Value → Bool
  | some (.string other) => other = text
  | _ => false

theorem isText_iff {text : String} {value : Option Value}
    : isText text value = true ↔ value = some (.string text) := by
  unfold isText
  split
  · simp
  · next other => exact iff_of_false Bool.false_ne_true (other text)

/-- A set field reads back, and every other one is left, by induction on the fields. -/
theorem getField_setField (name : String) (value : Value) (fields : List (String × Value))
    (other : String)
    : getField other (setField name value fields)
      = if other = name then some value else getField other fields := by
  induction fields with
  | nil => simp [setField, getField, eq_comm]
  | cons field rest ih =>
      obtain ⟨first, old⟩ := field
      by_cases here : first = name
      · subst here
        by_cases same : other = first
        · simp [setField, getField, same]
        · simp [setField, getField, same, Ne.symm same]
      · simp only [setField, here, if_false, getField, ih]
        by_cases same : first = other
        · subst same
          simp [here]
        · simp [same]

/-- What a write to one property makes of another read: the written value at the same
name, and the old value everywhere else.
-/
theorem getProperty_setProperty {target value read : Value} {name other : String}
    (found : (target.setProperty name value).getProperty other = some read)
    : target.getProperty other = some read ∨ (other = name ∧ read = value) := by
  cases target with
  | object fields =>
      by_cases proto : name = "__proto__"
      · left
        simpa only [setProperty, proto, if_true] using found
      by_cases same : other = name
      · subst same
        simp only [setProperty, proto, if_false, getProperty, getField_setField, if_true,
          Option.some_or, Option.some.injEq] at found
        exact .inr ⟨rfl, found.symm⟩
      · left
        simpa only [setProperty, proto, same, if_false, getProperty, getField_setField]
          using found
  | _ => exact .inl found

/-- A write below the first name changes what is there, or is lost on a prototype. -/
theorem setPath_cons {root written value : Value} {part last : String} {rest : List String}
    (set : root.setPath (part :: rest) last value = some written)
    : written = root
      ∨ ∃ fields changed, root.getProperty part = some (.object fields)
        ∧ (Value.object fields).setPath rest last value = some changed
        ∧ written = root.setProperty part changed := by
  rw [setPath] at set
  split at set
  · next fields here =>
      obtain ⟨changed, deeper, equal⟩ := Option.map_eq_some_iff.mp set
      exact .inr ⟨fields, changed, here, deeper, equal.symm⟩
  · split at set
    · exact .inl (Option.some.inj set).symm
    · cases set
  · cases set

theorem setProperty_object (fields : List (String × Value)) (name : String) (value : Value)
    : ∃ others, (Value.object fields).setProperty name value = .object others := by
  by_cases proto : name = "__proto__"
  · exact ⟨fields, by simp [setProperty, proto]⟩
  · exact ⟨setField name value fields, by simp [setProperty, proto]⟩

/-- Writing along a path keeps an object an object. -/
theorem setPath_object {fields : List (String × Value)} {parts : List String} {last : String}
    {value written : Value}
    (set : (Value.object fields).setPath parts last value = some written)
    : ∃ others, written = .object others := by
  cases parts with
  | nil =>
      obtain rfl : (Value.object fields).setProperty last value = written :=
        Option.some.inj set
      exact setProperty_object fields last value
  | cons part rest =>
      rcases setPath_cons set with rfl | ⟨_, changed, -, -, rfl⟩
      · exact ⟨fields, rfl⟩
      · exact setProperty_object fields part changed

/-- No property of a leaf is a text. -/
theorem Leaf.getProperty_ne_string {value : Value} (leaf : value.Leaf) (name text : String)
    : value.getProperty name ≠ some (.string text) := by
  cases value with
  | object fields => exact leaf.elim
  | prototype =>
      simp only [getProperty, inherited]
      split
      · simp
      · split <;> simp
  | _ => simp [getProperty]

/-- A leaf written along a path makes a text appear two names deep only when the path is
those two names and the leaf is that text.
-/
theorem text_of_setPath {root written value : Value} {parts : List String}
    {last outer inner text : String} (leaf : value.Leaf)
    (set : root.setPath parts last value = some written)
    (found : written.getPath [outer, inner] = some (.string text))
    : root.getPath [outer, inner] = some (.string text)
      ∨ (parts = [outer] ∧ last = inner ∧ value = .string text) := by
  simp only [getPath, Option.bind_eq_some_iff, Option.some.injEq, exists_eq_right]
    at found ⊢
  obtain ⟨object, atOuter, atInner⟩ := found
  cases parts with
  | nil =>
      obtain rfl : root.setProperty last value = written := Option.some.inj set
      rcases getProperty_setProperty atOuter with kept | ⟨-, rfl⟩
      · exact .inl ⟨object, kept, atInner⟩
      · exact absurd atInner (leaf.getProperty_ne_string inner text)
  | cons part rest =>
      rcases setPath_cons set with rfl | ⟨fields, changed, here, deeper, rfl⟩
      · exact .inl ⟨object, atOuter, atInner⟩
      rcases getProperty_setProperty atOuter with kept | ⟨rfl, rfl⟩
      · exact .inl ⟨object, kept, atInner⟩
      cases rest with
      | nil =>
          obtain rfl : (Value.object fields).setProperty last value = object :=
            Option.some.inj deeper
          rcases getProperty_setProperty atInner with kept | ⟨rfl, rfl⟩
          · exact .inl ⟨.object fields, here, kept⟩
          · exact .inr ⟨rfl, rfl, rfl⟩
      | cons next rest =>
          -- what a longer path leaves at its second name is an object, never a text
          rcases setPath_cons deeper with rfl | ⟨_, deepest, -, below, rfl⟩
          · exact .inl ⟨_, here, atInner⟩
          rcases getProperty_setProperty atInner with kept | ⟨rfl, rfl⟩
          · exact .inl ⟨.object fields, here, kept⟩
          · obtain ⟨others, contradiction⟩ := setPath_object below
            cases contradiction

end Value

end JavaScript
