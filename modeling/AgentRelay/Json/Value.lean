/-!
# JSON values

Events, usage reports and tool inputs are free JSON values.  Integers in the
range of 64-bit words, signed or unsigned, stay integers; every other number is
a double.  A value that comes from the reader has its object fields sorted by
name, each name once.

Main definitions:

- {lit}`Json.Number` and {lit}`Json`: numbers and values.
- {lit}`Json.get?`: a field of an object.
- {lit}`Json.insertField`: sorted insertion, replacing a field of that name.
- {lit}`Json.canonical`: a value with all its objects sorted.
-/

namespace AgentRelay

/-! ## Values -/

/-- A JSON number: an integer or a double. -/
inductive Json.Number where
  | integer (n : Int)
  | double (x : Float)
deriving DecidableEq, Repr

/-- A JSON value. -/
inductive Json where
  | null
  | bool (b : Bool)
  | number (n : Json.Number)
  | string (s : String)
  | array (items : List Json)
  | object (fields : List (String × Json))
deriving Repr, Inhabited

namespace Json

/-- The integers that are read as integers: those of a signed or an unsigned
64-bit word. -/
def Number.InRange (n : Int) : Prop :=
  -Nat.pow 2 63 ≤ n ∧ n < Nat.pow 2 64

instance (n : Int) : Decidable (Number.InRange n) :=
  inferInstanceAs (Decidable (_ ∧ _))

/-- An integer as a JSON value. -/
def int (n : Int) : Json :=
  .number (.integer n)

/-- A whole number as a JSON value. -/
def nat (n : Nat) : Json :=
  .int n

/-! ## Parts of a value -/

/-- The field of an object with a given name; nothing else has fields. -/
def get? : Json → String → Option Json
  | .object fields, name => fields.lookup name
  | _, _ => none

/-- The text of a string. -/
def string? : Json → Option String
  | .string s => some s
  | _ => none

/-- The text of a string that is not empty. -/
def nonEmptyString? (j : Json) : Option String :=
  j.string?.filter (· ≠ "")

/-- The truth value of a boolean. -/
def bool? : Json → Option Bool
  | .bool b => some b
  | _ => none

/-- The items of an array. -/
def array? : Json → Option (List Json)
  | .array items => some items
  | _ => none

/-- The fields of an object. -/
def object? : Json → Option (List (String × Json))
  | .object fields => some fields
  | _ => none

/-- The value is an object. -/
def isObject (j : Json) : Bool :=
  j.object?.isSome

/-- The number as a whole number below {lit}`2 ^ 64`, when it was written as one. -/
def index? : Json → Option Nat
  | .number (.integer n) => if 0 ≤ n ∧ n < Nat.pow 2 64 then some n.toNat else none
  | _ => none

/-- The number as a double. -/
def double? : Json → Option Float
  | .number (.integer n) => some (Float.ofInt n)
  | .number (.double x) => some x
  | _ => none

/-- The first of several fields that holds a string. -/
def firstString? (j : Json) (names : List String) : Option String :=
  names.findSome? fun name => (j.get? name).bind string?

/-- A field that holds an object. -/
def getObject? (j : Json) (name : String) : Option Json :=
  (j.get? name).filter isObject

@[simp]
theorem get?_object (fields : List (String × Json)) (name : String) :
    (object fields).get? name = fields.lookup name :=
  rfl

/-- A name that no field has is not found. -/
theorem lookup_eq_none_of_ne {fields : List (String × Json)} {name : String}
    (h : ∀ field ∈ fields, field.1 ≠ name) : fields.lookup name = none := by
  rw [List.lookup_eq_none_iff]
  intro field hfield
  simpa using (h field hfield).symm

@[simp]
theorem string?_string (s : String) : (string s).string? = some s :=
  rfl

@[simp]
theorem array?_array (items : List Json) : (array items).array? = some items :=
  rfl

theorem string?_eq_some_iff {j : Json} {s : String} : j.string? = some s ↔ j = .string s := by
  cases j <;> simp [string?]

theorem nonEmptyString?_eq_some_iff {j : Json} {s : String} :
    j.nonEmptyString? = some s ↔ j = .string s ∧ s ≠ "" := by
  rw [nonEmptyString?, Option.filter_eq_some_iff, string?_eq_some_iff, decide_eq_true_eq]

theorem isObject_iff {j : Json} : j.isObject = true ↔ ∃ fields, j = .object fields := by
  cases j <;> simp [isObject, object?]

/-- A value with a field is an object. -/
theorem isObject_of_get? {j v : Json} {name : String} (h : j.get? name = some v) :
    j.isObject = true := by
  cases j with
  | object fields => rfl
  | null => cases h
  | bool b => cases h
  | number n => cases h
  | string s => cases h
  | array items => cases h

/-- What is no object has no fields. -/
theorem get?_of_not_isObject {j : Json} (h : j.isObject = false) (name : String) :
    j.get? name = none := by
  cases hfound : j.get? name with
  | none => rfl
  | some v =>
    rw [isObject_of_get? hfound] at h
    cases h

theorem getObject?_of_get? {j v : Json} {name : String} (h : j.get? name = some v)
    (hv : v.isObject = true) : j.getObject? name = some v := by
  simp [getObject?, h, hv]

/-- A field that is kept only as an object is an object. -/
theorem isObject_of_getObject? {j v : Json} {name : String} (h : j.getObject? name = some v) :
    v.isObject = true := by
  simp only [getObject?, Option.filter_eq_some_iff] at h
  exact h.2

/-- Only objects have fields that are kept as objects. -/
theorem isObject_self_of_getObject? {j v : Json} {name : String} (h : j.getObject? name = some v) :
    j.isObject = true :=
  isObject_of_get? (Option.filter_eq_some_iff.1 h).1

/-! ## Sorted objects -/

/-- A field put in its place among sorted fields; one of the same name gives way. -/
def insertField (name : String) (value : Json) :
    List (String × Json) → List (String × Json)
  | [] => [(name, value)]
  | (other, old) :: rest =>
    if name = other then (name, value) :: rest
    else if name < other then (name, value) :: (other, old) :: rest
    else (other, old) :: insertField name value rest

/-- Fields sorted by name; of several with one name the last stays. -/
def sortFields (fields : List (String × Json)) : List (String × Json) :=
  fields.foldl (fun sorted field => insertField field.1 field.2 sorted) []

/-- The new field is found under its name. -/
theorem lookup_insertField_self (name : String) (value : Json) (fields : List (String × Json)) :
    (insertField name value fields).lookup name = some value := by
  induction fields with
  | nil => simp [insertField]
  | cons field rest ih =>
    obtain ⟨other, old⟩ := field
    by_cases h : name = other
    · simp [insertField, h]
    · by_cases hlt : name < other
      · simp [insertField, h, hlt]
      · have hne : (name == other) = false := by simp [h]
        simp [insertField, h, hlt, List.lookup_cons, hne, ih]

/-- Every other name is found where it was. -/
theorem lookup_insertField_of_ne {name key : String} (h : key ≠ name) (value : Json)
    (fields : List (String × Json)) :
    (insertField name value fields).lookup key = fields.lookup key := by
  have hne : (key == name) = false := by simp [h]
  induction fields with
  | nil => simp [insertField, List.lookup_cons, hne]
  | cons field rest ih =>
    obtain ⟨other, old⟩ := field
    by_cases ho : name = other
    · subst ho
      simp [insertField, List.lookup_cons, hne]
    · by_cases hlt : name < other
      · simp [insertField, ho, hlt, List.lookup_cons, hne]
      · simp [insertField, ho, hlt, List.lookup_cons, ih]

mutual

/-- A value with the fields of all its objects sorted by name. -/
def canonical : Json → Json
  | .null => .null
  | .bool b => .bool b
  | .number n => .number n
  | .string s => .string s
  | .array items => .array (canonicalItems items)
  | .object fields => .object (sortFields (canonicalFields fields))

/-- The items of an array, each made canonical. -/
def canonicalItems : List Json → List Json
  | [] => []
  | item :: rest => item.canonical :: canonicalItems rest

/-- The fields of an object with each value made canonical. -/
def canonicalFields : List (String × Json) → List (String × Json)
  | [] => []
  | (name, value) :: rest => (name, value.canonical) :: canonicalFields rest

end

end Json
end AgentRelay
