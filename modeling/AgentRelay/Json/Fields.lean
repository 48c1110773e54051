import AgentRelay.Json.Value

/-!
# Reading the fields of a record

A record is written as an object, or as an array with its fields in their order.
A field is required or optional; an optional text may also be written as null.  A
value of the wrong kind is refused, and fields that the record does not have are
passed over in an object and refused in an array.

Main definitions:

- {lit}`Json.record?`: the named fields of a record.
- {lit}`Json.requiredText?`: a field that has to hold a string.
- {lit}`Json.optionalText?`: a field that may hold a string.
- {lit}`Json.fieldOr?`: a field with a default.
- {lit}`Json.choice?`: a name out of a fixed choice.
-/

namespace AgentRelay
namespace Json

/-- The named fields of a record with fields of given names.  An array may end
early, and then the fields that it does not reach are absent. -/
def record? (names : List String) : Json → Option (List (String × Json))
  | .object fields => some fields
  | .array items => if items.length ≤ names.length then some (names.zip items) else none
  | _ => none

/-- The string of a field that has to be there. -/
def requiredText? (fields : List (String × Json)) (name : String) : Option String :=
  (fields.lookup name).bind string?

/-- The string of a field that may be absent or null. -/
def optionalText? (fields : List (String × Json)) (name : String) : Option (Option String) :=
  match fields.lookup name with
  | none => some none
  | some .null => some none
  | some (.string s) => some (some s)
  | some _ => none

/-- A field read by {lit}`read`, or the default when it is absent. -/
def fieldOr? (fields : List (String × Json)) (name : String) (read : Json → Option α)
    (default : α) : Option α :=
  match fields.lookup name with
  | none => some default
  | some value => read value

/-- A value that is absent when it is null, and read by {lit}`read` otherwise. -/
def nullable? (read : Json → Option α) : Json → Option (Option α)
  | .null => some none
  | value => (read value).map some

/-- A name out of a fixed choice: a string, or an object whose only field has
that name and holds null. -/
def choice? : Json → Option String
  | .string s => some s
  | .object [(name, .null)] => some name
  | _ => none

/-- An absent optional text is read as absent. -/
theorem optionalText?_of_lookup_none {fields : List (String × Json)} {name : String}
    (h : fields.lookup name = none) : optionalText? fields name = some none := by
  simp [optionalText?, h]

/-- An optional text that is there is read as it is. -/
theorem optionalText?_of_lookup_string {fields : List (String × Json)} {name s : String}
    (h : fields.lookup name = some (.string s)) :
    optionalText? fields name = some (some s) := by
  simp [optionalText?, h]

/-- An optional text is read as what its field holds. -/
theorem optionalText?_of_lookup {fields : List (String × Json)} {name : String}
    {text : Option String} (h : fields.lookup name = text.map .string) :
    optionalText? fields name = some text := by
  cases text with
  | none => exact optionalText?_of_lookup_none h
  | some s => exact optionalText?_of_lookup_string h

end Json
end AgentRelay
