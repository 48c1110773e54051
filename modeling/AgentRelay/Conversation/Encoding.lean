import AgentRelay.Chunk
import AgentRelay.Conversation.Message
import AgentRelay.Json.Fields

/-!
# Messages as JSON

A message is written as an object with a role and a content, a block as an
object with a type tag.  Reading passes over fields that are not known, takes
null for an absent text, and keeps the place of a block whose type is not known.
It also takes arrays that give the fields in their order, the tag of a block
first, and a number for the tag.  Writing leaves absent texts out.

Main definitions:

- {lit}`Block.kind?` and {lit}`Block.fieldNames`: the kind that a tag stands
  for, and the fields of that kind.
- {lit}`Message.ofJson?`: the message that a value writes.
- {lit}`Message.toJson`: a message as a value.
-/

namespace AgentRelay

/-! ## Reading -/

/-- The role with a given name. -/
def Role.ofName? (name : String) : Option Role :=
  [Role.user, Role.assistant].find? fun role => role.name = name

/-- The source that fields write. -/
def ImageSource.ofFields? (fields : List (String × Json)) : Option ImageSource := do
  let kind ← Json.requiredText? fields "type"
  let mediaType ← Json.optionalText? fields "media_type"
  let data ← Json.optionalText? fields "data"
  let url ← Json.optionalText? fields "url"
  some ⟨kind, mediaType, data, url⟩

/-- The source of an image, in its field. -/
def ImageSource.inFields? (fields : List (String × Json)) : Option ImageSource :=
  ((fields.lookup "source").bind (Json.record? ["type", "media_type", "data", "url"])).bind
    ImageSource.ofFields?

/-- The kinds of blocks that are known, in the order of their numbers. -/
def Block.knownKinds : List String :=
  ["text", "image", "tool_use", "tool_result"]

/-- The kind that a tag stands for: the name of it, or its number.  A whole number
that no known kind has stands for an unknown one. -/
def Block.kind? : Json → Option String
  | .string kind => some kind
  | tag => tag.index?.map fun n => Block.knownKinds.getD n "unsupported"

/-- The names of the fields of a block after its tag, in their order. -/
def Block.fieldNames (kind : String) : List String :=
  if kind = "text" then ["text"]
  else if kind = "image" then ["source"]
  else if kind = "tool_use" then ["id", "name", "input"]
  else if kind = "tool_result" then ["tool_use_id", "content", "is_error"]
  else []

/-- The block of a kind that fields write, given the content among them. -/
def Block.ofFields? (kind : String) (fields : List (String × Json)) (content : Option Content) :
    Option Block :=
  if kind = "text" then (Json.requiredText? fields "text").map .text
  else if kind = "image" then (ImageSource.inFields? fields).map .image
  else if kind = "tool_use" then do
    let id ← Json.optionalText? fields "id"
    let name ← Json.requiredText? fields "name"
    some (.toolUse id name ((fields.lookup "input").getD .null))
  else if kind = "tool_result" then do
    let toolUseId ← Json.optionalText? fields "tool_use_id"
    let content ← content
    let isError ← Json.fieldOr? fields "is_error" Json.bool? false
    some (.toolResult toolUseId content isError)
  else some .unsupported

mutual

/-- The block that a value writes. -/
def Block.ofJson? : Json → Option Block
  | .object fields =>
    ((fields.lookup "type").bind Block.kind?).bind fun kind =>
      Block.ofFields? kind fields (Content.inFields? fields)
  | .array (tag :: items) =>
    (Block.kind? tag).bind fun kind =>
      if items.length ≤ (Block.fieldNames kind).length then
        Block.ofFields? kind ((Block.fieldNames kind).zip items)
          (Content.inItems? items (Block.fieldNames kind))
      else none
  | _ => none

/-- The blocks that the items of an array write. -/
def Block.ofItems? : List Json → Option (List Block)
  | [] => some []
  | item :: rest =>
    match Block.ofJson? item, Block.ofItems? rest with
    | some block, some blocks => some (block :: blocks)
    | _, _ => none

/-- The content that a value writes. -/
def Content.ofJson? : Json → Option Content
  | .string s => some (.text s)
  | .array items => (Block.ofItems? items).map .blocks
  | _ => none

/-- The content in the content field of an object. -/
def Content.inFields? : List (String × Json) → Option Content
  | [] => none
  | (name, value) :: rest =>
    if name = "content" then Content.ofJson? value else Content.inFields? rest

/-- The content among the items of an array that gives fields of given names. -/
def Content.inItems? : List Json → List String → Option Content
  | item :: rest, name :: names =>
    if name = "content" then Content.ofJson? item else Content.inItems? rest names
  | _, _ => none

end

/-- The message that a value writes. -/
def Message.ofJson? (j : Json) : Option Message := do
  let fields ← Json.record? ["role", "content"] j
  let role ← ((fields.lookup "role").bind Json.choice?).bind Role.ofName?
  let content ← Content.inFields? fields
  some ⟨role, content⟩

/-- The conversation that a value writes. -/
def Message.listOfJson? (j : Json) : Option (List Message) :=
  j.array?.bind fun items => items.mapM Message.ofJson?

/-! ## Writing -/

/-- A source as a value. -/
def ImageSource.toJson (s : ImageSource) : Json :=
  .object ([("type", .string s.kind)] ++ optionalField "media_type" .string s.mediaType ++
    optionalField "data" .string s.data ++ optionalField "url" .string s.url)

mutual

/-- A block as a value. -/
def Block.toJson : Block → Json
  | .text text => .object [("type", .string "text"), ("text", .string text)]
  | .image source => .object [("type", .string "image"), ("source", source.toJson)]
  | .toolUse id name input =>
    .object ([("type", .string "tool_use")] ++ optionalField "id" .string id ++
      [("name", .string name), ("input", input)])
  | .toolResult toolUseId content isError =>
    .object ([("type", .string "tool_result")] ++
      optionalField "tool_use_id" .string toolUseId ++
      [("content", content.toJson), ("is_error", .bool isError)])
  | .unsupported => .object [("type", .string "unsupported")]

/-- A content as a value. -/
def Content.toJson : Content → Json
  | .text text => .string text
  | .blocks blocks => .array (Block.itemsToJson blocks)

/-- Blocks as the items of an array. -/
def Block.itemsToJson : List Block → List Json
  | [] => []
  | block :: rest => block.toJson :: Block.itemsToJson rest

end

/-- A message as a value. -/
def Message.toJson (m : Message) : Json :=
  .object [("role", .string m.role.name), ("content", m.content.toJson)]

/-- The content of an object is the one in its content field. -/
theorem Content.inFields?_eq (fields : List (String × Json)) :
    Content.inFields? fields = (fields.lookup "content").bind Content.ofJson? := by
  induction fields with
  | nil => simp [Content.inFields?]
  | cons field rest ih =>
    obtain ⟨name, value⟩ := field
    by_cases h : name = "content"
    · simp [Content.inFields?, h]
    · have hne : ("content" == name) = false := by simpa using Ne.symm h
      simp [Content.inFields?, h, List.lookup_cons, hne, ih]

/-- The content among the items of an array is the one in the field of its place. -/
theorem Content.inItems?_eq (items : List Json) (names : List String) :
    Content.inItems? items names = Content.inFields? (names.zip items) := by
  induction items generalizing names with
  | nil => simp [Content.inItems?, Content.inFields?]
  | cons item rest ih =>
    cases names with
    | nil => rfl
    | cons name names => simp only [Content.inItems?, List.zip_cons_cons, Content.inFields?, ih]

/-- A role is read back from its name. -/
@[simp]
theorem Role.ofName?_name (role : Role) : Role.ofName? role.name = some role := by
  cases role <;> decide

end AgentRelay
