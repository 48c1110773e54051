import AgentRelay.Event.Items

/-!
# From events to chunks

Versions of the tool describe the same content with events of different shapes.
Each shape has a rule; the first rule that recognises an event decides what it
becomes, even if that is nothing.

Seven rules recognise an event by its type tag alone.  The others look for the
fields of a chat completion, for a wrapped event, or for whatever content an
event without a known type carries.

Main definitions:

- {lit}`Event.Rule` and {lit}`Event.rules`: the rules, in their order.
- {lit}`Event.chunks`: the chunks of an event.
-/

namespace AgentRelay
namespace Event

/-- A rule recognises an event and gives its chunks, or passes it on. -/
abbrev Rule :=
  Json → Model → Option (List Chunk)

/-! ## Type tags -/

/-- Tags of events that add a piece of text. -/
def textPieceKinds : List String :=
  ["response.output_text.delta", "response.text.delta"]

/-- Tags of events that add a piece of reasoning. -/
def reasoningPieceKinds : List String :=
  ["response.reasoning.delta", "response.reasoning_text.delta",
   "response.reasoning_summary.delta", "response.reasoning_summary_text.delta"]

/-- Tags of events that add a fragment of a tool call. -/
def toolCallPieceKinds : List String :=
  ["response.function_call_arguments.delta", "response.tool_call_arguments.delta"]

/-- Tags of events that carry an item. -/
def responseItemKinds : List String :=
  ["response.output_item.added", "response.output_item.done"]

/-- Tags of events that end a response. -/
def responseEndKinds : List String :=
  ["response.completed", "response.done"]

/-! ## Rules by type tag -/

/-- The usage chunk of a usage value, when there is one and it is an object. -/
def usageChunk? (usage : Option Json) (model : Model) : Option Chunk :=
  (usage.bind (Usage.summary? · model)).map .usage

/-- A piece of text. -/
def textPiece : Rule := fun event _ =>
  if hasKind event textPieceKinds then some ((textIn? event "delta").toList.map .text) else none

/-- A piece of reasoning. -/
def reasoningPiece : Rule := fun event _ =>
  if hasKind event reasoningPieceKinds then
    some ((textIn? event "delta").toList.map .reasoning)
  else none

/-- A fragment of a tool call.  The fragment may be empty, and an index that is
missing is zero. -/
def toolCallPiece : Rule := fun event _ =>
  if hasKind event toolCallPieceKinds then
    let index := (["index", "output_index"].findSome? fun name =>
      (event.get? name).bind Json.index?).getD 0
    some [.toolCall index
      (event.firstString? ["call_id", "tool_call_id", "id"])
      (event.firstString? ["name", "function_name"])
      ((event.firstString? ["delta", "arguments"]).getD "")]
  else none

/-- The chunks of the item in an event. -/
def chunksOfItemField (event : Json) : List Chunk :=
  (event.get? "item").elim [] chunksOfItem

/-- An item that was added or finished. -/
def responseItem : Rule := fun event _ =>
  if hasKind event responseItemKinds then some (chunksOfItemField event) else none

/-- The end of a response, with the usage inside the response or else beside it. -/
def responseEnd : Rule := fun event model =>
  if hasKind event responseEndKinds then
    let usage := ((event.get? "response").bind (·.getObject? "usage")).or (event.get? "usage")
    some (usageChunk? usage model).toList
  else none

/-- A finished item; items that were only begun or updated give nothing. -/
def progressItem : Rule := fun event _ =>
  match kind? event with
  | none => none
  | some kind =>
    if "item.".toList.isPrefixOf kind.toList then
      some (if kind = "item.completed" then chunksOfItemField event else [])
    else none

/-- The end of a turn, with its usage. -/
def turnEnd : Rule := fun event model =>
  if hasKind event ["turn.completed"] then some (usageChunk? (event.get? "usage") model).toList
  else none

/-! ## Rules by content -/

/-- A step of a chat completion: the content of its first choice. -/
def chatStep : Rule := fun event _ =>
  match (event.get? "choices").bind Json.array? with
  | some (choice :: _) =>
    some (((choice.get? "delta").bind (textIn? · "content")).toList.map .text)
  | _ => none

/-- The usage inside a wrapped token count: the last turn's, the totals, or the
wrapped event itself. -/
def tokenCountUsage (inner : Json) : Json :=
  (((inner.get? "info").bind (·.get? "last_token_usage")).or
    (inner.getObject? "info")).getD inner

/-- The chunk of a wrapped event. -/
def wrappedChunk? (inner : Json) (model : Model) : Option Chunk :=
  if hasKind inner ["agent_message_delta"] then (textIn? inner "delta").map .text
  else if hasKind inner ["agent_message"] then (textIn? inner "message").map .text
  else if hasKind inner ["agent_reasoning_delta"] then (textIn? inner "delta").map .reasoning
  else if hasKind inner ["agent_reasoning"] then (textIn? inner "text").map .reasoning
  else if hasKind inner ["token_count"] then usageChunk? (some (tokenCountUsage inner)) model
  else none

/-- An event wrapped in a message field. -/
def wrapped : Rule := fun event model =>
  (event.getObject? "msg").map fun inner => (wrappedChunk? inner model).toList

/-- The texts of the message field: a text that is not empty, or the texts of a
message's content. -/
def messageFieldTexts (event : Json) : List String :=
  match event.get? "message" with
  | some (.string text) => if text = "" then [] else [text]
  | some (.object fields) => messageTexts (.object fields)
  | _ => []

/-- The content of an event without a known type: the first of its item, its
message, its text and its usage that yields anything. -/
def bareContent : Rule := fun event model =>
  let item := (event.getObject? "item").elim [] chunksOfItem
  let message := (messageFieldTexts event).map Chunk.text
  let text := (textIn? event "text").toList.map Chunk.text
  let usage := (usageChunk? (event.get? "usage") model).toList
  [item, message, text, usage].find? fun chunks => !chunks.isEmpty

/-! ## The table -/

/-- The rules in the order they are tried. -/
def rules : List Rule :=
  [textPiece, reasoningPiece, toolCallPiece, responseItem, responseEnd, chatStep,
   wrapped, progressItem, turnEnd, bareContent]

/-- The chunks of an event: those of the first rule that recognises it. -/
def chunks (event : Json) (model : Model) : List Chunk :=
  (rules.findSome? fun rule => rule event model).getD []

end Event
end AgentRelay
