import AgentRelay.Conversation.Message
import AgentRelay.Json.Writer
import AgentRelay.Text.Blank
import AgentRelay.ToolError
import AgentRelay.Chunk

/-!
# Prompts

A prompt is what the tool gets to read: the system prompt and the messages of
the conversation.  The tool takes no images, so each is replaced by a text that
names its kind and media type, and a tool result is reduced to its texts.  A
block of an unknown kind makes the message that holds it malformed, unless it
stands inside a tool result.

Main definitions:

- {lit}`Prompt` and {lit}`PromptBlock`: what is sent.
- {lit}`Block.texts`: the texts a list of blocks is reduced to.
- {lit}`Block.gatherAll`: these texts, put behind texts that were gathered before.
- {lit}`PromptBlock.ofBlock`: the form in which a block is sent.
- {lit}`Prompt.build`: the prompt of a conversation.
- {lit}`Prompt.wire`: the text that is sent.
-/

namespace AgentRelay

/-! ## What is sent -/

/-- The content of a tool result as it is sent: one text, or a list of texts. -/
inductive ResultText where
  | whole (text : String)
  | parts (texts : List String)
deriving DecidableEq, Repr

/-- A block as it is sent. -/
inductive PromptBlock where
  | text (text : String)
  | toolUse (id : Option String) (name : String) (input : Json)
  | toolResult (toolUseId : Option String) (content : ResultText)

/-- A content as it is sent. -/
inductive PromptContent where
  | text (text : String)
  | blocks (blocks : List PromptBlock)

/-- A message as it is sent. -/
structure PromptMessage where
  role : Role
  content : PromptContent

/-- Everything that is sent for one run. -/
structure Prompt where
  system : Option String
  messages : List PromptMessage

/-! ## Reducing blocks to texts -/

/-- The text that stands for an image. -/
def ImageSource.standIn (s : ImageSource) : String :=
  "[Image (" ++ s.kind ++ "): " ++ s.mediaType.getD "unknown media type" ++
    " not supported by Codex CLI]"

mutual

/-- The texts of a block: its own, or those of the tool result it is. -/
def Block.leaves : Block → List String
  | .text text => [text]
  | .image source => [source.standIn]
  | .toolResult _ content _ => content.leaves
  | .toolUse _ _ _ => []
  | .unsupported => []

/-- The texts of a content. -/
def Content.leaves : Content → List String
  | .text text => [text]
  | .blocks blocks => Block.texts blocks

/-- The texts of a list of blocks, in order. -/
def Block.texts : List Block → List String
  | [] => []
  | block :: rest => block.leaves ++ Block.texts rest

end

@[simp]
theorem Block.texts_append (as bs : List Block) :
    Block.texts (as ++ bs) = Block.texts as ++ Block.texts bs := by
  induction as with
  | nil => simp [Block.texts]
  | cons a as ih => simp [Block.texts, ih]

mutual

/-- The texts gathered so far, and behind them those of a block. -/
def Block.gather : Block → Array String → Array String
  | .text text, parts => parts.push text
  | .image source, parts => parts.push source.standIn
  | .toolResult _ content _, parts => content.gather parts
  | .toolUse _ _ _, parts => parts
  | .unsupported, parts => parts

/-- The texts gathered so far, and behind them those of a content. -/
def Content.gather : Content → Array String → Array String
  | .text text, parts => parts.push text
  | .blocks blocks, parts => Block.gatherAll blocks parts

/-- The texts gathered so far, and behind them those of a list of blocks. -/
def Block.gatherAll : List Block → Array String → Array String
  | [], parts => parts
  | block :: rest, parts => Block.gatherAll rest (block.gather parts)

end

mutual

/-- Gathering puts the texts of a block behind those that are there. -/
theorem Block.toList_gather (block : Block) (parts : Array String) :
    (block.gather parts).toList = parts.toList ++ block.leaves := by
  cases block with
  | text text => simp [Block.gather, Block.leaves]
  | image source => simp [Block.gather, Block.leaves]
  | toolUse id name input => simp [Block.gather, Block.leaves]
  | toolResult id content isError =>
    simpa [Block.gather, Block.leaves] using content.toList_gather parts
  | unsupported => simp [Block.gather, Block.leaves]

theorem Content.toList_gather (content : Content) (parts : Array String) :
    (content.gather parts).toList = parts.toList ++ content.leaves := by
  cases content with
  | text text => simp [Content.gather, Content.leaves]
  | blocks blocks =>
    simpa [Content.gather, Content.leaves] using Block.toList_gatherAll blocks parts

theorem Block.toList_gatherAll (blocks : List Block) (parts : Array String) :
    (Block.gatherAll blocks parts).toList = parts.toList ++ Block.texts blocks := by
  cases blocks with
  | nil => simp [Block.gatherAll, Block.texts]
  | cons block rest =>
    rw [Block.gatherAll, Block.toList_gatherAll rest, block.toList_gather, Block.texts,
      List.append_assoc]

end

/-- The content of a tool result as it is sent. -/
def ResultText.ofContent : Content → ResultText
  | .text text => .whole text
  | .blocks blocks => .parts (Block.gatherAll blocks #[]).toList

/-- Of blocks the texts are sent, in order. -/
@[simp]
theorem ResultText.ofContent_blocks (blocks : List Block) :
    ResultText.ofContent (.blocks blocks) = .parts (Block.texts blocks) := by
  simp [ResultText.ofContent, Block.toList_gatherAll]

/-! ## Building a prompt -/

/-- What is said about a block of an unknown kind. -/
def unknownBlock : ToolError :=
  .malformedMessage "content block has an unrecognized type"

/-- The form in which a block is sent. -/
def PromptBlock.ofBlock : Block → Except ToolError PromptBlock
  | .text s => .ok (.text s)
  | .image source => .ok (.text source.standIn)
  | .toolUse id name input => .ok (.toolUse id name input)
  | .toolResult toolUseId content _ => .ok (.toolResult toolUseId (.ofContent content))
  | .unsupported => .error unknownBlock

/-- The form in which a content is sent. -/
def PromptContent.ofContent : Content → Except ToolError PromptContent
  | .text s => .ok (.text s)
  | .blocks bs => (bs.mapM PromptBlock.ofBlock).map .blocks

/-- The form in which a message is sent. -/
def PromptMessage.ofMessage (m : Message) : Except ToolError PromptMessage :=
  (PromptContent.ofContent m.content).map fun content => ⟨m.role, content⟩

/-- The prompt of a conversation.  The system prompt is trimmed, and left out
when it is blank. -/
def Prompt.build (system : String) (messages : List Message) : Except ToolError Prompt :=
  (messages.mapM PromptMessage.ofMessage).map fun sent => ⟨Text.nonBlank? system, sent⟩

/-- Only a block of an unknown kind cannot be sent. -/
theorem PromptBlock.ofBlock_eq_error_iff {b : Block} {e : ToolError} :
    PromptBlock.ofBlock b = .error e ↔ b.isUnsupported = true ∧ e = unknownBlock := by
  cases b <;> simp [PromptBlock.ofBlock, Block.isUnsupported, eq_comm]

/-! ## The text that is sent -/

/-- A text as a part of a tool result. -/
def ResultText.partToJson (text : String) : Json :=
  .object [("type", .string "text"), ("text", .string text)]

/-- The content of a tool result as a value. -/
def ResultText.toJson : ResultText → Json
  | .whole text => .string text
  | .parts texts => .array (texts.map partToJson)

/-- A block as a value. -/
def PromptBlock.toJson : PromptBlock → Json
  | .text s => .object [("type", .string "text"), ("text", .string s)]
  | .toolUse id name input =>
    .object ([("type", .string "tool_use")] ++ optionalField "id" .string id ++
      [("name", .string name), ("input", input)])
  | .toolResult toolUseId content =>
    .object ([("type", .string "tool_result")] ++
      optionalField "tool_use_id" .string toolUseId ++ [("content", content.toJson)])

/-- A content as a value. -/
def PromptContent.toJson : PromptContent → Json
  | .text s => .string s
  | .blocks bs => .array (bs.map PromptBlock.toJson)

/-- A message as a value. -/
def PromptMessage.toJson (m : PromptMessage) : Json :=
  .object [("role", .string m.role.name), ("content", m.content.toJson)]

/-- A prompt as a value, the system prompt first. -/
def Prompt.toJson (p : Prompt) : Json :=
  .object (optionalField "systemPrompt" .string p.system ++
    [("messages", .array (p.messages.map PromptMessage.toJson))])

/-- The text that is sent for a prompt. -/
def Prompt.wire (p : Prompt) : String :=
  p.toJson.render

end AgentRelay
