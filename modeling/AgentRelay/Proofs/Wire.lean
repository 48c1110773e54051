import AgentRelay.Conversation.Encoding
import AgentRelay.Event.Line
import AgentRelay.Proofs.Conversation.Translation
import AgentRelay.Proofs.JsonOrder
import AgentRelay.Proofs.JsonText
import Mathlib.Data.List.Forall2

/-!
# A prompt is read back from the text that is sent

The text that is sent for a prompt is one line, and the reader of event lines finds the prompt
in it again, whole: the system prompt where there is one, every message in its place with its
role, every text to the character, identifiers only where they are given, and the inputs of
tools.  So no two prompts are sent as the same text.  This holds as long as the inputs of tools
hold no numbers but integers and the whole is nested no deeper than the reader goes.

Main definitions:

- {lit}`Prompt.Plain`: the prompts that the reader can take.
- {lit}`Prompt.ofJson?`: the prompt that a value writes.
- {lit}`ShowsConversation`: how a conversation is laid out in the value that is sent for it.

Main results:

- Theorem {lit}`Prompt.ofLine?_wire`: the text that is sent is read as the value of the prompt.
- Theorem {lit}`Prompt.ofJson?_canonical_toJson`: the prompt is read back from its value.
- Theorem {lit}`Prompt.showsConversation`: the value shows the conversation.
- Theorem {lit}`Prompt.readBack_of_build`: all of this together, for a prompt that was built.
-/

namespace AgentRelay

/-! ## Inputs of tools -/

/-- The input that is sent to a tool. -/
def PromptBlock.input? : PromptBlock → Option Json
  | .toolUse _ _ input => some input
  | _ => none

/-- The inputs of tools in a content. -/
def PromptContent.inputs : PromptContent → List Json
  | .text _ => []
  | .blocks bs => bs.filterMap PromptBlock.input?

/-- The inputs of tools in a prompt. -/
def Prompt.inputs (p : Prompt) : List Json :=
  p.messages.flatMap fun m => m.content.inputs

/-- A prompt with no numbers but integers of 64-bit words, nested no deeper than the reader
goes. -/
structure Prompt.Plain (p : Prompt) : Prop where
  numbers : ∀ input ∈ p.inputs, input.EveryNumber Json.Number.IsWord
  nesting : p.toJson.depth ≤ Json.nestingLimit

/-- The inputs of tools are sorted, as they are when they come from the reader. -/
def Prompt.Sorted (p : Prompt) : Prop :=
  ∀ input ∈ p.inputs, input.Sorted

/-- A block with its input made canonical. -/
def PromptBlock.canonical : PromptBlock → PromptBlock
  | .text s => .text s
  | .toolUse id name input => .toolUse id name input.canonical
  | .toolResult toolUseId content => .toolResult toolUseId content

/-- A content with its inputs made canonical. -/
def PromptContent.canonical : PromptContent → PromptContent
  | .text s => .text s
  | .blocks bs => .blocks (bs.map PromptBlock.canonical)

/-- A message with its inputs made canonical. -/
def PromptMessage.canonical (m : PromptMessage) : PromptMessage :=
  ⟨m.role, m.content.canonical⟩

/-- A prompt with its inputs made canonical. -/
def Prompt.canonical (p : Prompt) : Prompt :=
  ⟨p.system, p.messages.map PromptMessage.canonical⟩

theorem PromptBlock.canonical_eq_self {b : PromptBlock} (h : ∀ input ∈ b.input?, input.Sorted) :
    b.canonical = b := by
  cases b with
  | text s => rfl
  | toolUse id name input => rw [canonical, Json.canonical_of_sorted input (h input rfl)]
  | toolResult toolUseId content => rfl

theorem PromptContent.canonical_eq_self {c : PromptContent}
    (h : ∀ input ∈ c.inputs, input.Sorted) : c.canonical = c := by
  cases c with
  | text s => rfl
  | blocks bs =>
    have hblocks : bs.map PromptBlock.canonical = bs.map id := by
      apply List.map_congr_left
      intro b hb
      apply PromptBlock.canonical_eq_self
      intro input hinput
      exact h input (List.mem_filterMap.2 ⟨b, hb, hinput⟩)
    rw [canonical, hblocks, List.map_id]

/-- A prompt whose inputs are sorted is canonical. -/
theorem Prompt.canonical_eq_self {p : Prompt} (h : p.Sorted) : p.canonical = p := by
  have hmessages : p.messages.map PromptMessage.canonical = p.messages.map id := by
    apply List.map_congr_left
    intro m hm
    have hcontent : m.content.canonical = m.content := by
      apply PromptContent.canonical_eq_self
      intro input hinput
      exact h input (List.mem_flatMap.2 ⟨m, hm, hinput⟩)
    rw [PromptMessage.canonical, hcontent, id]
  rw [canonical, hmessages, List.map_id]

/-! ## Reading the text -/

section Numbers

variable {P : Json.Number → Prop}

theorem everyNumberOfFields_optionalField (name : String) (s : Option String) :
    Json.EveryNumberOfFields P (optionalField name .string s) := by
  cases s with
  | none => trivial
  | some s => exact ⟨trivial, trivial⟩

theorem ResultText.everyNumber_toJson (content : ResultText) : content.toJson.EveryNumber P := by
  cases content with
  | whole s => trivial
  | parts texts =>
    apply Json.everyNumberOfItems_iff.2
    intro item hitem
    obtain ⟨s, -, rfl⟩ := List.mem_map.1 hitem
    exact ⟨trivial, trivial, trivial⟩

/-- The numbers of a block are those of its input. -/
theorem PromptBlock.everyNumber_toJson {b : PromptBlock}
    (h : ∀ input ∈ b.input?, input.EveryNumber P) : b.toJson.EveryNumber P := by
  have htype : ∀ kind, Json.EveryNumberOfFields P [("type", .string kind)] :=
    fun _ => ⟨trivial, trivial⟩
  cases b with
  | text s => exact ⟨trivial, trivial, trivial⟩
  | toolUse id name input =>
    apply Json.everyNumberOfFields_append.2
    constructor
    · exact Json.everyNumberOfFields_append.2 ⟨htype _, everyNumberOfFields_optionalField "id" id⟩
    · exact ⟨trivial, h input rfl, trivial⟩
  | toolResult toolUseId content =>
    apply Json.everyNumberOfFields_append.2
    constructor
    · exact Json.everyNumberOfFields_append.2
        ⟨htype _, everyNumberOfFields_optionalField "tool_use_id" toolUseId⟩
    · exact ⟨content.everyNumber_toJson, trivial⟩

theorem PromptContent.everyNumber_toJson {c : PromptContent}
    (h : ∀ input ∈ c.inputs, input.EveryNumber P) : c.toJson.EveryNumber P := by
  cases c with
  | text s => trivial
  | blocks bs =>
    apply Json.everyNumberOfItems_iff.2
    intro item hitem
    obtain ⟨b, hb, rfl⟩ := List.mem_map.1 hitem
    apply PromptBlock.everyNumber_toJson
    intro input hinput
    exact h input (List.mem_filterMap.2 ⟨b, hb, hinput⟩)

/-- The numbers of a prompt are those of its inputs. -/
theorem Prompt.everyNumber_toJson {p : Prompt} (h : ∀ input ∈ p.inputs, input.EveryNumber P) :
    p.toJson.EveryNumber P := by
  have hmessages : Json.EveryNumberOfItems P (p.messages.map PromptMessage.toJson) := by
    apply Json.everyNumberOfItems_iff.2
    intro item hitem
    obtain ⟨m, hm, rfl⟩ := List.mem_map.1 hitem
    have hcontent : m.content.toJson.EveryNumber P := by
      apply PromptContent.everyNumber_toJson
      intro input hinput
      exact h input (List.mem_flatMap.2 ⟨m, hm, hinput⟩)
    exact ⟨trivial, hcontent, trivial⟩
  exact Json.everyNumberOfFields_append.2
    ⟨everyNumberOfFields_optionalField "systemPrompt" p.system, hmessages, trivial⟩

end Numbers

/-- The text that is sent is one line. -/
theorem Prompt.newline_notMem_wire (p : Prompt) : '\n' ∉ p.wire.toList := by
  rw [wire, Json.render, String.toList_ofList]
  exact Json.newline_notMem_renderChars p.toJson

/-- The line that is sent is read as the value of the prompt, with its objects sorted. -/
theorem Prompt.ofLine?_wire {p : Prompt} (h : p.Plain) :
    Event.ofLine? p.wire = some p.toJson.canonical := by
  have htrim : Text.trimChars p.toJson.renderChars = p.toJson.renderChars := by
    apply Text.trimChars_eq_self
    · intro c hc
      rw [toJson, Json.head?_renderChars_object] at hc
      cases hc
      decide
    · intro c hc
      rw [toJson, Json.getLast?_renderChars_object] at hc
      cases hc
      decide
  have hnumbers : p.toJson.EveryNumber Json.Number.ReadsBack :=
    Json.EveryNumber.imp (fun _ hn => hn.readsBack) _ (Prompt.everyNumber_toJson h.numbers)
  rw [Event.ofLine?, wire, Json.render, String.toList_ofList, htrim]
  exact Json.parseChars?_renderChars hnumbers h.nesting

/-! ## The layout of what is sent -/

/-- The fields of a text block. -/
structure TextFields (fields : List (String × Json)) (s : String) : Prop where
  type : fields.lookup "type" = some (.string "text")
  text : fields.lookup "text" = some (.string s)

/-- The fields of a tool use; the identifier is there only where one is given. -/
structure ToolUseFields (fields : List (String × Json)) (id : Option String) (name : String)
    (input : Json) : Prop where
  type : fields.lookup "type" = some (.string "tool_use")
  id : fields.lookup "id" = id.map .string
  name : fields.lookup "name" = some (.string name)
  input : fields.lookup "input" = some input

/-- The fields of a tool result; the identifier is there only where one is given. -/
structure ToolResultFields (fields : List (String × Json)) (toolUseId : Option String)
    (content : Json) : Prop where
  type : fields.lookup "type" = some (.string "tool_result")
  toolUseId : fields.lookup "tool_use_id" = toolUseId.map .string
  content : fields.lookup "content" = some content

/-- The fields of a message. -/
structure MessageFields (fields : List (String × Json)) (role : Role) (content : Json) :
    Prop where
  role : fields.lookup "role" = some (.string role.name)
  content : fields.lookup "content" = some content

/-- The fields of a prompt; the system prompt is there only where one is given. -/
structure PromptFields (fields : List (String × Json)) (system : Option String)
    (entries : List Json) : Prop where
  system : fields.lookup "systemPrompt" = system.map .string
  messages : fields.lookup "messages" = some (.array entries)

/-! ### The values that are sent

Each name is given once in the objects that are sent, so sorting their fields changes nothing
but the order. -/

theorem exists_textFields (s : String) :
    ∃ fields, (PromptBlock.text s).toJson.canonical = .object fields ∧ TextFields fields s := by
  have hnodup : ([("type", Json.string "text"), ("text", .string s)].map Prod.fst).Nodup := by
    simp
  refine ⟨_, rfl, ?_, ?_⟩
  all_goals
    rw [Json.lookup_sortFields_canonicalFields hnodup]
    simp [List.lookup_cons, Json.canonical]

theorem exists_toolUseFields (id : Option String) (name : String) (input : Json) :
    ∃ fields, (PromptBlock.toolUse id name input).toJson.canonical = .object fields ∧
      ToolUseFields fields id name input.canonical := by
  have hnodup : (([("type", Json.string "tool_use")] ++ optionalField "id" .string id ++
      [("name", .string name), ("input", input)]).map Prod.fst).Nodup := by
    cases id <;> simp [optionalField]
  refine ⟨_, rfl, ?_, ?_, ?_, ?_⟩
  all_goals
    rw [Json.lookup_sortFields_canonicalFields hnodup]
    simp [List.lookup_append, List.lookup_cons, Json.canonical]

theorem exists_toolResultFields (toolUseId : Option String) (content : ResultText) :
    ∃ fields, (PromptBlock.toolResult toolUseId content).toJson.canonical = .object fields ∧
      ToolResultFields fields toolUseId content.toJson.canonical := by
  have hnodup : (([("type", Json.string "tool_result")] ++
      optionalField "tool_use_id" .string toolUseId ++
        [("content", content.toJson)]).map Prod.fst).Nodup := by
    cases toolUseId <;> simp [optionalField]
  refine ⟨_, rfl, ?_, ?_, ?_⟩
  all_goals
    rw [Json.lookup_sortFields_canonicalFields hnodup]
    simp [List.lookup_append, List.lookup_cons, Json.canonical]

theorem exists_messageFields (m : PromptMessage) :
    ∃ fields, m.toJson.canonical = .object fields ∧
      MessageFields fields m.role m.content.toJson.canonical := by
  have hnodup : ([("role", Json.string m.role.name),
      ("content", m.content.toJson)].map Prod.fst).Nodup := by
    simp
  refine ⟨_, rfl, ?_, ?_⟩
  all_goals
    rw [Json.lookup_sortFields_canonicalFields hnodup]
    simp [List.lookup_cons, Json.canonical]

theorem exists_promptFields (p : Prompt) :
    ∃ fields, p.toJson.canonical = .object fields ∧
      PromptFields fields p.system (Json.canonicalItems (p.messages.map PromptMessage.toJson)) := by
  have hnodup : ((optionalField "systemPrompt" .string p.system ++
      [("messages", Json.array (p.messages.map PromptMessage.toJson))]).map Prod.fst).Nodup := by
    cases p.system <;> simp [optionalField]
  refine ⟨_, rfl, ?_, ?_⟩
  all_goals
    rw [Json.lookup_sortFields_canonicalFields hnodup]
    simp [List.lookup_append, List.lookup_cons, Json.canonical]

/-! ## Reading a prompt back -/

/-- The text that a part of a tool result writes. -/
def ResultText.part? : Json → Option String
  | .object fields => do
    let kind ← Json.requiredText? fields "type"
    if kind = "text" then Json.requiredText? fields "text" else none
  | _ => none

/-- The content of a tool result that a value writes. -/
def ResultText.ofJson? : Json → Option ResultText
  | .string s => some (.whole s)
  | .array items => (items.mapM ResultText.part?).map .parts
  | _ => none

/-- The block that a value writes. -/
def PromptBlock.ofJson? : Json → Option PromptBlock
  | .object fields => do
    let kind ← Json.requiredText? fields "type"
    if kind = "text" then
      let s ← Json.requiredText? fields "text"
      some (.text s)
    else if kind = "tool_use" then
      let id ← Json.optionalText? fields "id"
      let name ← Json.requiredText? fields "name"
      let input ← fields.lookup "input"
      some (.toolUse id name input)
    else if kind = "tool_result" then
      let toolUseId ← Json.optionalText? fields "tool_use_id"
      let content ← (fields.lookup "content").bind ResultText.ofJson?
      some (.toolResult toolUseId content)
    else none
  | _ => none

/-- The content that a value writes. -/
def PromptContent.ofJson? : Json → Option PromptContent
  | .string s => some (.text s)
  | .array items => (items.mapM PromptBlock.ofJson?).map .blocks
  | _ => none

/-- The message that a value writes. -/
def PromptMessage.ofJson? : Json → Option PromptMessage
  | .object fields => do
    let role ← (Json.requiredText? fields "role").bind Role.ofName?
    let content ← (fields.lookup "content").bind PromptContent.ofJson?
    some ⟨role, content⟩
  | _ => none

/-- The prompt that a value writes. -/
def Prompt.ofJson? : Json → Option Prompt
  | .object fields => do
    let system ← Json.optionalText? fields "systemPrompt"
    let entries ← (fields.lookup "messages").bind Json.array?
    let messages ← entries.mapM PromptMessage.ofJson?
    some ⟨system, messages⟩
  | _ => none

/-- Items that are read back one by one are read back together. -/
theorem mapM_canonicalItems {read : Json → Option γ} {write : α → Json} {back : α → γ}
    (h : ∀ a, read (write a).canonical = some (back a)) (as : List α) :
    (Json.canonicalItems (as.map write)).mapM read = some (as.map back) := by
  induction as with
  | nil => rfl
  | cons a as ih => simp [Json.canonicalItems, h, ih]

theorem ResultText.part?_canonical_partToJson (s : String) :
    part? (partToJson s).canonical = some s := by
  obtain ⟨fields, hfields, h⟩ := exists_textFields s
  have hpart : (partToJson s).canonical = .object fields := hfields
  simp [hpart, part?, Json.requiredText?, h.type, h.text]

theorem ResultText.ofJson?_canonical_toJson (content : ResultText) :
    ofJson? content.toJson.canonical = some content := by
  cases content with
  | whole s => rfl
  | parts texts =>
    rw [toJson, Json.canonical, ofJson?, mapM_canonicalItems part?_canonical_partToJson]
    simp

/-- A block is read back, its input sorted. -/
theorem PromptBlock.ofJson?_canonical_toJson (b : PromptBlock) :
    ofJson? b.toJson.canonical = some b.canonical := by
  cases b with
  | text s =>
    obtain ⟨fields, hfields, h⟩ := exists_textFields s
    simp [hfields, ofJson?, Json.requiredText?, h.type, h.text, canonical]
  | toolUse id name input =>
    obtain ⟨fields, hfields, h⟩ := exists_toolUseFields id name input
    simp [hfields, ofJson?, Json.requiredText?, Json.optionalText?_of_lookup h.id, h.type,
      h.name, h.input, canonical]
  | toolResult toolUseId content =>
    obtain ⟨fields, hfields, h⟩ := exists_toolResultFields toolUseId content
    simp [hfields, ofJson?, Json.requiredText?, Json.optionalText?_of_lookup h.toolUseId, h.type,
      h.content, content.ofJson?_canonical_toJson, canonical]

theorem PromptContent.ofJson?_canonical_toJson (c : PromptContent) :
    ofJson? c.toJson.canonical = some c.canonical := by
  cases c with
  | text s => rfl
  | blocks bs =>
    rw [toJson, Json.canonical, ofJson?,
      mapM_canonicalItems PromptBlock.ofJson?_canonical_toJson]
    rfl

theorem PromptMessage.ofJson?_canonical_toJson (m : PromptMessage) :
    ofJson? m.toJson.canonical = some m.canonical := by
  obtain ⟨fields, hfields, h⟩ := exists_messageFields m
  simp [hfields, ofJson?, Json.requiredText?, h.role, h.content,
    m.content.ofJson?_canonical_toJson, canonical]

/-- A prompt is read back from the value that is sent for it, its inputs sorted. -/
theorem Prompt.ofJson?_canonical_toJson (p : Prompt) :
    ofJson? p.toJson.canonical = some p.canonical := by
  obtain ⟨fields, hfields, h⟩ := exists_promptFields p
  have hmessages := mapM_canonicalItems PromptMessage.ofJson?_canonical_toJson p.messages
  simp [hfields, ofJson?, Json.optionalText?_of_lookup h.system, h.messages, hmessages, canonical]

/-- Prompts that are sent as one text are the same, up to the order of fields in inputs. -/
theorem Prompt.canonical_eq_of_wire_eq {p q : Prompt} (hp : p.Plain) (hq : q.Plain)
    (h : q.wire = p.wire) : q.canonical = p.canonical := by
  have hvalue : q.toJson.canonical = p.toJson.canonical := by
    have hline := ofLine?_wire hq
    rw [h, ofLine?_wire hp] at hline
    exact (Option.some.inj hline).symm
  have hread := ofJson?_canonical_toJson q
  rw [hvalue, ofJson?_canonical_toJson p] at hread
  exact (Option.some.inj hread).symm

/-! ## What the text shows of a conversation -/

/-- A value is a text block. -/
inductive ShowsText (s : String) : Json → Prop where
  | mk {fields : List (String × Json)} (h : TextFields fields s) : ShowsText s (.object fields)

/-- The content of a tool result as it is shown: one text, or each of its texts as a block. -/
inductive Content.ShownInResult : Content → Json → Prop where
  | text (s : String) : Content.ShownInResult (.text s) (.string s)
  | blocks {bs : List Block} {items : List Json}
      (h : List.Forall₂ ShowsText (Block.texts bs) items) :
      Content.ShownInResult (.blocks bs) (.array items)

/-- A block as it is shown.  A text stands in for an image; an input is shown as the same
value, whatever the order of its fields. -/
inductive Block.ShownIn : Block → Json → Prop where
  | text {s : String} {fields : List (String × Json)} (h : TextFields fields s) :
      Block.ShownIn (.text s) (.object fields)
  | image {source : ImageSource} {fields : List (String × Json)}
      (h : TextFields fields source.standIn) : Block.ShownIn (.image source) (.object fields)
  | toolUse {id : Option String} {name : String} {input : Json} {fields : List (String × Json)}
      (h : ToolUseFields fields id name input.canonical) :
      Block.ShownIn (.toolUse id name input) (.object fields)
  | toolResult {toolUseId : Option String} {content : Content} {isError : Bool} {shown : Json}
      {fields : List (String × Json)} (h : ToolResultFields fields toolUseId shown)
      (hcontent : content.ShownInResult shown) :
      Block.ShownIn (.toolResult toolUseId content isError) (.object fields)

/-- A content as it is shown: one text, or its blocks in their order. -/
inductive Content.ShownIn : Content → Json → Prop where
  | text (s : String) : Content.ShownIn (.text s) (.string s)
  | blocks {bs : List Block} {items : List Json} (h : List.Forall₂ Block.ShownIn bs items) :
      Content.ShownIn (.blocks bs) (.array items)

/-- A message as it is shown. -/
inductive Message.ShownIn (m : Message) : Json → Prop where
  | mk {fields : List (String × Json)} {shown : Json} (h : MessageFields fields m.role shown)
      (hcontent : m.content.ShownIn shown) : Message.ShownIn m (.object fields)

/-- A value shows a conversation: the trimmed system prompt unless it is blank, and the
messages in their order. -/
inductive ShowsConversation (system : String) (messages : List Message) : Json → Prop where
  | mk {fields : List (String × Json)} {entries : List Json}
      (h : PromptFields fields (Text.nonBlank? system) entries)
      (hentries : List.Forall₂ Message.ShownIn messages entries) :
      ShowsConversation system messages (.object fields)

/-- What is shown of items one by one is shown of the array that they are sent as. -/
theorem forall₂_canonicalItems {Shown : α → Json → Prop} {write : β → Json} {as : List α}
    {bs : List β} (h : List.Forall₂ (fun a b => Shown a (write b).canonical) as bs) :
    List.Forall₂ Shown as (Json.canonicalItems (bs.map write)) := by
  rw [Json.canonicalItems_eq_map, List.map_map]
  exact List.forall₂_map_right_iff.2 h

/-- The content of a tool result is shown as it is sent. -/
theorem Content.shownInResult (c : Content) :
    c.ShownInResult (ResultText.ofContent c).toJson.canonical := by
  cases c with
  | text s => exact .text s
  | blocks bs =>
    rw [ResultText.ofContent_blocks]
    apply ShownInResult.blocks
    apply forall₂_canonicalItems
    apply List.forall₂_same.2
    intro s hs
    obtain ⟨fields, hfields, h⟩ := exists_textFields s
    have hpart : (ResultText.partToJson s).canonical = .object fields := hfields
    rw [hpart]
    exact .mk h

/-- A block is shown as it is sent. -/
theorem Block.shownIn_of_ofBlock {block : Block} {b : PromptBlock}
    (h : PromptBlock.ofBlock block = .ok b) : block.ShownIn b.toJson.canonical := by
  cases block with
  | text s =>
    cases h
    obtain ⟨fields, hfields, hshown⟩ := exists_textFields s
    rw [hfields]
    exact .text hshown
  | image source =>
    cases h
    obtain ⟨fields, hfields, hshown⟩ := exists_textFields source.standIn
    rw [hfields]
    exact .image hshown
  | toolUse id name input =>
    cases h
    obtain ⟨fields, hfields, hshown⟩ := exists_toolUseFields id name input
    rw [hfields]
    exact .toolUse hshown
  | toolResult toolUseId content isError =>
    cases h
    obtain ⟨fields, hfields, hshown⟩ :=
      exists_toolResultFields toolUseId (ResultText.ofContent content)
    rw [hfields]
    exact .toolResult hshown content.shownInResult
  | unsupported => cases h

/-- A content is shown as it is sent. -/
theorem Content.shownIn_of_ofContent {c : Content} {sent : PromptContent}
    (h : PromptContent.ofContent c = .ok sent) : c.ShownIn sent.toJson.canonical := by
  cases c with
  | text s =>
    cases h
    exact .text s
  | blocks bs =>
    obtain ⟨blocks, hblocks, rfl⟩ := map_eq_ok_iff.1 h
    apply ShownIn.blocks
    apply forall₂_canonicalItems
    exact (mapM_eq_ok_iff.1 hblocks).imp fun _ _ hb => Block.shownIn_of_ofBlock hb

/-- A message is shown as it is sent. -/
theorem Message.shownIn_of_ofMessage {m : Message} {sent : PromptMessage}
    (h : PromptMessage.ofMessage m = .ok sent) : m.ShownIn sent.toJson.canonical := by
  obtain ⟨content, hcontent, rfl⟩ := map_eq_ok_iff.1 h
  obtain ⟨fields, hfields, hshown⟩ := exists_messageFields ⟨m.role, content⟩
  rw [hfields]
  exact .mk hshown (Content.shownIn_of_ofContent hcontent)

/-- A conversation is shown as it is sent. -/
theorem Prompt.showsConversation {system : String} {messages : List Message} {p : Prompt}
    (h : Prompt.build system messages = .ok p) :
    ShowsConversation system messages p.toJson.canonical := by
  obtain ⟨sent, hsent, rfl⟩ := map_eq_ok_iff.1 h
  obtain ⟨fields, hfields, hshown⟩ := exists_promptFields ⟨Text.nonBlank? system, sent⟩
  rw [hfields]
  apply ShowsConversation.mk hshown
  apply forall₂_canonicalItems
  exact (mapM_eq_ok_iff.1 hsent).imp fun _ _ hm => Message.shownIn_of_ofMessage hm

/-- The text that is sent for a conversation is one line.  The reader of event lines reads it
as an object that shows the conversation and from which the prompt is read back; so prompts
that are sent as one text are the same. -/
theorem Prompt.readBack_of_build {system : String} {messages : List Message} {p : Prompt}
    (hbuild : Prompt.build system messages = .ok p) (hplain : p.Plain) :
    '\n' ∉ p.wire.toList ∧
    (∃ j, Event.ofLine? p.wire = some j ∧ ShowsConversation system messages j ∧
      Prompt.ofJson? j = some p.canonical ∧ (p.Sorted → Prompt.ofJson? j = some p)) ∧
    ∀ q : Prompt, q.Plain → q.wire = p.wire →
      q.canonical = p.canonical ∧ (q.Sorted → p.Sorted → q = p) := by
  refine ⟨newline_notMem_wire p, ⟨p.toJson.canonical, ofLine?_wire hplain,
    showsConversation hbuild, ofJson?_canonical_toJson p, fun hsorted => ?_⟩, ?_⟩
  · rw [ofJson?_canonical_toJson p, canonical_eq_self hsorted]
  · intro q hq hwire
    have hsame := canonical_eq_of_wire_eq hplain hq hwire
    refine ⟨hsame, fun hqs hps => ?_⟩
    rwa [canonical_eq_self hqs, canonical_eq_self hps] at hsame

/-- A conversation with quotes, control characters and characters outside the first plane, an
image, a nested input with the greatest integer, and a tool result without an identifier. -/
def mixedConversation : List Message :=
  [⟨.user, .text "tab\there, \\ \x01 and 😀"⟩,
   ⟨.assistant, .blocks [.toolUse (some "t1") "search" (.object
      [("depth", .array [.int (-5), .object [("max", .int 18446744073709551615)]]),
       ("query", .string "é\n")]),
     .image ⟨"base64", none, some "AAAA", none⟩]⟩,
   ⟨.user, .blocks [.toolResult none (.blocks [.text "a \"b\"", .unsupported]) false]⟩]

/-- The prompt of that conversation. -/
def mixedPrompt : Prompt where
  system := some "Be \"kind\"."
  messages :=
    [⟨.user, .text "tab\there, \\ \x01 and 😀"⟩,
     ⟨.assistant, .blocks [.toolUse (some "t1") "search" (.object
        [("depth", .array [.int (-5), .object [("max", .int 18446744073709551615)]]),
         ("query", .string "é\n")]),
       .text "[Image (base64): unknown media type not supported by Codex CLI]"]⟩,
     ⟨.user, .blocks [.toolResult none (.parts ["a \"b\""])]⟩]

theorem build_mixedConversation :
    Prompt.build "  Be \"kind\".\n" mixedConversation = .ok mixedPrompt := by
  have hsystem : Text.nonBlank? "  Be \"kind\".\n" = some "Be \"kind\"." := by decide
  have himage : ImageSource.standIn ⟨"base64", none, some "AAAA", none⟩ =
      "[Image (base64): unknown media type not supported by Codex CLI]" := by decide
  have hmessages : mixedConversation.mapM PromptMessage.ofMessage = .ok mixedPrompt.messages := by
    rw [mixedPrompt, ← himage]
    rfl
  rw [Prompt.build, hsystem, hmessages]
  rfl

theorem mixedPrompt_plain : mixedPrompt.Plain := by
  constructor
  · intro input hinput
    obtain rfl := List.mem_singleton.1 hinput
    have hleast : Json.Number.IsWord (.integer (-5)) := ⟨-5, rfl, by decide⟩
    have hgreatest : Json.Number.IsWord (.integer 18446744073709551615) :=
      ⟨18446744073709551615, rfl, by decide⟩
    exact ⟨⟨hleast, ⟨hgreatest, trivial⟩, trivial⟩, trivial, trivial⟩
  · decide

theorem mixedPrompt_sorted : mixedPrompt.Sorted := by
  intro input hinput
  obtain rfl := List.mem_singleton.1 hinput
  have hnames : [("depth", Json.array [.int (-5), .object [("max", .int 18446744073709551615)]]),
      ("query", .string "é\n")].Pairwise fun a b => a.1 < b.1 := by
    decide
  exact ⟨hnames, ⟨trivial, ⟨List.pairwise_singleton _ _, trivial, trivial⟩, trivial⟩, trivial,
    trivial⟩

/-- The text that is sent for this conversation is read back. -/
theorem mixedPrompt_readBack :
    Prompt.build "  Be \"kind\".\n" mixedConversation = .ok mixedPrompt ∧ mixedPrompt.Plain ∧
      ∃ j, Event.ofLine? mixedPrompt.wire = some j ∧
        ShowsConversation "  Be \"kind\".\n" mixedConversation j ∧
        Prompt.ofJson? j = some mixedPrompt := by
  obtain ⟨-, ⟨j, hline, hshown, -, hread⟩, -⟩ :=
    Prompt.readBack_of_build build_mixedConversation mixedPrompt_plain
  exact ⟨build_mixedConversation, mixedPrompt_plain, j, hline, hshown, hread mixedPrompt_sorted⟩

end AgentRelay
