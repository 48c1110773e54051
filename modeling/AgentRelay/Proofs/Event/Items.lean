import AgentRelay.Proofs.Event.RuleTable
import Mathlib.Data.List.Forall2

/-!
# Items and the events they come in

An item comes as a part that was added to a response or finished there, as a finished step, or
bare.  It becomes the same chunks in all of these events, and a bare message becomes what it
becomes as an item.  The content of a message is a list of blocks, and its chunks are the texts
of those blocks that are tagged as text, in their order.

Main definitions:

- {lit}`Json.withField`: an object with one field put in.
- {lit}`Event.itemEvents` and {lit}`Event.bareMessage`: the events that carry an item or a
  message.
- {lit}`Event.IsMessage`: a message with its blocks.
- {lit}`Event.IsTextBlock` and {lit}`Event.BlockGives`: what a block adds to the chunks.

Main results:

- Theorem {lit}`chunks_of_mem_itemEvents`: what the events that carry an item become.
- Theorem {lit}`exists_parts_of_blocks`: what the blocks of a message become, one by one.
- Theorem {lit}`chunks_of_items`: all of this together.
-/

namespace AgentRelay
namespace Json

/-! ## Fields put in -/

/-- An object with a field put in; one of the same name gives way. -/
def withField : Json → String → Json → Json
  | .object fields, name, value => .object (insertField name value fields)
  | other, _, _ => other

theorem get?_withField_self {j : Json} (h : j.isObject = true) (name : String) (value : Json) :
    (j.withField name value).get? name = some value := by
  obtain ⟨fields, rfl⟩ := isObject_iff.1 h
  exact lookup_insertField_self name value fields

theorem get?_withField_of_ne {name key : String} (h : key ≠ name) (j value : Json) :
    (j.withField name value).get? key = j.get? key := by
  cases j with
  | object fields => exact lookup_insertField_of_ne h value fields
  | null => rfl
  | bool b => rfl
  | number n => rfl
  | string s => rfl
  | array items => rfl

end Json

namespace Event

variable {event item message : Json} {model : Model}

/-! ## Events that carry items -/

/-- An event with an item under a type tag. -/
def taggedItem (tag : String) (item : Json) : Json :=
  .object [("item", item), ("type", .string tag)]

/-- An event with nothing but an item. -/
def bareItem (item : Json) : Json :=
  .object [("item", item)]

/-- An event with nothing but a message. -/
def bareMessage (message : Json) : Json :=
  .object [("message", message)]

/-- The events that carry an item. -/
def itemEvents (item : Json) : List Json :=
  [taggedItem "response.output_item.added" item, taggedItem "response.output_item.done" item,
   taggedItem "item.completed" item, bareItem item]

/-- A part of a response becomes the chunks of its item. -/
theorem chunks_of_responseItem (hkind : hasKind event responseItemKinds = true) (model : Model) :
    chunks event model = chunksOfItemField event := by
  have hmem : (responseItemKinds, responseItem) ∈ taggedRules := by simp [taggedRules]
  exact chunks_of_mem_taggedRules hmem (if_pos hkind)

/-- A finished step becomes the chunks of its item, unless it has a choice or wraps another
event. -/
theorem chunks_of_completedItem (hkind : kind? event = some "item.completed")
    (hchoice : ¬ HasChoice event) (hmsg : event.getObject? "msg" = none) (model : Model) :
    chunks event model = chunksOfItemField event := by
  apply chunks_of_laterRule (List.mem_pair.2 (.inl rfl)) _ hchoice hmsg
  simp only [progressItem, hkind]
  exact if_pos (by decide)

/-! ## Bare content -/

/-- Where all parts but one yield nothing, that one is found. -/
theorem getD_find?_of_only {parts : List (List Chunk)} {found : List Chunk}
    (hmem : found ∈ parts) (honly : ∀ part ∈ parts, part = [] ∨ part = found) :
    (parts.find? fun part => !part.isEmpty).getD [] = found := by
  cases hfind : parts.find? fun part => !part.isEmpty with
  | none =>
    have hempty : found = [] := by simpa using List.find?_eq_none.1 hfind found hmem
    exact hempty.symm
  | some part =>
    have hpart : part ≠ [] := by simpa using List.find?_some hfind
    exact (honly part (List.mem_of_find?_eq_some hfind)).resolve_left hpart

/-- An event without a type tag, a choice and a wrapped event becomes its bare content. -/
theorem chunks_of_bare (hkind : event.get? "type" = none) (hchoices : event.get? "choices" = none)
    (hmsg : event.get? "msg" = none) (model : Model) :
    chunks event model = (bareContent event model).getD [] := by
  have hchat : chatStep event model = none := by simp [chatStep, hchoices]
  have hwrapped : wrapped event model = none := by simp [wrapped, Json.getObject?, hmsg]
  rw [chunks_of_no_kind (kind?_of_no_type hkind)]
  simp only [List.findSome?_cons, hchat, hwrapped, List.findSome?_nil]
  cases bareContent event model <;> rfl

/-- An item that is no object becomes nothing. -/
theorem chunksOfItem_of_not_isObject (h : item.isObject = false) : chunksOfItem item = [] := by
  have hkind := hasKind_of_no_kind (kind?_of_no_type (Json.get?_of_not_isObject h "type"))
  simp only [chunksOfItem, hkind]
  rfl

theorem chunks_bareItem (item : Json) (model : Model) :
    chunks (bareItem item) model = chunksOfItem item := by
  have hitem : ((bareItem item).getObject? "item").elim [] chunksOfItem = chunksOfItem item := by
    have hfield : (bareItem item).getObject? "item" = (some item).filter Json.isObject := rfl
    rw [hfield, Option.filter_some]
    cases hobject : item.isObject with
    | true => rfl
    | false => exact (chunksOfItem_of_not_isObject hobject).symm
  rw [chunks_of_bare rfl rfl rfl, bareContent, hitem]
  apply getD_find?_of_only List.mem_cons_self
  intro part hpart
  rcases List.mem_cons.1 hpart with hfirst | hothers
  · exact .inr hfirst
  · have hnothing : ∀ part ∈ [(messageFieldTexts (bareItem item)).map Chunk.text,
        (textIn? (bareItem item) "text").toList.map Chunk.text,
        (usageChunk? ((bareItem item).get? "usage") model).toList], part = [] := by
      simp [messageFieldTexts, bareItem, textIn?, usageChunk?, List.lookup_cons]
    exact .inl (hnothing part hothers)

theorem kind?_taggedItem (tag : String) (item : Json) :
    kind? (taggedItem tag item) = some (Text.asciiLower tag) :=
  kind?_of_type rfl

/-- The same item becomes the same chunks in every event that carries it. -/
theorem chunks_of_mem_itemEvents (h : event ∈ itemEvents item) (model : Model) :
    chunks event model = chunksOfItem item := by
  simp only [itemEvents, List.mem_cons, List.not_mem_nil, or_false] at h
  rcases h with rfl | rfl | rfl | rfl
  · apply chunks_of_responseItem
    rw [hasKind_of_kind? (kind?_taggedItem _ item)]
    decide
  · apply chunks_of_responseItem
    rw [hasKind_of_kind? (kind?_taggedItem _ item)]
    decide
  · have hchoice : ¬ HasChoice (taggedItem "item.completed" item) := by
      rintro ⟨choice, choices, hchoices⟩
      cases hchoices
    have hlower : Text.asciiLower "item.completed" = "item.completed" := by decide
    have hkind : kind? (taggedItem "item.completed" item) = some "item.completed" := by
      rw [kind?_taggedItem, hlower]
    exact chunks_of_completedItem hkind hchoice rfl model
  · exact chunks_bareItem item model

/-! ## Messages -/

/-- An item is a message with the given blocks as its content. -/
structure IsMessage (blocks : List Json) (item : Json) : Prop where
  kind : kind? item = some "message"
  content : item.get? "content" = some (.array blocks)

/-- A block is tagged as text, letter by letter, and has a text that is not empty. -/
structure IsTextBlock (block : Json) (s : String) : Prop where
  tag : ∃ tag ∈ ["output_text", "text"], block.get? "type" = some (.string tag)
  text : block.get? "text" = some (.string s)
  ne_empty : s ≠ ""

/-- What a block adds to the chunks of its message: its text when it is tagged as text and not
empty, and nothing otherwise. -/
inductive BlockGives (block : Json) : List Chunk → Prop where
  | text {s : String} (h : IsTextBlock block s) : BlockGives block [.text s]
  | nothing (h : ∀ s, ¬ IsTextBlock block s) : BlockGives block []

/-- An item that is tagged as a message becomes the texts of its content. -/
theorem chunksOfItem_of_message (hkind : kind? item = some "message") :
    chunksOfItem item = (messageTexts item).map .text := by
  have hkinds := hasKind_of_kind? hkind
  have htext : textItemKinds.contains "message" = false := by decide
  have hreasoning : ["reasoning"].contains "message" = false := by decide
  have hmessage : ["message"].contains "message" = true := by decide
  simp only [chunksOfItem, hkinds, htext, hreasoning, hmessage]
  rfl

theorem messageTexts_of_content {blocks : List Json}
    (h : message.get? "content" = some (.array blocks)) :
    messageTexts message = blocks.filterMap blockText? := by
  simp [messageTexts, itemsIn, h]

/-- A bare message becomes the texts of its content. -/
theorem chunks_bareMessage (h : message.isObject = true) (model : Model) :
    chunks (bareMessage message) model = (messageTexts message).map .text := by
  have hmessage : messageFieldTexts (bareMessage message) = messageTexts message := by
    obtain ⟨fields, rfl⟩ := Json.isObject_iff.1 h
    rfl
  rw [chunks_of_bare rfl rfl rfl, bareContent, hmessage]
  apply getD_find?_of_only (List.mem_cons_of_mem _ List.mem_cons_self)
  have hnothing : ((bareMessage message).getObject? "item").elim [] chunksOfItem = [] ∧
      (textIn? (bareMessage message) "text").toList.map Chunk.text = [] ∧
      (usageChunk? ((bareMessage message).get? "usage") model).toList = [] := by
    simp [bareMessage, Json.getObject?, textIn?, usageChunk?, List.lookup_cons]
  simp only [hnothing, List.forall_mem_cons, true_or, or_true, true_and]
  exact List.forall_mem_nil _

theorem blockText?_eq_some_iff {block : Json} {s : String} :
    blockText? block = some s ↔ IsTextBlock block s := by
  have htag : ((block.get? "type").bind Json.string?).any textBlockKinds.contains = true ↔
      ∃ tag ∈ ["output_text", "text"], block.get? "type" = some (.string tag) := by
    simp only [Option.any_eq_true, Option.bind_eq_some_iff, Json.string?_eq_some_iff,
      List.contains_iff_mem, textBlockKinds]
    constructor
    · rintro ⟨tag, ⟨v, hv, rfl⟩, hmem⟩
      exact ⟨tag, hmem, hv⟩
    · rintro ⟨tag, hmem, hv⟩
      exact ⟨tag, ⟨.string tag, hv, rfl⟩, hmem⟩
  unfold blockText?
  constructor
  · intro h
    split at h
    next hkind =>
      obtain ⟨htext, hne⟩ := textIn?_eq_some_iff.1 h
      exact ⟨htag.1 hkind, htext, hne⟩
    next => cases h
  · intro h
    rw [if_pos (htag.2 h.tag), textIn?_eq_some_iff]
    exact ⟨h.text, h.ne_empty⟩

/-- The texts of blocks are what the blocks add, one after the other. -/
theorem exists_parts_of_blocks (blocks : List Json) :
    ∃ parts, List.Forall₂ BlockGives blocks parts ∧
      (blocks.filterMap blockText?).map Chunk.text = parts.flatten := by
  induction blocks with
  | nil => exact ⟨[], .nil, rfl⟩
  | cons block blocks ih =>
    obtain ⟨parts, hparts, heq⟩ := ih
    cases htext : blockText? block with
    | none =>
      have hnothing : BlockGives block [] := by
        apply BlockGives.nothing
        intro s hs
        rw [blockText?_eq_some_iff.2 hs] at htext
        cases htext
      refine ⟨[] :: parts, .cons hnothing hparts, ?_⟩
      rw [List.filterMap_cons_none htext, heq, List.flatten_cons, List.nil_append]
    | some s =>
      refine ⟨[.text s] :: parts, .cons (.text (blockText?_eq_some_iff.1 htext)) hparts, ?_⟩
      rw [List.filterMap_cons_some htext, List.map_cons, heq, List.flatten_cons,
        List.singleton_append]

/-- A message becomes the texts of its blocks. -/
theorem IsMessage.chunksOfItem_eq {blocks : List Json} (h : IsMessage blocks item) :
    chunksOfItem item = (blocks.filterMap blockText?).map .text := by
  rw [chunksOfItem_of_message h.kind, messageTexts_of_content h.content]

/-- A bare message becomes what it becomes as an item with the tag of messages. -/
theorem chunks_bareMessage_eq_bareItem (h : message.isObject = true) (model : Model) :
    chunks (bareMessage message) model =
      chunks (bareItem (message.withField "type" (.string "message"))) model := by
  have hkind : kind? (message.withField "type" (.string "message")) = some "message" :=
    kind?_of_type (Json.get?_withField_self h "type" _)
  have htexts : messageTexts (message.withField "type" (.string "message")) =
      messageTexts message := by
    have hne : "content" ≠ "type" := by decide
    simp only [messageTexts, itemsIn, Json.get?_withField_of_ne hne]
  rw [chunks_bareMessage h, chunks_bareItem, chunksOfItem_of_message hkind, htexts]

/-- An item becomes the same chunks in every event that carries it, and a bare message becomes
what it becomes as an item with the tag of messages.  The chunks of a message are what its
blocks add, in their order: those tagged as text their texts, unless empty, and all others
nothing.  So the chunks of a message with the blocks of two others are the chunks of the one
and then of the other. -/
theorem chunks_of_items (model : Model) :
    (∀ item, ∀ event ∈ itemEvents item, chunks event model = chunksOfItem item) ∧
    (∀ message : Json, message.isObject = true →
      chunks (bareMessage message) model =
        chunks (bareItem (message.withField "type" (.string "message"))) model) ∧
    (∀ blocks item, IsMessage blocks item →
      ∃ parts, List.Forall₂ BlockGives blocks parts ∧ chunksOfItem item = parts.flatten) ∧
    (∀ front back item item' whole, IsMessage front item → IsMessage back item' →
      IsMessage (front ++ back) whole →
      chunksOfItem whole = chunksOfItem item ++ chunksOfItem item') := by
  refine ⟨?_, ?_, ?_, ?_⟩
  · intro item event hevent
    exact chunks_of_mem_itemEvents hevent model
  · intro message hobject
    exact chunks_bareMessage_eq_bareItem hobject model
  · intro blocks item hitem
    rw [hitem.chunksOfItem_eq]
    exact exists_parts_of_blocks blocks
  · intro front back item item' whole hitem hitem' hwhole
    rw [hwhole.chunksOfItem_eq, hitem.chunksOfItem_eq, hitem'.chunksOfItem_eq,
      List.filterMap_append, List.map_append]

/-- Blocks of which one is tagged as text and not empty. -/
def mixedBlocks : List Json :=
  [.object [("text", .string "a"), ("type", .string "output_text")],
   .object [("text", .string ""), ("type", .string "text")],
   .object [("text", .string "b"), ("type", .string "Text")]]

/-- One block with a text. -/
def textBlocks : List Json :=
  [.object [("text", .string "c"), ("type", .string "text")]]

/-- A message without a tag. -/
def untagged (blocks : List Json) : Json :=
  .object [("content", .array blocks)]

theorem isMessage_withField (blocks : List Json) :
    IsMessage blocks ((untagged blocks).withField "type" (.string "message")) :=
  ⟨kind?_of_type (Json.get?_withField_self rfl "type" _), rfl⟩

/-- The texts of two messages in one, as a finished step and as a bare message. -/
theorem chunks_of_joinedMessages :
    let item := (untagged (mixedBlocks ++ textBlocks)).withField "type" (.string "message")
    chunks (taggedItem "item.completed" item) (.unknown "m") = [.text "a", .text "c"] ∧
      chunks (bareMessage (untagged (mixedBlocks ++ textBlocks))) (.unknown "m") =
        [.text "a", .text "c"] := by
  intro item
  obtain ⟨hevents, hbare, -, hjoined⟩ := chunks_of_items (.unknown "m")
  have hitem : chunksOfItem item = [.text "a", .text "c"] := by
    rw [hjoined _ _ _ _ item (isMessage_withField mixedBlocks) (isMessage_withField textBlocks)
      (isMessage_withField _)]
    decide
  have hcompleted : taggedItem "item.completed" item ∈ itemEvents item := by simp [itemEvents]
  have hlast : bareItem item ∈ itemEvents item := by simp [itemEvents]
  rw [hbare _ rfl, hevents item _ hcompleted, hevents item _ hlast]
  exact ⟨hitem, hitem⟩

end Event
end AgentRelay
