import AgentRelay.Chunk
import AgentRelay.Event.Failure

/-!
# Items and messages inside events

Several kinds of event carry an item: a finished piece of the response with a
type tag of its own.  A message, as an item or on its own, carries a list of
content blocks, of which the text blocks count.

Main definitions:

- {lit}`Event.messageTexts`: the texts of a message's content.
- {lit}`Event.chunksOfItem`: the chunks of an item.
-/

namespace AgentRelay
namespace Event

/-- A text that is not empty, in a field. -/
def textIn? (j : Json) (name : String) : Option String :=
  (j.get? name).bind Json.nonEmptyString?

theorem textIn?_eq_some_iff {j : Json} {name s : String} :
    textIn? j name = some s ↔ j.get? name = some (.string s) ∧ s ≠ "" := by
  simp only [textIn?, Option.bind_eq_some_iff, Json.nonEmptyString?_eq_some_iff]
  constructor
  · rintro ⟨v, hv, rfl, hne⟩
    exact ⟨hv, hne⟩
  · rintro ⟨hv, hne⟩
    exact ⟨.string s, hv, rfl, hne⟩

/-- The tags of content blocks that hold text, matched letter by letter. -/
def textBlockKinds : List String :=
  ["output_text", "text"]

/-- The text of a content block tagged as text. -/
def blockText? (block : Json) : Option String :=
  if ((block.get? "type").bind Json.string?).any textBlockKinds.contains then
    textIn? block "text"
  else none

/-- The items of the array in a field, none without an array. -/
def itemsIn (j : Json) (name : String) : List Json :=
  ((j.get? name).bind Json.array?).getD []

/-- The texts of a message's content, in order. -/
def messageTexts (message : Json) : List String :=
  (itemsIn message "content").filterMap blockText?

/-- The texts of a summary, in order. -/
def summaryTexts (item : Json) : List String :=
  (itemsIn item "summary").filterMap (textIn? · "text")

/-- The tags of items whose text is part of the answer. -/
def textItemKinds : List String :=
  ["text", "output_text", "agent_message"]

/-- The chunks of an item: its text, its reasoning or else the parts of its
summary, or the texts of its content. -/
def chunksOfItem (item : Json) : List Chunk :=
  if hasKind item textItemKinds then
    (textIn? item "text").toList.map .text
  else if hasKind item ["reasoning"] then
    match textIn? item "text" with
    | some text => [.reasoning text]
    | none => (summaryTexts item).map .reasoning
  else if hasKind item ["message"] then
    (messageTexts item).map .text
  else []

end Event
end AgentRelay
