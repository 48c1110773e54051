import AgentRelay.Proofs.Event.RuleTable
import Mathlib

/-!
# Pieces of texts and of arguments

A text comes in pieces, and so do the arguments of a tool call.  Versions of the tool
write a piece of text in three shapes and a piece of arguments in two, and the shapes may
be mixed.  Whatever the cut and the shapes, the chunks put the text or the arguments
together again.

Main definitions:

- {lit}`CarriesText`: the shapes of an event that carries a piece of text.
- {lit}`CarriesFragment`: the shapes of an event that carries a piece of arguments.

Main results:

- Theorem {lit}`CarriesText.chunks_eq`: the chunks of a piece of text.
- Theorem {lit}`CarriesFragment.chunks_eq`: the chunks of a piece of arguments.
- Theorem {lit}`chunks_of_pieces`: pieces are put together again.
-/

namespace AgentRelay

/-- The text of a chunk that is one. -/
def Chunk.text? : Chunk → Option String
  | .text piece => some piece
  | _ => none

/-- The fragment of a chunk that is a part of a tool call. -/
def Chunk.fragment? : Chunk → Option String
  | .toolCall _ _ _ piece => some piece
  | _ => none

namespace Event

/-! ## Accepted events -/

/-- An object without the fields that report a failure. -/
structure Unreported (event : Json) : Prop where
  status : event.get? "status" = none
  error : event.get? "error" = none

/-- The tags of pieces. -/
def pieceKinds : List String :=
  textPieceKinds ++ toolCallPieceKinds ++ ["agent_message_delta"]

/-- The tags of pieces do not mention an error. -/
theorem occursIn_error_of_mem_pieceKinds {kind : String} (h : kind ∈ pieceKinds) :
    Text.occursIn "error".toList kind.toList = false := by
  have hall : ∀ kind ∈ pieceKinds, Text.occursIn "error".toList kind.toList = false := by
    decide
  exact hall kind h

/-- An object with the tag of a piece reports no failure. -/
theorem Unreported.signals_of_type {event : Json} {tag : String} (h : Unreported event)
    (htag : event.get? "type" = some (.string tag)) (hkind : Text.asciiLower tag ∈ pieceKinds) :
    signals event = false := by
  have herror := occursIn_error_of_mem_pieceKinds hkind
  simpa [signals, kind?_of_type htag, h.status, h.error] using herror

/-- An object without a tag reports no failure. -/
theorem Unreported.signals_of_no_type {event : Json} (h : Unreported event)
    (htag : event.get? "type" = none) : signals event = false := by
  simp [signals, kind?_of_no_type htag, h.status, h.error]

/-- An event that wraps nothing is accepted when it reports no failure. -/
theorem check_of_no_msg {event : Json} (h : signals event = false)
    (hmsg : event.get? "msg" = none) : check event = .ok () := by
  simp [check, failure?, h, Json.getObject?, hmsg]

/-- An event that wraps another is accepted when neither reports a failure. -/
theorem check_of_msg {event inner : Json} (h : signals event = false)
    (hmsg : event.getObject? "msg" = some inner) (hinner : signals inner = false) :
    check event = .ok () := by
  simp [check, failure?, h, hmsg, hinner]

/-! ## Rules -/

/-- An event with the tag of a piece of text becomes that piece. -/
theorem chunks_of_textKind {event : Json} {kind : String} (hkind : kind? event = some kind)
    (h : kind ∈ textPieceKinds) (model : Model) :
    chunks event model = (textIn? event "delta").toList.map .text := by
  have hmem : (textPieceKinds, textPiece) ∈ taggedRules := by simp [taggedRules]
  apply chunks_of_mem_taggedRules hmem
  simp only [textPiece]
  rw [hasKind_of_kind? hkind, if_pos (List.contains_iff_mem.2 h)]

/-- An event with the tag of a fragment of a tool call becomes that fragment. -/
theorem chunks_of_toolCallKind {event : Json} {kind : String}
    (hkind : kind? event = some kind) (h : kind ∈ toolCallPieceKinds) (model : Model) :
    ∃ index id name, chunks event model =
      [.toolCall index id name ((event.firstString? ["delta", "arguments"]).getD "")] := by
  have hmem : (toolCallPieceKinds, toolCallPiece) ∈ taggedRules := by simp [taggedRules]
  obtain ⟨index, id, name, htool⟩ : ∃ index id name, toolCallPiece event model =
      some [.toolCall index id name ((event.firstString? ["delta", "arguments"]).getD "")] := by
    unfold toolCallPiece
    rw [hasKind_of_kind? hkind, if_pos (List.contains_iff_mem.2 h)]
    exact ⟨_, _, _, rfl⟩
  exact ⟨index, id, name, chunks_of_mem_taggedRules hmem htool⟩

/-! ## Pieces of text -/

/-- The shapes of an event that carries a piece of text: a tag of its own, in whatever
case, with the piece beside it; the first choice of a chat completion; or a wrapped
event.  Other fields may be there as well, as long as none of them reports a failure. -/
inductive CarriesText (piece : String) : Json → Prop where
  | typed {event : Json} {tag : String} (hevent : Unreported event)
      (hmsg : event.get? "msg" = none) (htag : event.get? "type" = some (.string tag))
      (hkind : Text.asciiLower tag ∈ textPieceKinds)
      (hdelta : event.get? "delta" = some (.string piece)) : CarriesText piece event
  | chat {event choice delta : Json} {choices : List Json} (hevent : Unreported event)
      (hmsg : event.get? "msg" = none) (htag : event.get? "type" = none)
      (hchoices : event.get? "choices" = some (.array (choice :: choices)))
      (hdelta : choice.get? "delta" = some delta)
      (hcontent : delta.get? "content" = some (.string piece)) : CarriesText piece event
  | wrapped {event inner : Json} {tag : String} (hevent : Unreported event)
      (htag : event.get? "type" = none) (hchoices : event.get? "choices" = none)
      (hmsg : event.get? "msg" = some inner) (hinner : Unreported inner)
      (hinnerTag : inner.get? "type" = some (.string tag))
      (hkind : Text.asciiLower tag = "agent_message_delta")
      (hdelta : inner.get? "delta" = some (.string piece)) : CarriesText piece event

variable {piece : String} {event : Json}

/-- A text field is a piece unless it is empty. -/
theorem textIn?_of_get? {j : Json} {name text : String}
    (h : j.get? name = some (.string text)) :
    textIn? j name = if text = "" then none else some text := by
  by_cases hempty : text = "" <;> simp [textIn?, h, Json.nonEmptyString?, hempty]

/-- The chunks of a piece of text. -/
def textChunks (piece : String) : List Chunk :=
  if piece = "" then [] else [.text piece]

theorem toList_map_text (piece : String) :
    (if piece = "" then none else some piece).toList.map Chunk.text = textChunks piece := by
  unfold textChunks
  split <;> rfl

/-- An event that carries a piece of text is accepted. -/
theorem CarriesText.check_eq_ok (h : CarriesText piece event) : check event = .ok () := by
  cases h with
  | typed hevent hmsg htag hkind hdelta =>
    have hkind' := List.mem_append_left ["agent_message_delta"]
      (List.mem_append_left toolCallPieceKinds hkind)
    exact check_of_no_msg (hevent.signals_of_type htag hkind') hmsg
  | chat hevent hmsg htag hchoices hdelta hcontent =>
    exact check_of_no_msg (hevent.signals_of_no_type htag) hmsg
  | @wrapped inner tag hevent htag hchoices hmsg hinner hinnerTag hkind hdelta =>
    have hkind' : Text.asciiLower tag ∈ pieceKinds := by
      rw [hkind]
      decide
    exact check_of_msg (hevent.signals_of_no_type htag)
      (Json.getObject?_of_get? hmsg (Json.isObject_of_get? hinnerTag))
      (hinner.signals_of_type hinnerTag hkind')

/-- An event that carries a piece of text becomes that piece, or nothing when the piece
is empty. -/
theorem CarriesText.chunks_eq (h : CarriesText piece event) (model : Model) :
    chunks event model = textChunks piece := by
  cases h with
  | typed hevent hmsg htag hkind hdelta =>
    rw [chunks_of_textKind (kind?_of_type htag) hkind, textIn?_of_get? hdelta, toList_map_text]
  | chat hevent hmsg htag hchoices hdelta hcontent =>
    have hstep : chatStep event model = some (textChunks piece) := by
      simp only [chatStep, hchoices, hdelta, Option.bind_some, Json.array?_array]
      rw [textIn?_of_get? hcontent, toList_map_text]
    rw [chunks_of_no_kind (kind?_of_no_type htag)]
    simp [hstep]
  | @wrapped inner tag hevent htag hchoices hmsg hinner hinnerTag hkind hdelta =>
    have hstep : chatStep event model = none := by
      simp [chatStep, hchoices]
    have hobject := Json.getObject?_of_get? hmsg (Json.isObject_of_get? hinnerTag)
    have hmessage : hasKind inner ["agent_message_delta"] = true := by
      rw [hasKind_of_kind? (kind?_of_type hinnerTag), hkind]
      decide
    have hwrapped : Event.wrapped event model = some (textChunks piece) := by
      simp only [Event.wrapped, hobject, wrappedChunk?, hmessage, if_true, Option.map_some]
      rw [textIn?_of_get? hdelta, Option.toList_map, toList_map_text]
    rw [chunks_of_no_kind (kind?_of_no_type htag)]
    simp [hstep, hwrapped]

/-! ## Pieces of arguments -/

/-- The shapes of an event that carries a piece of the arguments of a tool call: a tag of
its own, in whatever case, with the piece beside it under one of two names.  Other fields
may be there as well, as long as none of them reports a failure. -/
inductive CarriesFragment (piece : String) : Json → Prop where
  | delta {event : Json} {tag : String} (hevent : Unreported event)
      (hmsg : event.get? "msg" = none) (htag : event.get? "type" = some (.string tag))
      (hkind : Text.asciiLower tag ∈ toolCallPieceKinds)
      (hdelta : event.get? "delta" = some (.string piece)) : CarriesFragment piece event
  | arguments {event : Json} {tag : String} (hevent : Unreported event)
      (hmsg : event.get? "msg" = none) (htag : event.get? "type" = some (.string tag))
      (hkind : Text.asciiLower tag ∈ toolCallPieceKinds)
      (hdelta : (event.get? "delta").bind Json.string? = none)
      (harguments : event.get? "arguments" = some (.string piece)) :
      CarriesFragment piece event

/-- The parts that the two shapes of a piece of arguments have in common. -/
theorem CarriesFragment.parts (h : CarriesFragment piece event) :
    Unreported event ∧ event.get? "msg" = none ∧
      event.firstString? ["delta", "arguments"] = some piece ∧
      ∃ tag, event.get? "type" = some (.string tag) ∧
        Text.asciiLower tag ∈ toolCallPieceKinds := by
  cases h with
  | @delta tag hevent hmsg htag hkind hdelta =>
    exact ⟨hevent, hmsg, by simp [Json.firstString?, hdelta], tag, htag, hkind⟩
  | @arguments tag hevent hmsg htag hkind hdelta harguments =>
    exact ⟨hevent, hmsg, by simp [Json.firstString?, hdelta, harguments], tag, htag, hkind⟩

/-- An event that carries a piece of arguments is accepted. -/
theorem CarriesFragment.check_eq_ok (h : CarriesFragment piece event) :
    check event = .ok () := by
  obtain ⟨hevent, hmsg, -, tag, htag, hkind⟩ := h.parts
  have hkind' := List.mem_append_left ["agent_message_delta"]
    (List.mem_append_right textPieceKinds hkind)
  exact check_of_no_msg (hevent.signals_of_type htag hkind') hmsg

/-- An event that carries a piece of arguments becomes one fragment with that piece, be
it empty or not. -/
theorem CarriesFragment.chunks_eq (h : CarriesFragment piece event) (model : Model) :
    ∃ index id name, chunks event model = [.toolCall index id name piece] := by
  obtain ⟨-, -, hpiece, tag, htag, hkind⟩ := h.parts
  obtain ⟨index, id, name, hchunks⟩ := chunks_of_toolCallKind (kind?_of_type htag) hkind model
  rw [hpiece] at hchunks
  exact ⟨index, id, name, hchunks⟩

/-! ## Pieces put together -/

variable {pieces : List String} {events : List Json}

/-- Leaving out empty texts does not change what texts come to. -/
theorem join_filter_ne_empty (texts : List String) :
    String.join (texts.filter (· ≠ "")) = String.join texts := by
  induction texts with
  | nil => rfl
  | cons text texts ih =>
    by_cases hempty : text = ""
    · rw [List.filter_cons_of_neg (by simp [hempty]), ih, String.join_cons, hempty,
        String.empty_append]
    · rw [List.filter_cons_of_pos (by simp [hempty]), String.join_cons, String.join_cons, ih]

/-- What holds of every carrier of a piece holds of the carriers of pieces. -/
theorem forall_of_forall₂ {carries : String → Json → Prop} {p : Json → Prop}
    (h : List.Forall₂ carries pieces events)
    (hp : ∀ {piece event}, carries piece event → p event) : ∀ event ∈ events, p event := by
  induction h with
  | nil => simp
  | cons hpiece _ ih =>
    rw [List.forall_mem_cons]
    exact ⟨hp hpiece, ih⟩

/-- The chunks of the pieces of a text are those of the pieces that are not empty. -/
theorem texts_of_pieces (h : List.Forall₂ CarriesText pieces events) (model : Model) :
    events.flatMap (chunks · model) = (pieces.filter (· ≠ "")).map .text := by
  induction h with
  | nil => rfl
  | @cons piece event pieces events hpiece _ ih =>
    rw [List.flatMap_cons, ih, hpiece.chunks_eq]
    by_cases hempty : piece = "" <;> simp [textChunks, hempty]

/-- Each piece of arguments is one fragment, in the order of the pieces. -/
theorem fragments_of_pieces (h : List.Forall₂ CarriesFragment pieces events) (model : Model) :
    (events.flatMap (chunks · model)).map Chunk.fragment? = pieces.map some := by
  induction h with
  | nil => rfl
  | @cons piece event pieces events hpiece _ ih =>
    obtain ⟨index, id, name, hchunks⟩ := hpiece.chunks_eq model
    rw [List.flatMap_cons, hchunks, List.map_append, ih]
    rfl

/-- Pieces are put together again, whatever the cut and whatever the shapes of the events
that carry them.  No event is rejected.  The chunks of the pieces of a text are texts
that come to the whole text; the chunks of the pieces of arguments are one fragment for
each piece, empty ones included, and come to the whole arguments. -/
theorem chunks_of_pieces (model : Model) (pieces : List String) (events : List Json) :
    (List.Forall₂ CarriesText pieces events →
      (∀ event ∈ events, check event = .ok ()) ∧
      (∀ chunk ∈ events.flatMap (chunks · model), ∃ text, chunk = .text text) ∧
      String.join ((events.flatMap (chunks · model)).filterMap Chunk.text?) =
        String.join pieces) ∧
    (List.Forall₂ CarriesFragment pieces events →
      (∀ event ∈ events, check event = .ok ()) ∧
      (events.flatMap (chunks · model)).map Chunk.fragment? = pieces.map some ∧
      String.join ((events.flatMap (chunks · model)).filterMap Chunk.fragment?) =
        String.join pieces) := by
  refine ⟨fun h => ⟨forall_of_forall₂ h CarriesText.check_eq_ok, ?_, ?_⟩,
    fun h => ⟨forall_of_forall₂ h CarriesFragment.check_eq_ok, fragments_of_pieces h model, ?_⟩⟩
  · intro chunk hchunk
    rw [texts_of_pieces h, List.mem_map] at hchunk
    obtain ⟨text, -, rfl⟩ := hchunk
    exact ⟨text, rfl⟩
  · have htexts : Chunk.text? ∘ Chunk.text = some := rfl
    rw [texts_of_pieces h, List.filterMap_map, htexts, List.filterMap_some,
      join_filter_ne_empty]
  · have hfragments : (events.flatMap (chunks · model)).filterMap Chunk.fragment? = pieces := by
      rw [← List.filterMap_some (l := pieces), ← Function.id_comp some, ← List.filterMap_map,
        ← fragments_of_pieces h model, List.filterMap_map, Function.id_comp]
    rw [hfragments]

/-- A text in four pieces, one of them empty, carried in three shapes, and arguments in
three pieces, one of them empty, carried in two. -/
theorem chunks_of_mixed_pieces :
    let texts : List Json := [
      .object [("delta", .string "He"), ("type", .string "Response.Text.DELTA")],
      .object [("choices", .array [.object [("delta", .object [("content", .string "l")])]])],
      .object [("choices", .array [.object [("delta", .object [("content", .string "")])]])],
      .object [("msg", .object [("delta", .string "lo"),
        ("type", .string "agent_message_delta")])]]
    let arguments : List Json := [
      .object [("delta", .string "[1,"),
        ("type", .string "response.function_call_arguments.delta")],
      .object [("arguments", .string ""),
        ("type", .string "response.tool_call_arguments.delta")],
      .object [("arguments", .string "2]"),
        ("type", .string "response.tool_call_arguments.delta")]]
    String.join ((texts.flatMap (chunks · (.unknown "m"))).filterMap Chunk.text?) = "Hello" ∧
      (arguments.flatMap (chunks · (.unknown "m"))).map Chunk.fragment? =
        [some "[1,", some "", some "2]"] := by
  intro texts arguments
  have htexts : List.Forall₂ CarriesText ["He", "l", "", "lo"] texts := by
    refine .cons (.typed ⟨rfl, rfl⟩ rfl rfl ?_ rfl) (.cons (.chat ⟨rfl, rfl⟩ rfl rfl rfl rfl rfl)
      (.cons (.chat ⟨rfl, rfl⟩ rfl rfl rfl rfl rfl)
        (.cons (.wrapped ⟨rfl, rfl⟩ rfl rfl rfl ⟨rfl, rfl⟩ rfl ?_ rfl) .nil)))
    · decide
    · decide
  have harguments : List.Forall₂ CarriesFragment ["[1,", "", "2]"] arguments := by
    refine .cons (.delta ⟨rfl, rfl⟩ rfl rfl ?_ rfl)
      (.cons (.arguments ⟨rfl, rfl⟩ rfl rfl ?_ rfl rfl)
        (.cons (.arguments ⟨rfl, rfl⟩ rfl rfl ?_ rfl rfl) .nil))
    · decide
    · decide
    · decide
  exact ⟨((chunks_of_pieces _ _ _).1 htexts).2.2, ((chunks_of_pieces _ _ _).2 harguments).2.1⟩

end Event
end AgentRelay
