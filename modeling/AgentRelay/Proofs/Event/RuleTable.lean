import AgentRelay.Event.Rules
import AgentRelay.Proofs.Usage.Reading
import Mathlib.Data.List.Perm.Basic

/-!
# The table of rules

Seven of the rules recognise an event by its type tag, and no tag is one of two of them.  So it
does not matter in which order those are tried that stand together in the table.  The five that
come first are tried before any rule looks at the content of an event: an event with one of
their tags becomes the same chunks whatever else is in it beside the fields that its rule reads.

Main definitions:

- {lit}`Event.taggedRules`: the rules that come first, with their tags.
- {lit}`Event.rulesByTag`: all rules that recognise an event by its tag.
- {lit}`Event.chunksBy`: the chunks of an event by another table of rules.
- {lit}`Event.ReadAlike` and {lit}`Event.Reads`: events that agree in some fields, and rules that
  read no other fields.

Main results:

- Theorem {lit}`pairwise_rulesByTag`: no event is recognised by two of the rules by tag.
- Theorem {lit}`chunks_of_mem_taggedRules`: an event becomes what the rule for its tag makes of
  it.
- Theorem {lit}`chunksBy_of_perm`: other orders of the rules.
- Theorem {lit}`chunks_of_ruleTable`: all of this, with the fields that count for each tag.
-/

namespace AgentRelay
namespace Event

variable {event other : Json} {model : Model} {found : List Chunk}

/-! ## Choices of which at most one is made -/

section Choices

variable {α β : Type} {choose : α → Option β} {as bs : List α}

/-- Where at most one is chosen, what is chosen anywhere is chosen first. -/
theorem findSome?_of_mem {a : α} {b : β}
    (honce : as.Pairwise fun x y => choose x = none ∨ choose y = none) (ha : a ∈ as)
    (hb : choose a = some b) : as.findSome? choose = some b := by
  induction as with
  | nil => cases ha
  | cons x as ih =>
    obtain ⟨hx, hrest⟩ := List.pairwise_cons.1 honce
    rw [List.findSome?_cons]
    rcases List.mem_cons.1 ha with rfl | hmem
    · rw [hb]
    · rcases hx a hmem with hnone | hnone
      · rw [hnone, ih hrest hmem]
      · rw [hb] at hnone
        cases hnone

/-- Where at most one is chosen, the order does not matter. -/
theorem findSome?_of_perm (hperm : as.Perm bs)
    (honce : as.Pairwise fun x y => choose x = none ∨ choose y = none) :
    bs.findSome? choose = as.findSome? choose := by
  cases hfirst : as.findSome? choose with
  | none =>
    rw [List.findSome?_eq_none_iff] at hfirst ⊢
    intro b hb
    exact hfirst b (hperm.mem_iff.2 hb)
  | some c =>
    obtain ⟨a, ha, hc⟩ := List.exists_of_findSome?_eq_some hfirst
    exact findSome?_of_mem (hperm.pairwise honce Or.symm) (hperm.mem_iff.1 ha) hc

end Choices

/-! ## Tags -/

theorem exists_kind_of_hasKind {kinds : List String} (h : hasKind event kinds = true) :
    ∃ kind ∈ kinds, kind? event = some kind := by
  cases hkind : kind? event with
  | none => simp [hasKind, hkind] at h
  | some kind =>
    rw [hasKind_of_kind? hkind, List.contains_iff_mem] at h
    exact ⟨kind, h, rfl⟩

theorem kind?_of_hasKind {kind : String} (h : hasKind event [kind] = true) :
    kind? event = some kind := by
  obtain ⟨found, hmem, hfound⟩ := exists_kind_of_hasKind h
  rwa [List.mem_singleton.1 hmem] at hfound

/-- An event with one of some tags has none of others. -/
theorem hasKind_eq_false_of_hasKind {kinds others : List String} (h : hasKind event kinds = true)
    (hothers : ∀ kind ∈ kinds, others.contains kind = false) : hasKind event others = false := by
  obtain ⟨kind, hmem, hkind⟩ := exists_kind_of_hasKind h
  rw [hasKind_of_kind? hkind, hothers kind hmem]

/-! ## Rules by tag -/

/-- The rules by type tag that are tried before all others, with their tags. -/
def taggedRules : List (List String × Rule) :=
  [(textPieceKinds, textPiece), (reasoningPieceKinds, reasoningPiece),
   (toolCallPieceKinds, toolCallPiece), (responseItemKinds, responseItem),
   (responseEndKinds, responseEnd)]

/-- The rules that are for certain tags, with these tags. -/
def listedRules : List (List String × Rule) :=
  taggedRules ++ [(["turn.completed"], turnEnd)]

/-- All rules that recognise an event by its type tag, in the order they are tried. -/
def rulesByTag : List Rule :=
  [textPiece, reasoningPiece, toolCallPiece, responseItem, responseEnd, progressItem, turnEnd]

theorem mem_listedRules_of_mem_taggedRules {listed : List String × Rule}
    (h : listed ∈ taggedRules) : listed ∈ listedRules :=
  List.mem_append_left _ h

/-- A rule that is for certain tags passes on every event without one of them. -/
theorem eq_none_of_mem_listedRules {listed : List String × Rule} (h : listed ∈ listedRules)
    (hkind : hasKind event listed.1 = false) (model : Model) : listed.2 event model = none := by
  simp only [listedRules, taggedRules, List.cons_append, List.nil_append, List.mem_cons,
    List.not_mem_nil, or_false] at h
  rcases h with rfl | rfl | rfl | rfl | rfl | rfl
  · simp only [textPiece, hkind]
    rfl
  · simp only [reasoningPiece, hkind]
    rfl
  · simp only [toolCallPiece, hkind]
    rfl
  · simp only [responseItem, hkind]
    rfl
  · simp only [responseEnd, hkind]
    rfl
  · simp only [turnEnd, hkind]
    rfl

/-- The rule for items in progress passes on every event with a tag of another rule. -/
theorem progressItem_eq_none_of_hasKind {listed : List String × Rule} (h : listed ∈ listedRules)
    (hkind : hasKind event listed.1 = true) (model : Model) : progressItem event model = none := by
  have hnoItem : ∀ listed ∈ listedRules, ∀ kind ∈ listed.1,
      "item.".toList.isPrefixOf kind.toList = false := by decide
  obtain ⟨kind, hmem, hkind⟩ := exists_kind_of_hasKind hkind
  simp only [progressItem, hkind, hnoItem listed h kind hmem]
  rfl

/-- No event is recognised by two of the rules that are for certain tags. -/
theorem pairwise_listedRules (event : Json) (model : Model) :
    listedRules.Pairwise fun a b => a.2 event model = none ∨ b.2 event model = none := by
  have hdisjoint : listedRules.Pairwise fun a b => ∀ kind ∈ a.1, b.1.contains kind = false := by
    decide
  apply hdisjoint.imp_of_mem
  intro a b ha hb hothers
  cases hkind : hasKind event a.1 with
  | false => exact .inl (eq_none_of_mem_listedRules ha hkind model)
  | true =>
    have hkind' := hasKind_eq_false_of_hasKind hkind hothers
    exact .inr (eq_none_of_mem_listedRules hb hkind' model)

/-- No event is recognised by two of the rules by tag. -/
theorem pairwise_rulesByTag (event : Json) (model : Model) :
    rulesByTag.Pairwise fun r s => r event model = none ∨ s event model = none := by
  have hlisted : (listedRules.map Prod.snd ++ [progressItem]).Pairwise fun r s =>
      r event model = none ∨ s event model = none := by
    rw [List.pairwise_append, List.pairwise_map]
    refine ⟨pairwise_listedRules event model, List.pairwise_singleton _ _, ?_⟩
    rw [List.forall_mem_map]
    intro listed hlisted rule hrule
    rw [List.mem_singleton.1 hrule]
    cases hkind : hasKind event listed.1 with
    | false => exact .inl (eq_none_of_mem_listedRules hlisted hkind model)
    | true => exact .inr (progressItem_eq_none_of_hasKind hlisted hkind model)
  have hperm : (listedRules.map Prod.snd ++ [progressItem]).Perm rulesByTag :=
    (List.Perm.swap progressItem turnEnd []).append_left (taggedRules.map Prod.snd)
  exact hperm.pairwise hlisted Or.symm

/-! ## Rules in turn -/

/-- An event becomes what the first rule makes of it that does not pass it on. -/
theorem chunks_of_passed {front back : List Rule} {rule : Rule}
    (hrules : rules = front ++ rule :: back)
    (hfront : ∀ earlier ∈ front, earlier event model = none)
    (hrule : rule event model = some found) : chunks event model = found := by
  have hnone : (front.findSome? fun rule => rule event model) = none :=
    List.findSome?_eq_none_iff.2 hfront
  rw [chunks, hrules, List.findSome?_append, hnone, Option.none_or, List.findSome?_cons, hrule]
  rfl

/-- An event becomes what the rule for its tag makes of it. -/
theorem chunks_of_mem_taggedRules {tagged : List String × Rule} (h : tagged ∈ taggedRules)
    (hrule : tagged.2 event model = some found) : chunks event model = found := by
  have honce : taggedRules.Pairwise fun a b => a.2 event model = none ∨ b.2 event model = none :=
    (List.pairwise_append.1 (pairwise_listedRules event model)).1
  have hfirst : ((taggedRules.map Prod.snd).findSome? fun rule => rule event model) =
      some found :=
    findSome?_of_mem (List.pairwise_map.2 honce) (List.mem_map_of_mem h) hrule
  have hrules : rules = taggedRules.map Prod.snd ++
      [chatStep, wrapped, progressItem, turnEnd, bareContent] := rfl
  rw [chunks, hrules, List.findSome?_append, hfirst]
  rfl

/-- An event has the first choice of a chat completion. -/
def HasChoice (event : Json) : Prop :=
  ∃ choice choices, (event.get? "choices").bind Json.array? = some (choice :: choices)

theorem chatStep_eq_none (hchoice : ¬ HasChoice event) (model : Model) :
    chatStep event model = none := by
  unfold chatStep
  split
  next choice choices hchoices => exact absurd ⟨choice, choices, hchoices⟩ hchoice
  next => rfl

/-- An event without the tags of the first rules and without a choice comes to the rule for
wrapped events. -/
theorem passed_to_wrapped (hkinds : ∀ tagged ∈ taggedRules, hasKind event tagged.1 = false)
    (hchoice : ¬ HasChoice event) (model : Model) :
    ∀ earlier ∈ taggedRules.map Prod.snd ++ [chatStep], earlier event model = none := by
  rw [List.forall_mem_append, List.forall_mem_map, List.forall_mem_singleton]
  refine ⟨?_, chatStep_eq_none hchoice model⟩
  intro tagged htagged
  exact eq_none_of_mem_listedRules (mem_listedRules_of_mem_taggedRules htagged)
    (hkinds tagged htagged) model

/-- An event without a choice that wraps no other event becomes what the later rule for its tag
makes of it. -/
theorem chunks_of_laterRule {rule : Rule} (h : rule ∈ [progressItem, turnEnd])
    (hrule : rule event model = some found) (hchoice : ¬ HasChoice event)
    (hmsg : event.getObject? "msg" = none) : chunks event model = found := by
  have hsplit : rulesByTag = taggedRules.map Prod.snd ++ [progressItem, turnEnd] := rfl
  have honce := pairwise_rulesByTag event model
  rw [hsplit, List.pairwise_append] at honce
  obtain ⟨-, hlater, hbetween⟩ := honce
  have htagged : ((taggedRules.map Prod.snd).findSome? fun rule => rule event model) = none := by
    rw [List.findSome?_eq_none_iff]
    intro earlier hearlier
    exact (hbetween earlier hearlier rule h).resolve_right (by simp [hrule])
  have hwrapped : wrapped event model = none := by
    rw [wrapped, hmsg]
    rfl
  have hcontent : ([chatStep, wrapped].findSome? fun rule => rule event model) = none := by
    simp only [List.findSome?_cons, chatStep_eq_none hchoice, hwrapped, List.findSome?_nil]
  have hfirst : ([progressItem, turnEnd].findSome? fun rule => rule event model) = some found :=
    findSome?_of_mem hlater h hrule
  have hrules : rules = taggedRules.map Prod.snd ++ ([chatStep, wrapped] ++
      ([progressItem, turnEnd] ++ [bareContent])) := rfl
  rw [chunks, hrules, List.findSome?_append, htagged, Option.none_or, List.findSome?_append,
    hcontent, Option.none_or, List.findSome?_append, hfirst]
  rfl

/-- Without a type tag only the rules by content apply. -/
theorem chunks_of_no_kind (h : kind? event = none) (model : Model) :
    chunks event model =
      ([chatStep, wrapped, bareContent].findSome? fun rule => rule event model).getD [] := by
  have htagged : ((taggedRules.map Prod.snd).findSome? fun rule => rule event model) = none := by
    rw [List.findSome?_eq_none_iff, List.forall_mem_map]
    intro tagged htagged
    exact eq_none_of_mem_listedRules (mem_listedRules_of_mem_taggedRules htagged)
      (hasKind_of_no_kind h tagged.1) model
  have hprogress : progressItem event model = none := by
    simp only [progressItem, h]
  have hturn : turnEnd event model = none := by
    simp only [turnEnd, hasKind_of_no_kind h]
    rfl
  have hrules : rules = taggedRules.map Prod.snd ++
      [chatStep, wrapped, progressItem, turnEnd, bareContent] := rfl
  rw [chunks, hrules, List.findSome?_append, htagged, Option.none_or]
  simp only [List.findSome?_cons, hprogress, hturn]

/-! ## Other orders -/

/-- The chunks of an event by a table of rules. -/
def chunksBy (table : List Rule) (event : Json) (model : Model) : List Chunk :=
  (table.findSome? fun rule => rule event model).getD []

/-- The rules that come first may be tried in any order, and so may the two rules by tag that
come later. -/
theorem chunksBy_of_perm {first last : List Rule}
    (hfirst : first.Perm [textPiece, reasoningPiece, toolCallPiece, responseItem, responseEnd])
    (hlast : last.Perm [progressItem, turnEnd]) (event : Json) (model : Model) :
    chunksBy (first ++ [chatStep, wrapped] ++ last ++ [bareContent]) event model =
      chunks event model := by
  have hrules : rulesByTag = [textPiece, reasoningPiece, toolCallPiece, responseItem,
      responseEnd] ++ [progressItem, turnEnd] := rfl
  have honce := pairwise_rulesByTag event model
  rw [hrules, List.pairwise_append] at honce
  have htable : rules = [textPiece, reasoningPiece, toolCallPiece, responseItem, responseEnd] ++
      [chatStep, wrapped] ++ [progressItem, turnEnd] ++ [bareContent] := rfl
  rw [chunksBy, chunks, htable]
  simp only [List.findSome?_append, findSome?_of_perm hfirst.symm honce.1,
    findSome?_of_perm hlast.symm honce.2.1]

/-! ## Fields that are read -/

/-- Two events have the same type tag, up to the case of its letters, and the same fields of
some names. -/
structure ReadAlike (names : List String) (event other : Json) : Prop where
  kind : kind? other = kind? event
  fields : ∀ name ∈ names, other.get? name = event.get? name

/-- A rule reads no fields but the type tag and those of some names. -/
def Reads (rule : Rule) (names : List String) : Prop :=
  ∀ event other model, ReadAlike names event other → rule other model = rule event model

section ReadAlike

variable {names : List String} (h : ReadAlike names event other)

include h

theorem ReadAlike.hasKind_eq (kinds : List String) : hasKind other kinds = hasKind event kinds := by
  rw [hasKind, h.kind, hasKind]

theorem ReadAlike.textIn?_eq {name : String} (hname : name ∈ names) :
    textIn? other name = textIn? event name := by
  rw [textIn?, h.fields name hname, textIn?]

theorem ReadAlike.firstString?_eq {fields : List String} (hfields : ∀ name ∈ fields, name ∈ names) :
    other.firstString? fields = event.firstString? fields := by
  apply findSome?_congr
  intro name hname
  rw [h.fields name (hfields name hname)]

end ReadAlike

theorem textPiece_reads : Reads textPiece ["delta"] := by
  intro event other model h
  unfold textPiece
  rw [h.hasKind_eq, h.textIn?_eq (by decide)]

theorem reasoningPiece_reads : Reads reasoningPiece ["delta"] := by
  intro event other model h
  unfold reasoningPiece
  rw [h.hasKind_eq, h.textIn?_eq (by decide)]

/-- The fields of a fragment of a tool call. -/
def toolCallFields : List String :=
  ["index", "output_index", "call_id", "tool_call_id", "id", "name", "function_name", "delta",
   "arguments"]

theorem toolCallPiece_reads : Reads toolCallPiece toolCallFields := by
  intro event other model h
  have hindex : (["index", "output_index"].findSome? fun name =>
      (other.get? name).bind Json.index?) =
      ["index", "output_index"].findSome? fun name => (event.get? name).bind Json.index? := by
    have hfields : ∀ name ∈ ["index", "output_index"], name ∈ toolCallFields := by decide
    apply findSome?_congr
    intro name hname
    rw [h.fields name (hfields name hname)]
  unfold toolCallPiece
  rw [h.hasKind_eq, hindex, h.firstString?_eq (by decide), h.firstString?_eq (by decide),
    h.firstString?_eq (by decide)]

theorem responseItem_reads : Reads responseItem ["item"] := by
  intro event other model h
  unfold responseItem chunksOfItemField
  rw [h.hasKind_eq, h.fields "item" (by decide)]

theorem responseEnd_reads : Reads responseEnd ["response", "usage"] := by
  intro event other model h
  unfold responseEnd
  rw [h.hasKind_eq, h.fields "response" (by decide), h.fields "usage" (by decide)]

/-! ## What counts in an event with a known tag -/

/-- The tags of the rules that come first, with the fields that count beside the tag. -/
def fieldsByTag : List (List String × List String) :=
  [(textPieceKinds, ["delta"]), (reasoningPieceKinds, ["delta"]),
   (toolCallPieceKinds, toolCallFields), (responseItemKinds, ["item"]),
   (responseEndKinds, ["response", "usage"])]

/-- The rules that come first read no other fields. -/
theorem exists_rule_of_mem_fieldsByTag {row : List String × List String} (h : row ∈ fieldsByTag) :
    ∃ rule, (row.1, rule) ∈ taggedRules ∧ Reads rule row.2 := by
  simp only [fieldsByTag, List.mem_cons, List.not_mem_nil, or_false] at h
  rcases h with rfl | rfl | rfl | rfl | rfl
  · exact ⟨textPiece, by simp [taggedRules], textPiece_reads⟩
  · exact ⟨reasoningPiece, by simp [taggedRules], reasoningPiece_reads⟩
  · exact ⟨toolCallPiece, by simp [taggedRules], toolCallPiece_reads⟩
  · exact ⟨responseItem, by simp [taggedRules], responseItem_reads⟩
  · exact ⟨responseEnd, by simp [taggedRules], responseEnd_reads⟩

/-- A rule that comes first recognises every event with one of its tags. -/
theorem exists_found_of_hasKind {tagged : List String × Rule} (h : tagged ∈ taggedRules)
    (hkind : hasKind event tagged.1 = true) (model : Model) :
    ∃ found, tagged.2 event model = some found := by
  simp only [taggedRules, List.mem_cons, List.not_mem_nil, or_false] at h
  rcases h with rfl | rfl | rfl | rfl | rfl
  · exact ⟨_, if_pos hkind⟩
  · exact ⟨_, if_pos hkind⟩
  · exact ⟨_, if_pos hkind⟩
  · exact ⟨_, if_pos hkind⟩
  · exact ⟨_, if_pos hkind⟩

/-- In an event with the tag of a rule that comes first, only the fields count that the rule
reads. -/
theorem chunks_of_readAlike {row : List String × List String} (hrow : row ∈ fieldsByTag)
    (hkind : hasKind event row.1 = true) (h : ReadAlike row.2 event other) (model : Model) :
    chunks other model = chunks event model := by
  obtain ⟨rule, hrule, hreads⟩ := exists_rule_of_mem_fieldsByTag hrow
  obtain ⟨found, hfound⟩ := exists_found_of_hasKind hrule hkind model
  have hother : rule other model = some found := (hreads event other model h).trans hfound
  rw [chunks_of_mem_taggedRules hrule hother, chunks_of_mem_taggedRules hrule hfound]

/-- No event is recognised by two of the seven rules by type tag.  So an event becomes the same
chunks when the first five are tried in another order, and the other two as well.  And an event
with a tag of the first five becomes the same chunks as every event that has the same tag, in
whatever letter case, and agrees with it in the fields that the rule for the tag reads; all
other fields may be added, removed or changed. -/
theorem chunks_of_ruleTable (model : Model) :
    (∀ event, rulesByTag.Pairwise fun r s => r event model = none ∨ s event model = none) ∧
    (∀ first last : List Rule,
      first.Perm [textPiece, reasoningPiece, toolCallPiece, responseItem, responseEnd] →
      last.Perm [progressItem, turnEnd] → ∀ event,
        chunksBy (first ++ [chatStep, wrapped] ++ last ++ [bareContent]) event model =
          chunks event model) ∧
    (∀ row ∈ fieldsByTag, ∀ event other, hasKind event row.1 = true →
      ReadAlike row.2 event other → chunks other model = chunks event model) := by
  refine ⟨fun event => pairwise_rulesByTag event model, ?_, ?_⟩
  · intro first last hfirst hlast event
    exact chunksBy_of_perm hfirst hlast event model
  · intro row hrow event other hkind h
    exact chunks_of_readAlike hrow hkind h model

/-- A fragment of a tool call, alone and beside the content of events of other kinds; and the
rules by tag, the first ones in reverse. -/
theorem chunks_of_toolCall_with_others :
    let event : Json := .object [("call_id", .string "c"), ("delta", .string "x"),
      ("type", .string "response.tool_call_arguments.delta")]
    let other : Json := .object [("call_id", .string "c"),
      ("choices", .array [.object [("delta", .object [("content", .string "y")])]]),
      ("delta", .string "x"), ("message", .string "z"),
      ("msg", .object [("delta", .string "y"), ("type", .string "agent_message_delta")]),
      ("text", .string "z"), ("type", .string "RESPONSE.tool_call_arguments.delta")]
    let table : List Rule := [responseEnd, responseItem, toolCallPiece, reasoningPiece, textPiece,
      chatStep, wrapped, turnEnd, progressItem, bareContent]
    hasKind event toolCallPieceKinds = true ∧ ReadAlike toolCallFields event other ∧
      chunks other (.unknown "m") = [.toolCall 0 (some "c") none "x"] ∧
      chunksBy table other (.unknown "m") = chunks other (.unknown "m") := by
  intro event other table
  have hkind : hasKind event toolCallPieceKinds = true := by decide
  have halike : ReadAlike toolCallFields event other := ⟨by decide, by
    unfold toolCallFields
    simp [event, other, List.lookup_cons]⟩
  have hrow : (toolCallPieceKinds, toolCallFields) ∈ fieldsByTag := by simp [fieldsByTag]
  obtain ⟨-, horder, hfields⟩ := chunks_of_ruleTable (.unknown "m")
  refine ⟨hkind, halike, ?_, ?_⟩
  · rw [hfields _ hrow event other hkind halike]
    decide
  · have hfirst := List.reverse_perm
      [textPiece, reasoningPiece, toolCallPiece, responseItem, responseEnd]
    exact horder _ [turnEnd, progressItem] hfirst (List.Perm.swap progressItem turnEnd []) other

end Event
end AgentRelay
