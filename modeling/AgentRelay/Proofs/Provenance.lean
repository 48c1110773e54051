import AgentRelay.Proofs.Event.RuleTable

/-!
# Where chunks come from

The chunks of an event are made of what stands in the event.  Ten rules make them, out of
values of whatever shape, but there are only four things that a rule can make: texts,
reasoning, one fragment of a tool call, and one usage summary.  Each rule is shown once to
make nothing else; what holds of all chunks is read off these four.

Main definitions:

- {lit}`Json.Contains`: a value occurs in another one.
- {lit}`Event.Outcome`: what an event can become.
- {lit}`Chunk.DrawnFrom`: the parts of a chunk occur in a value.

Main results:

- Theorem {lit}`chunks_outcome`: every event becomes one of the four.
- Theorem {lit}`chunks_drawnFrom`: the texts of chunks occur in the event, and only texts
  and reasoning come several at a time.
- Theorem {lit}`totalCost_eq_cost_of_reported`: a reported cost is the cost of the reported
  counts.
-/

namespace AgentRelay

/-! ## Values inside values -/

namespace Json

/-- A value occurs in another one: it is that value, or it occurs in one of its items or
in the value of one of its fields. -/
inductive Contains : Json → Json → Prop where
  | self (j : Json) : Contains j j
  | item {items : List Json} {item v : Json} (hmem : item ∈ items) (h : Contains item v) :
      Contains (.array items) v
  | field {fields : List (String × Json)} {name : String} {value v : Json}
      (hmem : (name, value) ∈ fields) (h : Contains value v) : Contains (.object fields) v

/-- A text that is not empty occurs in a value. -/
def HoldsText (j : Json) (text : String) : Prop :=
  text ≠ "" ∧ j.Contains (.string text)

variable {j v w : Json} {name text : String}

theorem Contains.trans (h : j.Contains v) (hw : v.Contains w) : j.Contains w := by
  induction h with
  | self => exact hw
  | item hmem _ ih => exact .item hmem (ih hw)
  | field hmem _ ih => exact .field hmem (ih hw)

theorem HoldsText.of_contains (h : v.HoldsText text) (hv : j.Contains v) : j.HoldsText text :=
  ⟨h.1, hv.trans h.2⟩

/-- The value of a field occurs in the object. -/
theorem contains_of_get? (h : j.get? name = some v) : j.Contains v := by
  cases j with
  | object fields =>
    obtain ⟨front, back, hfields, -⟩ := List.lookup_eq_some_iff.1 h
    have hmem : (name, v) ∈ fields := by
      rw [hfields]
      exact List.mem_append_right front List.mem_cons_self
    exact .field hmem (.self v)
  | null => cases h
  | bool b => cases h
  | number n => cases h
  | string s => cases h
  | array items => cases h

theorem contains_of_getObject? (h : j.getObject? name = some v) : j.Contains v :=
  contains_of_get? (Option.filter_eq_some_iff.1 h).1

/-- The items of an array occur in it. -/
theorem contains_of_mem_array? {items : List Json} (h : j.array? = some items)
    (hv : v ∈ items) : j.Contains v := by
  cases j with
  | array items' =>
    cases h
    exact .item hv (.self v)
  | null => cases h
  | bool b => cases h
  | number n => cases h
  | string s => cases h
  | object fields => cases h

/-- The text of a field occurs in the object. -/
theorem contains_of_get?_string? (h : (j.get? name).bind string? = some text) :
    j.Contains (.string text) := by
  obtain ⟨value, hvalue, htext⟩ := Option.bind_eq_some_iff.1 h
  rw [← string?_eq_some_iff.1 htext]
  exact contains_of_get? hvalue

/-- The first text among several fields occurs in the object. -/
theorem contains_of_firstString? {names : List String} (h : j.firstString? names = some text) :
    j.Contains (.string text) := by
  obtain ⟨name, -, hname⟩ := List.exists_of_findSome?_eq_some h
  exact contains_of_get?_string? hname

end Json

namespace Event

open Json (Contains HoldsText)

variable {event item value : Json} {model : Model} {name text : String}

/-! ## Texts of items and messages -/

theorem holdsText_of_textIn? (h : textIn? event name = some text) : event.HoldsText text := by
  obtain ⟨htext, hne⟩ := textIn?_eq_some_iff.1 h
  exact ⟨hne, Json.contains_of_get? htext⟩

/-- The items of an array in a field occur in the object. -/
theorem contains_of_mem_itemsIn (h : item ∈ itemsIn event name) : event.Contains item := by
  unfold itemsIn at h
  cases harray : (event.get? name).bind Json.array? with
  | none => simp [harray] at h
  | some items =>
    rw [harray, Option.getD_some] at h
    obtain ⟨value, hvalue, hitems⟩ := Option.bind_eq_some_iff.1 harray
    exact (Json.contains_of_get? hvalue).trans (Json.contains_of_mem_array? hitems h)

theorem holdsText_of_blockText? (h : blockText? item = some text) : item.HoldsText text := by
  unfold blockText? at h
  split at h
  · exact holdsText_of_textIn? h
  · cases h

theorem holdsText_of_mem_messageTexts (h : text ∈ messageTexts event) :
    event.HoldsText text := by
  obtain ⟨block, hblock, htext⟩ := List.mem_filterMap.1 h
  exact (holdsText_of_blockText? htext).of_contains (contains_of_mem_itemsIn hblock)

theorem holdsText_of_mem_summaryTexts (h : text ∈ summaryTexts event) :
    event.HoldsText text := by
  obtain ⟨part, hpart, htext⟩ := List.mem_filterMap.1 h
  exact (holdsText_of_textIn? htext).of_contains (contains_of_mem_itemsIn hpart)

/-- The texts of the message field occur in the event. -/
theorem holdsText_of_mem_messageFieldTexts (h : text ∈ messageFieldTexts event) :
    event.HoldsText text := by
  unfold messageFieldTexts at h
  split at h
  next message hmessage =>
    split at h
    · cases h
    next hne =>
      rw [List.mem_singleton] at h
      subst h
      exact ⟨hne, Json.contains_of_get? hmessage⟩
  next fields hfields =>
    exact (holdsText_of_mem_messageTexts h).of_contains (Json.contains_of_get? hfields)
  next => cases h

/-! ## What an event can become -/

/-- What an event can become: any number of texts, any number of pieces of reasoning, one
fragment of a tool call, or one usage summary, each made of what occurs in the event. -/
inductive Outcome (event : Json) (model : Model) : List Chunk → Prop where
  | texts (texts : List String) (h : ∀ text ∈ texts, event.HoldsText text) :
      Outcome event model (texts.map .text)
  | reasoning (texts : List String) (h : ∀ text ∈ texts, event.HoldsText text) :
      Outcome event model (texts.map .reasoning)
  | toolCall (index : Nat) {id name : Option String} {fragment : String}
      (hid : ∀ s, id = some s → event.Contains (.string s))
      (hname : ∀ s, name = some s → event.Contains (.string s))
      (hfragment : fragment = "" ∨ event.Contains (.string fragment)) :
      Outcome event model [.toolCall index id name fragment]
  | usage {usage : Json} {summary : UsageSummary} (h : event.Contains usage)
      (hsummary : Usage.summary? usage model = some summary) :
      Outcome event model [.usage summary]

namespace Outcome

variable {chunks : List Chunk}

theorem nil (event : Json) (model : Model) : Outcome event model [] :=
  .texts [] (by simp)

theorem ofText? {text? : Option String} (h : ∀ text, text? = some text → event.HoldsText text) :
    Outcome event model (text?.toList.map .text) :=
  .texts text?.toList (by simpa using h)

theorem ofReasoning? {text? : Option String}
    (h : ∀ text, text? = some text → event.HoldsText text) :
    Outcome event model (text?.toList.map .reasoning) :=
  .reasoning text?.toList (by simpa using h)

theorem ofUsage? {usage? : Option Json} (h : ∀ usage, usage? = some usage → event.Contains usage) :
    Outcome event model (usageChunk? usage? model).toList := by
  cases hchunk : usageChunk? usage? model with
  | none => exact nil event model
  | some chunk =>
    obtain ⟨summary, hsummary, hchunk⟩ := Option.map_eq_some_iff.1 hchunk
    obtain ⟨usage, husage, hsummary⟩ := Option.bind_eq_some_iff.1 hsummary
    subst hchunk
    exact .usage (h usage husage) hsummary

/-- What a part of an event becomes, the event can become. -/
theorem of_contains (h : Outcome value model chunks) (hv : event.Contains value) :
    Outcome event model chunks := by
  cases h with
  | texts texts htexts => exact .texts texts fun text ht => (htexts text ht).of_contains hv
  | reasoning texts htexts =>
    exact .reasoning texts fun text ht => (htexts text ht).of_contains hv
  | toolCall index hid hname hfragment =>
    exact .toolCall index (fun s hs => hv.trans (hid s hs)) (fun s hs => hv.trans (hname s hs))
      (hfragment.imp_right hv.trans)
  | usage husage hsummary => exact .usage (hv.trans husage) hsummary

end Outcome

/-! ## One rule after the other -/

/-- A rule makes nothing but what an event can become. -/
def Faithful (rule : Rule) : Prop :=
  ∀ event model chunks, rule event model = some chunks → Outcome event model chunks

/-- An item becomes texts or reasoning. -/
theorem chunksOfItem_outcome (item : Json) (model : Model) :
    Outcome item model (chunksOfItem item) := by
  unfold chunksOfItem
  split
  · exact .ofText? fun _ => holdsText_of_textIn?
  · split
    · split
      next text htext =>
        exact .reasoning [text] (by simpa using holdsText_of_textIn? htext)
      next => exact .reasoning _ fun _ => holdsText_of_mem_summaryTexts
    · split
      · exact .texts _ fun _ => holdsText_of_mem_messageTexts
      · exact .nil item model

theorem chunksOfItemField_outcome (event : Json) (model : Model) :
    Outcome event model (chunksOfItemField event) := by
  unfold chunksOfItemField
  cases hitem : event.get? "item" with
  | none => exact .nil event model
  | some item =>
    exact (chunksOfItem_outcome item model).of_contains (Json.contains_of_get? hitem)

theorem textPiece_faithful : Faithful textPiece := by
  intro event model chunks h
  unfold textPiece at h
  split at h
  · cases h
    exact .ofText? fun _ => holdsText_of_textIn?
  · cases h

theorem reasoningPiece_faithful : Faithful reasoningPiece := by
  intro event model chunks h
  unfold reasoningPiece at h
  split at h
  · cases h
    exact .ofReasoning? fun _ => holdsText_of_textIn?
  · cases h

theorem toolCallPiece_faithful : Faithful toolCallPiece := by
  intro event model chunks h
  unfold toolCallPiece at h
  split at h
  · cases h
    refine .toolCall _ (fun _ => Json.contains_of_firstString?)
      (fun _ => Json.contains_of_firstString?) ?_
    cases hfragment : event.firstString? ["delta", "arguments"] with
    | none => exact .inl rfl
    | some fragment => exact .inr (Json.contains_of_firstString? hfragment)
  · cases h

theorem responseItem_faithful : Faithful responseItem := by
  intro event model chunks h
  unfold responseItem at h
  split at h
  · cases h
    exact chunksOfItemField_outcome event model
  · cases h

theorem responseEnd_faithful : Faithful responseEnd := by
  intro event model chunks h
  unfold responseEnd at h
  split at h
  · cases h
    apply Outcome.ofUsage?
    intro usage husage
    -- The usage stands in the response, or else beside it.
    rcases Option.or_eq_some_iff.1 husage with hinside | ⟨-, hbeside⟩
    · obtain ⟨response, hresponse, hinside⟩ := Option.bind_eq_some_iff.1 hinside
      exact (Json.contains_of_get? hresponse).trans (Json.contains_of_getObject? hinside)
    · exact Json.contains_of_get? hbeside
  · cases h

theorem chatStep_faithful : Faithful chatStep := by
  intro event model chunks h
  unfold chatStep at h
  split at h
  next choice choices harray =>
    cases h
    apply Outcome.ofText?
    intro text htext
    obtain ⟨array, hchoices, hitems⟩ := Option.bind_eq_some_iff.1 harray
    obtain ⟨delta, hdelta, hcontent⟩ := Option.bind_eq_some_iff.1 htext
    have hchoice : event.Contains choice :=
      (Json.contains_of_get? hchoices).trans
        (Json.contains_of_mem_array? hitems List.mem_cons_self)
    exact (holdsText_of_textIn? hcontent).of_contains
      (hchoice.trans (Json.contains_of_get? hdelta))
  next => cases h

/-- The usage inside a wrapped token count occurs in what is wrapped. -/
theorem contains_tokenCountUsage (inner : Json) : inner.Contains (tokenCountUsage inner) := by
  unfold tokenCountUsage
  cases husage : ((inner.get? "info").bind (·.get? "last_token_usage")).or
      (inner.getObject? "info") with
  | none => exact .self inner
  | some usage =>
    rcases Option.or_eq_some_iff.1 husage with hlast | ⟨-, htotals⟩
    · obtain ⟨info, hinfo, hlast⟩ := Option.bind_eq_some_iff.1 hlast
      exact (Json.contains_of_get? hinfo).trans (Json.contains_of_get? hlast)
    · exact Json.contains_of_getObject? htotals

/-- A wrapped event becomes a text, a piece of reasoning or a usage summary. -/
theorem wrappedChunk?_outcome (inner : Json) (model : Model) :
    Outcome inner model (wrappedChunk? inner model).toList := by
  have htext (name : String) :
      Outcome inner model ((textIn? inner name).map .text).toList := by
    rw [Option.toList_map]
    exact .ofText? fun _ => holdsText_of_textIn?
  have hreasoning (name : String) :
      Outcome inner model ((textIn? inner name).map .reasoning).toList := by
    rw [Option.toList_map]
    exact .ofReasoning? fun _ => holdsText_of_textIn?
  unfold wrappedChunk?
  split
  · exact htext "delta"
  · split
    · exact htext "message"
    · split
      · exact hreasoning "delta"
      · split
        · exact hreasoning "text"
        · split
          · apply Outcome.ofUsage?
            intro usage husage
            cases husage
            exact contains_tokenCountUsage inner
          · exact .nil inner model

theorem wrapped_faithful : Faithful wrapped := by
  intro event model chunks h
  obtain ⟨inner, hinner, hchunks⟩ := Option.map_eq_some_iff.1 h
  subst hchunks
  exact (wrappedChunk?_outcome inner model).of_contains (Json.contains_of_getObject? hinner)

theorem progressItem_faithful : Faithful progressItem := by
  intro event model chunks h
  unfold progressItem at h
  split at h
  · cases h
  · split at h
    · cases h
      split
      · exact chunksOfItemField_outcome event model
      · exact .nil event model
    · cases h

theorem turnEnd_faithful : Faithful turnEnd := by
  intro event model chunks h
  unfold turnEnd at h
  split at h
  · cases h
    exact .ofUsage? fun _ => Json.contains_of_get?
  · cases h

/-- An event without a known type becomes what the first of its parts becomes that yields
anything. -/
theorem bareContent_faithful : Faithful bareContent := by
  intro event model chunks h
  have hmem := List.mem_of_find?_eq_some h
  simp only [List.mem_cons, List.not_mem_nil, or_false] at hmem
  rcases hmem with hitem | hmessage | htext | husage
  · subst hitem
    cases hobject : event.getObject? "item" with
    | none => exact .nil event model
    | some item =>
      exact (chunksOfItem_outcome item model).of_contains (Json.contains_of_getObject? hobject)
  · subst hmessage
    exact .texts _ fun _ => holdsText_of_mem_messageFieldTexts
  · subst htext
    exact .ofText? fun _ => holdsText_of_textIn?
  · subst husage
    exact .ofUsage? fun _ => Json.contains_of_get?

theorem faithful_of_mem_rules {rule : Rule} (h : rule ∈ rules) : Faithful rule := by
  simp only [rules, List.mem_cons, List.not_mem_nil, or_false] at h
  rcases h with rfl | rfl | rfl | rfl | rfl | rfl | rfl | rfl | rfl | rfl
  · exact textPiece_faithful
  · exact reasoningPiece_faithful
  · exact toolCallPiece_faithful
  · exact responseItem_faithful
  · exact responseEnd_faithful
  · exact chatStep_faithful
  · exact wrapped_faithful
  · exact progressItem_faithful
  · exact turnEnd_faithful
  · exact bareContent_faithful

/-- Every event becomes one of the four things that events can become. -/
theorem chunks_outcome (event : Json) (model : Model) :
    Outcome event model (chunks event model) := by
  unfold chunks
  cases hfirst : rules.findSome? fun rule => rule event model with
  | none => exact .nil event model
  | some found =>
    obtain ⟨rule, hrule, hfound⟩ := List.exists_of_findSome?_eq_some hfirst
    exact faithful_of_mem_rules hrule event model found hfound

end Event

/-! ## The parts of chunks -/

/-- The parts of a chunk occur in a value.  A text is not empty; the fragment of a tool
call may be, and then it need not occur.  A cache count that is reported is not zero. -/
def Chunk.DrawnFrom (event : Json) : Chunk → Prop
  | .text piece => event.HoldsText piece
  | .reasoning piece => event.HoldsText piece
  | .toolCall _ id name fragment =>
    (∀ s, id = some s → event.Contains (.string s)) ∧
      (∀ s, name = some s → event.Contains (.string s)) ∧
      (fragment = "" ∨ event.Contains (.string fragment))
  | .usage summary => summary.cacheWriteTokens ≠ some 0 ∧ summary.cacheReadTokens ≠ some 0

/-- The cost in a summary is what its own counts cost, absent cache counts taken as
zero. -/
def UsageSummary.CostsItsCounts (u : UsageSummary) (p : Pricing) : Prop :=
  u.totalCost = p.cost u.inputTokens u.outputTokens (u.cacheWriteTokens.getD 0)
    (u.cacheReadTokens.getD 0)

/-- Leaving out zero counts does not lose what the cost was computed from. -/
theorem TokenCounts.priced_costsItsCounts (c : TokenCounts) (p : Pricing) :
    (c.priced p).CostsItsCounts p := by
  simp only [UsageSummary.CostsItsCounts, TokenCounts.priced, getD_nonZero?]

/-- A summary of usage is made of counts that were priced. -/
theorem Usage.exists_priced_of_summary? {usage : Json} {model : Model} {u : UsageSummary}
    (h : Usage.summary? usage model = some u) : ∃ c : TokenCounts, u = c.priced model.pricing := by
  obtain ⟨c, -, hu⟩ := Option.map_eq_some_iff.1 h
  exact ⟨c, hu.symm⟩

namespace Event

namespace Outcome

variable {event : Json} {model : Model} {chunks : List Chunk}

theorem drawnFrom (h : Outcome event model chunks) : ∀ chunk ∈ chunks, chunk.DrawnFrom event := by
  cases h with
  | texts texts htexts =>
    rw [List.forall_mem_map]
    exact htexts
  | reasoning texts htexts =>
    rw [List.forall_mem_map]
    exact htexts
  | toolCall index hid hname hfragment =>
    rw [List.forall_mem_singleton]
    exact ⟨hid, hname, hfragment⟩
  | usage _ hsummary =>
    rw [List.forall_mem_singleton]
    obtain ⟨c, rfl⟩ := Usage.exists_priced_of_summary? hsummary
    exact ⟨nonZero?_ne_some_zero c.cacheWrite, nonZero?_ne_some_zero c.cacheRead⟩

/-- Only texts and pieces of reasoning come several at a time. -/
theorem texts_or_reasoning (h : Outcome event model chunks) (hlength : 1 < chunks.length) :
    (∀ chunk ∈ chunks, ∃ text, chunk = .text text) ∨
      (∀ chunk ∈ chunks, ∃ text, chunk = .reasoning text) := by
  cases h with
  | texts texts =>
    left
    rw [List.forall_mem_map]
    intro text _
    exact ⟨text, rfl⟩
  | reasoning texts =>
    right
    rw [List.forall_mem_map]
    intro text _
    exact ⟨text, rfl⟩
  | toolCall index => simp at hlength
  | usage => simp at hlength

theorem costsItsCounts {u : UsageSummary} (h : Outcome event model chunks)
    (hu : .usage u ∈ chunks) : u.CostsItsCounts model.pricing := by
  cases h with
  | texts texts => simp at hu
  | reasoning texts => simp at hu
  | toolCall index => simp at hu
  | usage _ hsummary =>
    rw [List.mem_singleton, Chunk.usage.injEq] at hu
    subst hu
    obtain ⟨c, rfl⟩ := Usage.exists_priced_of_summary? hsummary
    exact c.priced_costsItsCounts model.pricing

end Outcome

/-- The chunks of an event are drawn from it: texts and pieces of reasoning are not empty
and occur in the event as they are, and so do the identifier, the name and the fragment of
a tool call when they are there; no usage summary reports a cache count of zero.  When
there are several chunks, all are texts or all are reasoning. -/
theorem chunks_drawnFrom (event : Json) (model : Model) :
    (∀ chunk ∈ chunks event model, chunk.DrawnFrom event) ∧
    (1 < (chunks event model).length →
      (∀ chunk ∈ chunks event model, ∃ text, chunk = .text text) ∨
      (∀ chunk ∈ chunks event model, ∃ text, chunk = .reasoning text)) := by
  have houtcome := chunks_outcome event model
  constructor
  · exact houtcome.drawnFrom
  · intro hlength
    exact houtcome.texts_or_reasoning hlength

/-- A finished item of reasoning with a summary in three parts, of which one is empty. -/
theorem chunks_drawnFrom_of_summary :
    let part (text : String) : Json := .object [("text", .string text)]
    let event : Json := .object [
      ("item", .object [("summary", .array [part "a", part "", part "b"]),
        ("type", .string "reasoning")]),
      ("type", .string "item.completed")]
    chunks event (.unknown "m") = [.reasoning "a", .reasoning "b"] ∧
      event.HoldsText "a" ∧ event.HoldsText "b" ∧
      ∀ chunk ∈ chunks event (.unknown "m"), ∃ text, chunk = .reasoning text := by
  intro part event
  have hchunks : chunks event (.unknown "m") = [.reasoning "a", .reasoning "b"] := by
    decide
  obtain ⟨hdrawn, hseveral⟩ := chunks_drawnFrom event (.unknown "m")
  rw [hchunks] at hdrawn hseveral ⊢
  rcases hseveral (by decide) with htexts | hreasoning
  · obtain ⟨text, htext⟩ := htexts (.reasoning "a") List.mem_cons_self
    cases htext
  · rw [List.forall_mem_cons, List.forall_mem_singleton] at hdrawn
    exact ⟨rfl, hdrawn.1, hdrawn.2, hreasoning⟩

/-- The cost that is reported can be computed again from the counts that are reported: for
every usage summary among the chunks of an event, whichever rule made it, and for all
counts that are priced. -/
theorem totalCost_eq_cost_of_reported :
    (∀ (event : Json) (model : Model) (u : UsageSummary),
      .usage u ∈ chunks event model → u.CostsItsCounts model.pricing) ∧
    (∀ (c : TokenCounts) (p : Pricing), (c.priced p).CostsItsCounts p) := by
  constructor
  · intro event model u hu
    exact (chunks_outcome event model).costsItsCounts hu
  · exact TokenCounts.priced_costsItsCounts

/-- The end of a turn becomes its usage, unless the event has the fields of a chat completion
or wraps another one. -/
theorem chunks_of_turnEnd {event : Json} (hkind : kind? event = some "turn.completed")
    (hchoices : event.get? "choices" = none) (hmsg : event.get? "msg" = none) (model : Model) :
    chunks event model = (usageChunk? (event.get? "usage") model).toList := by
  have hchoice : ¬ HasChoice event := by
    rintro ⟨choice, choices, hfound⟩
    rw [hchoices] at hfound
    cases hfound
  have hnone : event.getObject? "msg" = none := by
    rw [Json.getObject?, hmsg]
    rfl
  apply chunks_of_laterRule (List.mem_pair.2 (.inr rfl)) _ hchoice hnone
  rw [turnEnd, hasKind_of_kind? hkind]
  rfl

/-- A turn that wrote nothing to the cache and read four of its ten input tokens from
it. -/
theorem totalCost_of_turn_with_cache :
    let event : Json := .object [("type", .string "turn.completed"),
      ("usage", .object [("cached_input_tokens", .nat 4), ("input_tokens", .nat 10),
        ("output_tokens", .nat 3)])]
    let model : Model := { Model.unknown "m" with pricing := ⟨1.25, 10, 0, 0.125⟩ }
    let u := TokenCounts.priced ⟨10, 3, 0, 4, none⟩ model.pricing
    .usage u ∈ chunks event model ∧ u.cacheWriteTokens = none ∧
      u.totalCost = model.pricing.cost 10 3 0 4 := by
  intro event model u
  have hcounts : Usage.resolve? (.object [("cached_input_tokens", .nat 4),
      ("input_tokens", .nat 10), ("output_tokens", .nat 3)]) = some ⟨10, 3, 0, 4, none⟩ := by
    decide
  have hchunk : usageChunk? (event.get? "usage") model = some (.usage u) := by
    rw [show event.get? "usage" = some _ from rfl, usageChunk?, Option.bind_some,
      Usage.summary?, hcounts]
    rfl
  have hmem : .usage u ∈ chunks event model := by
    rw [chunks_of_turnEnd (by decide) rfl rfl, hchunk]
    exact List.mem_singleton_self _
  exact ⟨hmem, rfl, totalCost_eq_cost_of_reported.1 event model u hmem⟩

end Event
end AgentRelay
