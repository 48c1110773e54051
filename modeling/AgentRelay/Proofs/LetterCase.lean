import AgentRelay.Proofs.Event.RuleTable
import Mathlib.Data.List.Forall2

/-!
# The letter case of type tags

The type tag of an event may be written in any letter case, and so may the tags of what it
wraps and of the item in it.  The tags of content blocks are the exception: a block holds
text only if its tag is written in small letters.

Main definitions:

- {lit}`Json.Fieldwise`: objects that differ in the values of their fields.
- {lit}`Event.RetaggedBlock`, {lit}`Event.RetaggedItem` and {lit}`Event.Retagged`: a block, an
  item and an event with type tags in another letter case.

Main results:

- Theorem {lit}`Retagged.check_eq`: an event is accepted whatever the case of its tags.
- Theorem {lit}`Retagged.chunks_eq`: an event becomes the same chunks, when its content blocks
  still hold the same texts.
- Theorem {lit}`not_chunks_of_retaggedBlock`: in another letter case a content block may lose
  its text.
-/

namespace AgentRelay

/-- Two texts differ in nothing but the case of ASCII letters. -/
def Text.SameLetters (s s' : String) : Prop :=
  asciiLower s' = asciiLower s

instance (s s' : String) : Decidable (Text.SameLetters s s') :=
  inferInstanceAs (Decidable (_ = _))

/-! ## Values that differ in some places -/

namespace Json

/-- A text with its letters in another case. -/
inductive Recased : Json → Json → Prop where
  | text {s s' : String} (h : Text.SameLetters s s') : Recased (.string s) (.string s')

/-- An object with the same names, the values of its fields changed in a way that may depend
on their names.  Every value may also stay as it is. -/
inductive Fieldwise (change : String → Json → Json → Prop) : Json → Json → Prop where
  | same (j : Json) : Fieldwise change j j
  | object {fields fields' : List (String × Json)}
      (h : List.Forall₂ (fun f f' => f'.1 = f.1 ∧ change f.1 f.2 f'.2) fields fields') :
      Fieldwise change (.object fields) (.object fields')

/-- An array with the same number of items, each changed in the same way. -/
inductive Itemwise (change : Json → Json → Prop) : Json → Json → Prop where
  | array {items items' : List Json} (h : List.Forall₂ change items items') :
      Itemwise change (.array items) (.array items')

variable {change : String → Json → Json → Prop} {j j' : Json} {name : String}

/-- A field is found in both objects or in neither. -/
theorem rel_lookup {fields fields' : List (String × Json)}
    (h : List.Forall₂ (fun f f' => f'.1 = f.1 ∧ change f.1 f.2 f'.2) fields fields')
    (name : String) : Option.Rel (change name) (fields.lookup name) (fields'.lookup name) := by
  induction h with
  | nil => exact .none
  | @cons f f' fields fields' hf _ ih =>
    obtain ⟨name', v⟩ := f
    obtain ⟨name'', v'⟩ := f'
    obtain ⟨hname, hv⟩ := hf
    simp only at hname hv
    subst hname
    by_cases h : name = name''
    · subst h
      simpa using Option.Rel.some hv
    · have hne : (name == name'') = false := by simpa using h
      rw [List.lookup_cons, List.lookup_cons, hne]
      exact ih

/-- A field is found in both values or in neither, and its values are related, when every
value is related to itself. -/
theorem Fieldwise.get?_cases (h : Fieldwise change j j') (hrefl : ∀ name v, change name v v)
    (name : String) :
    (j.get? name = none ∧ j'.get? name = none) ∨
      ∃ v v', j.get? name = some v ∧ j'.get? name = some v' ∧ change name v v' := by
  cases h with
  | @object fields fields' hfields =>
    have hrel := rel_lookup hfields name
    rw [get?_object, get?_object]
    generalize fields.lookup name = value at hrel
    generalize fields'.lookup name = value' at hrel
    cases hrel with
    | none => exact .inl ⟨rfl, rfl⟩
    | some hchange => exact .inr ⟨_, _, rfl, rfl, hchange⟩
  | same =>
    cases j.get? name with
    | none => exact .inl ⟨rfl, rfl⟩
    | some v => exact .inr ⟨v, v, rfl, rfl, hrefl name v⟩

theorem Fieldwise.isObject_eq (h : Fieldwise change j j') : j'.isObject = j.isObject := by
  cases h with
  | same => rfl
  | object => rfl

/-- Fieldwise changes do not touch texts. -/
theorem Fieldwise.nonEmptyString?_eq (h : Fieldwise change j j') :
    j'.nonEmptyString? = j.nonEmptyString? := by
  cases h with
  | same => rfl
  | object => rfl

end Json

namespace Event

open Json (Fieldwise Itemwise Recased)

/-! ## Tags in another letter case -/

/-- A field of a content block, or of a wrapped event: the type tag may change its case. -/
inductive TagField (name : String) (v v' : Json) : Prop where
  | same (h : v' = v)
  | tag (hname : name = "type") (h : Recased v v')

/-- A content block, or a wrapped event, with its type tag in another letter case. -/
def RetaggedBlock : Json → Json → Prop :=
  Fieldwise TagField

/-- A field of an item: the type tag may change its case, and content blocks may change as
{lit}`block` allows. -/
inductive ItemField (block : Json → Json → Prop) (name : String) (v v' : Json) : Prop where
  | same (h : v' = v)
  | tag (hname : name = "type") (h : Recased v v')
  | content (hname : name = "content") (h : Itemwise block v v')

/-- An item or a message with its type tag in another letter case, and content blocks that
changed as {lit}`block` allows. -/
def RetaggedItem (block : Json → Json → Prop) : Json → Json → Prop :=
  Fieldwise (ItemField block)

/-- A field of an event: the type tag may change its case, and so may the tags of what is
wrapped and of the item or message. -/
inductive EventField (block : Json → Json → Prop) (name : String) (v v' : Json) : Prop where
  | same (h : v' = v)
  | tag (hname : name = "type") (h : Recased v v')
  | msg (hname : name = "msg") (h : RetaggedBlock v v')
  | item (hname : name = "item") (h : RetaggedItem block v v')
  | message (hname : name = "message") (h : RetaggedItem block v v')

/-- An event with type tags in another letter case: its own, that of a wrapped event, that of
an item, and those of content blocks as far as {lit}`block` allows. -/
def Retagged (block : Json → Json → Prop) : Json → Json → Prop :=
  Fieldwise (EventField block)

/-- A content block with its type tag in another letter case that is still, or still is not,
the tag of a text block. -/
structure KeptBlock (b b' : Json) : Prop where
  retagged : RetaggedBlock b b'
  kept : ((b'.get? "type").bind Json.string?).any textBlockKinds.contains =
    ((b.get? "type").bind Json.string?).any textBlockKinds.contains

/-! ## What is found in retagged values -/

/-- A way to change fields that touches nothing but the case of type tags, apart from the
fields of some other names. -/
structure ChangesTags (change : String → Json → Json → Prop) (places : List String) : Prop where
  refl : ∀ name v, change name v v
  tag : ∀ v v', change "type" v v' → v' = v ∨ Recased v v'
  others : ∀ name v v', name ∉ "type" :: places → change name v v' → v' = v

theorem tagField_changesTags : ChangesTags TagField [] where
  refl name v := .same rfl
  tag v v' h := by
    cases h with
    | same h => exact .inl h
    | tag hname h => exact .inr h
  others name v v' hname h := by
    cases h with
    | same h => exact h
    | tag htype h => simp [htype] at hname

theorem itemField_changesTags (block : Json → Json → Prop) :
    ChangesTags (ItemField block) ["content"] where
  refl name v := .same rfl
  tag v v' h := by
    cases h with
    | same h => exact .inl h
    | tag hname h => exact .inr h
    | content hname h => simp at hname
  others name v v' hname h := by
    cases h with
    | same h => exact h
    | tag htype h => simp [htype] at hname
    | content hcontent h => simp [hcontent] at hname

theorem eventField_changesTags (block : Json → Json → Prop) :
    ChangesTags (EventField block) ["msg", "item", "message"] where
  refl name v := .same rfl
  tag v v' h := by
    cases h with
    | same h => exact .inl h
    | tag hname h => exact .inr h
    | msg hname h => simp at hname
    | item hname h => simp at hname
    | message hname h => simp at hname
  others name v v' hname h := by
    cases h with
    | same h => exact h
    | tag htype h => simp [htype] at hname
    | msg hmsg h => simp [hmsg] at hname
    | item hitem h => simp [hitem] at hname
    | message hmessage h => simp [hmessage] at hname

section ChangesTags

variable {change : String → Json → Json → Prop} {places : List String} {j j' : Json}
  (hc : ChangesTags change places) (h : Fieldwise change j j')

include hc h

/-- Fields of other names are as they were. -/
theorem ChangesTags.get?_eq (name : String) (hname : name ∉ "type" :: places) :
    j'.get? name = j.get? name := by
  rcases h.get?_cases hc.refl name with ⟨hv, hv'⟩ | ⟨v, v', hv, hv', hchange⟩
  · rw [hv, hv']
  · rw [hv, hv', hc.others name v v' hname hchange]

/-- The lower-cased type tag is as it was. -/
theorem ChangesTags.kind?_eq : kind? j' = kind? j := by
  unfold kind?
  rcases h.get?_cases hc.refl "type" with ⟨hv, hv'⟩ | ⟨v, v', hv, hv', hchange⟩
  · rw [hv, hv']
  · rw [hv, hv']
    rcases hc.tag v v' hchange with heq | hrecased
    · rw [heq]
    · cases hrecased with
      | text hletters => exact congrArg some hletters

theorem ChangesTags.hasKind_eq (kinds : List String) : hasKind j' kinds = hasKind j kinds := by
  unfold hasKind
  rw [hc.kind?_eq h]

theorem ChangesTags.textIn?_eq (name : String) (hname : name ∉ "type" :: places) :
    textIn? j' name = textIn? j name := by
  unfold textIn?
  rw [hc.get?_eq h name hname]

theorem ChangesTags.getObject?_eq (name : String) (hname : name ∉ "type" :: places) :
    j'.getObject? name = j.getObject? name := by
  unfold Json.getObject?
  rw [hc.get?_eq h name hname]

end ChangesTags

/-! ## Items and messages -/

variable {block : Json → Json → Prop} {j j' : Json}

/-- Blocks that keep their texts give the same texts. -/
theorem filterMap_blockText?_eq (hblock : ∀ b b', block b b' → blockText? b' = blockText? b)
    {blocks blocks' : List Json} (h : List.Forall₂ block blocks blocks') :
    blocks'.filterMap blockText? = blocks.filterMap blockText? := by
  induction h with
  | nil => rfl
  | cons hb _ ih => rw [List.filterMap_cons, List.filterMap_cons, hblock _ _ hb, ih]

theorem RetaggedItem.messageTexts_eq (h : RetaggedItem block j j')
    (hblock : ∀ b b', block b b' → blockText? b' = blockText? b) :
    messageTexts j' = messageTexts j := by
  have hc := itemField_changesTags block
  unfold messageTexts itemsIn
  rcases h.get?_cases hc.refl "content" with ⟨hv, hv'⟩ | ⟨v, v', hv, hv', hchange⟩
  · rw [hv, hv']
  · rw [hv, hv']
    cases hchange with
    | same heq => rw [heq]
    | tag hname => simp at hname
    | content _ hitems =>
      cases hitems with
      | array hitems => exact filterMap_blockText?_eq hblock hitems

theorem RetaggedItem.chunksOfItem_eq (h : RetaggedItem block j j')
    (hblock : ∀ b b', block b b' → blockText? b' = blockText? b) :
    chunksOfItem j' = chunksOfItem j := by
  have hc := itemField_changesTags block
  have hsummary : summaryTexts j' = summaryTexts j := by
    unfold summaryTexts itemsIn
    rw [hc.get?_eq h "summary" (by decide)]
  unfold chunksOfItem
  rw [hc.hasKind_eq h, hc.hasKind_eq h, hc.hasKind_eq h, hc.textIn?_eq h "text" (by decide),
    hsummary, h.messageTexts_eq hblock]

/-! ## Failures -/

/-- A failure is told by the type tag and by fields that hold no tags. -/
theorem signals_congr (hkind : kind? j' = kind? j) (hstatus : j'.get? "status" = j.get? "status")
    (herror : j'.get? "error" = j.get? "error") : signals j' = signals j := by
  unfold signals
  rw [hkind, hstatus, herror]

theorem failureText_congr (herror : j'.get? "error" = j.get? "error")
    (hmessage : (j'.get? "message").bind Json.nonEmptyString? =
      (j.get? "message").bind Json.nonEmptyString?) : failureText j' = failureText j := by
  simp only [failureText, textSources, List.findSome?_cons, herror, hmessage]

theorem RetaggedBlock.signals_eq (h : RetaggedBlock j j') : signals j' = signals j :=
  have hc := tagField_changesTags
  signals_congr (hc.kind?_eq h) (hc.get?_eq h "status" (by decide))
    (hc.get?_eq h "error" (by decide))

theorem RetaggedBlock.failureText_eq (h : RetaggedBlock j j') : failureText j' = failureText j := by
  have hc := tagField_changesTags
  apply failureText_congr
  · exact hc.get?_eq h "error" (by decide)
  · rw [hc.get?_eq h "message" (by decide)]

/-! ## Usage -/

/-- The names under which the counters of a usage object are looked up. -/
def usageNames : List String :=
  Usage.inputNames ++ Usage.outputNames ++ Usage.cacheWriteNames ++ Usage.cacheReadNames ++
    Usage.inputDetailNames ++ Usage.outputDetailNames ++ ["reasoning_output_tokens"]

theorem mem_usageNames {slot : Usage.Slot} {name : String} (h : name ∈ slot.names) :
    name ∈ usageNames := by
  have hall : ∀ name ∈ slot.names, name ∈ usageNames := by
    cases slot <;> decide
  exact hall name h

theorem RetaggedBlock.usageChunk?_eq (h : RetaggedBlock j j') (model : Model) :
    usageChunk? (some j') model = usageChunk? (some j) model := by
  have hc := tagField_changesTags
  have hcounts : Usage.resolve? j' = Usage.resolve? j := by
    apply (Usage.sameRecognised_of_get?_eq h.isObject_eq _).tellSame.resolve?_eq
    intro slot name hname
    have hall : ∀ name ∈ usageNames, name ∉ ["type"] := by decide
    exact hc.get?_eq h name (hall name (mem_usageNames hname))
  simp only [usageChunk?, Usage.summary?, Option.bind_some, hcounts]

/-- A wrapped event becomes the same chunk. -/
theorem RetaggedBlock.wrappedChunk?_eq (h : RetaggedBlock j j') (model : Model) :
    wrappedChunk? j' model = wrappedChunk? j model := by
  have hc := tagField_changesTags
  have hinfo := hc.get?_eq h "info" (by decide)
  have hobject := hc.getObject?_eq h "info" (by decide)
  have husage : usageChunk? (some (tokenCountUsage j')) model =
      usageChunk? (some (tokenCountUsage j)) model := by
    unfold tokenCountUsage
    rw [hinfo, hobject]
    -- Only a wrapped event without inner usage is a usage object itself.
    cases ((j.get? "info").bind (·.get? "last_token_usage")).or (j.getObject? "info") with
    | none => exact h.usageChunk?_eq model
    | some usage => rfl
  unfold wrappedChunk?
  simp only [hc.hasKind_eq h, husage]
  rw [hc.textIn?_eq h "delta" (by decide), hc.textIn?_eq h "message" (by decide),
    hc.textIn?_eq h "text" (by decide)]

/-! ## Events -/

namespace Retagged

variable (h : Retagged block j j')

include h

theorem kind?_eq : kind? j' = kind? j :=
  (eventField_changesTags block).kind?_eq h

theorem hasKind_eq (kinds : List String) : hasKind j' kinds = hasKind j kinds :=
  (eventField_changesTags block).hasKind_eq h kinds

theorem get?_eq (name : String) (hname : name ∉ ["type", "msg", "item", "message"]) :
    j'.get? name = j.get? name :=
  (eventField_changesTags block).get?_eq h name hname

theorem textIn?_eq (name : String) (hname : name ∉ ["type", "msg", "item", "message"]) :
    textIn? j' name = textIn? j name :=
  (eventField_changesTags block).textIn?_eq h name hname

/-- Both events wrap another one or neither does, and the wrapped events differ in their tags
only. -/
theorem getObject?_msg_cases :
    (j.getObject? "msg" = none ∧ j'.getObject? "msg" = none) ∨
      ∃ inner inner', j.getObject? "msg" = some inner ∧ j'.getObject? "msg" = some inner' ∧
        RetaggedBlock inner inner' := by
  have hc := eventField_changesTags block
  unfold Json.getObject?
  rcases h.get?_cases hc.refl "msg" with ⟨hv, hv'⟩ | ⟨v, v', hv, hv', hchange⟩
  · rw [hv, hv']
    exact .inl ⟨rfl, rfl⟩
  · have hinner : RetaggedBlock v v' := by
      cases hchange with
      | same heq =>
        rw [heq]
        exact .same v
      | tag hname => simp at hname
      | msg _ hinner => exact hinner
      | item hname => simp at hname
      | message hname => simp at hname
    rw [hv, hv', Option.filter_some, Option.filter_some, hinner.isObject_eq]
    cases v.isObject with
    | false => exact .inl ⟨rfl, rfl⟩
    | true => exact .inr ⟨v, v', rfl, rfl, hinner⟩

/-- The items of both events differ in their tags only, and so do their message fields. -/
theorem get?_item_cases {name : String} (hname : name = "item" ∨ name = "message") :
    (j.get? name = none ∧ j'.get? name = none) ∨
      ∃ item item', j.get? name = some item ∧ j'.get? name = some item' ∧
        RetaggedItem block item item' := by
  have hc := eventField_changesTags block
  rcases h.get?_cases hc.refl name with hnone | ⟨v, v', hv, hv', hchange⟩
  · exact .inl hnone
  · refine .inr ⟨v, v', hv, hv', ?_⟩
    cases hchange with
    | same heq =>
      rw [heq]
      exact .same v
    | tag htype => simp [htype] at hname
    | msg hmsg => simp [hmsg] at hname
    | item _ hitem => exact hitem
    | message _ hmessage => exact hmessage

/-- An event is accepted, or rejected with the same text, whatever the case of its tags. -/
theorem check_eq : check j' = check j := by
  have hsignals : signals j' = signals j :=
    signals_congr h.kind?_eq (h.get?_eq "status" (by decide)) (h.get?_eq "error" (by decide))
  have htext : failureText j' = failureText j := by
    apply failureText_congr (h.get?_eq "error" (by decide))
    rcases h.get?_item_cases (.inr rfl) with ⟨hv, hv'⟩ | ⟨message, message', hv, hv', hmessage⟩
    · rw [hv, hv']
    · rw [hv, hv']
      exact hmessage.nonEmptyString?_eq
  have hfailure : failure? j' = failure? j := by
    unfold failure?
    rw [hsignals, htext]
    rcases h.getObject?_msg_cases with ⟨hv, hv'⟩ | ⟨inner, inner', hv, hv', hinner⟩
    · rw [hv, hv']
    · rw [hv, hv']
      simp only [hinner.signals_eq, hinner.failureText_eq]
  unfold check
  rw [hfailure]

/-- Both events have the same type tag, up to its case, and the same fields where no other tags
are. -/
theorem readAlike {names : List String}
    (hnames : ∀ name ∈ names, name ∉ ["type", "msg", "item", "message"]) :
    ReadAlike names j j' where
  kind := h.kind?_eq
  fields name hname := h.get?_eq name (hnames name hname)

/-! ### Rules that read no content blocks -/

variable (model : Model)

theorem turnEnd_eq : turnEnd j' model = turnEnd j model := by
  unfold turnEnd
  rw [h.hasKind_eq, h.get?_eq "usage" (by decide)]

theorem chatStep_eq : chatStep j' model = chatStep j model := by
  unfold chatStep
  rw [h.get?_eq "choices" (by decide)]

theorem wrapped_eq : wrapped j' model = wrapped j model := by
  unfold wrapped
  rcases h.getObject?_msg_cases with ⟨hv, hv'⟩ | ⟨inner, inner', hv, hv', hinner⟩
  · rw [hv, hv']
  · rw [hv, hv', Option.map_some, Option.map_some, hinner.wrappedChunk?_eq]

/-! ### Rules that read content blocks -/

variable (hblock : ∀ b b', block b b' → blockText? b' = blockText? b)

include hblock

theorem chunksOfItemField_eq : chunksOfItemField j' = chunksOfItemField j := by
  unfold chunksOfItemField
  rcases h.get?_item_cases (.inl rfl) with ⟨hv, hv'⟩ | ⟨item, item', hv, hv', hitem⟩
  · rw [hv, hv']
  · rw [hv, hv', Option.elim_some, Option.elim_some, hitem.chunksOfItem_eq hblock]

theorem responseItem_eq : responseItem j' model = responseItem j model := by
  unfold responseItem
  rw [h.hasKind_eq, h.chunksOfItemField_eq hblock]

theorem progressItem_eq : progressItem j' model = progressItem j model := by
  unfold progressItem
  rw [h.kind?_eq, h.chunksOfItemField_eq hblock]

theorem messageFieldTexts_eq : messageFieldTexts j' = messageFieldTexts j := by
  unfold messageFieldTexts
  rcases h.get?_item_cases (.inr rfl) with ⟨hv, hv'⟩ | ⟨message, message', hv, hv', hmessage⟩
  · rw [hv, hv']
  · rw [hv, hv']
    have htexts := hmessage.messageTexts_eq hblock
    cases hmessage with
    | same => rfl
    | object => exact htexts

theorem bareContent_eq : bareContent j' model = bareContent j model := by
  have hitem : (j'.getObject? "item").elim [] chunksOfItem =
      (j.getObject? "item").elim [] chunksOfItem := by
    unfold Json.getObject?
    rcases h.get?_item_cases (.inl rfl) with ⟨hv, hv'⟩ | ⟨item, item', hv, hv', hitem⟩
    · rw [hv, hv']
    · rw [hv, hv', Option.filter_some, Option.filter_some, hitem.isObject_eq]
      cases item.isObject with
      | false => rfl
      | true => exact hitem.chunksOfItem_eq hblock
  unfold bareContent
  rw [hitem, h.messageFieldTexts_eq hblock, h.textIn?_eq "text" (by decide),
    h.get?_eq "usage" (by decide)]

/-- Every rule makes the same of both events. -/
theorem rule_eq {rule : Rule} (hrule : rule ∈ rules) : rule j' model = rule j model := by
  simp only [rules, List.mem_cons, List.not_mem_nil, or_false] at hrule
  rcases hrule with rfl | rfl | rfl | rfl | rfl | rfl | rfl | rfl | rfl | rfl
  · exact textPiece_reads j j' model (h.readAlike (by decide))
  · exact reasoningPiece_reads j j' model (h.readAlike (by decide))
  · exact toolCallPiece_reads j j' model (h.readAlike (by decide))
  · exact h.responseItem_eq model hblock
  · exact responseEnd_reads j j' model (h.readAlike (by decide))
  · exact h.chatStep_eq model
  · exact h.wrapped_eq model
  · exact h.progressItem_eq model hblock
  · exact h.turnEnd_eq model
  · exact h.bareContent_eq model hblock

/-- An event becomes the same chunks whatever the case of its tags, when its content blocks
still hold the same texts. -/
theorem chunks_eq : chunks j' model = chunks j model := by
  unfold chunks
  rw [findSome?_congr fun _ hrule => h.rule_eq model hblock hrule]

end Retagged

/-! ## Whole events -/

/-- A block that is still, or still is not, a text block holds the same text. -/
theorem KeptBlock.blockText?_eq {b b' : Json} (h : KeptBlock b b') :
    blockText? b' = blockText? b := by
  unfold blockText?
  rw [h.kept, tagField_changesTags.textIn?_eq h.retagged "text" (by decide)]

/-- The letter case of type tags does not matter: not that of the event's own tag, nor those
of what it wraps and of its item.  With the tags of its content blocks in another case as
well, an event is still accepted or rejected in the same way; it still becomes the same
chunks when each block is still, or still is not, tagged as text letter by letter. -/
theorem check_and_chunks_of_retagged (event event' : Json) (model : Model) :
    (Retagged RetaggedBlock event event' → check event' = check event) ∧
    (Retagged KeptBlock event event' → chunks event' model = chunks event model) := by
  constructor
  · intro h
    exact h.check_eq
  · intro h
    exact h.chunks_eq model fun _ _ => KeptBlock.blockText?_eq

/-- A content block with a text, under a type tag. -/
def taggedBlock (tag : String) : Json :=
  .object [("text", .string "a"), ("type", .string tag)]

/-- A finished message with one content block, under the type tags of the event, of the
message and of the block. -/
def finishedMessage (tag itemTag blockTag : String) : Json :=
  .object [
    ("item", .object [("content", .array [taggedBlock blockTag]), ("type", .string itemTag)]),
    ("type", .string tag)]

theorem retaggedBlock_taggedBlock {tag tag' : String} (h : Text.SameLetters tag tag') :
    RetaggedBlock (taggedBlock tag) (taggedBlock tag') :=
  .object (.cons ⟨rfl, .same rfl⟩ (.cons ⟨rfl, .tag rfl (.text h)⟩ .nil))

theorem retagged_finishedMessage {block : Json → Json → Prop}
    {tag tag' itemTag itemTag' blockTag blockTag' : String} (h : Text.SameLetters tag tag')
    (hitem : Text.SameLetters itemTag itemTag')
    (hblock : block (taggedBlock blockTag) (taggedBlock blockTag')) :
    Retagged block (finishedMessage tag itemTag blockTag)
      (finishedMessage tag' itemTag' blockTag') := by
  have hmessage : RetaggedItem block
      (.object [("content", .array [taggedBlock blockTag]), ("type", .string itemTag)])
      (.object [("content", .array [taggedBlock blockTag']), ("type", .string itemTag')]) :=
    .object (.cons ⟨rfl, .content rfl (.array (.cons hblock .nil))⟩
      (.cons ⟨rfl, .tag rfl (.text hitem)⟩ .nil))
  exact .object (.cons ⟨rfl, .item rfl hmessage⟩ (.cons ⟨rfl, .tag rfl (.text h)⟩ .nil))

/-- A finished message in capitals is accepted, and with its content block as it was it
becomes the same text. -/
theorem check_and_chunks_of_capitals :
    let event := finishedMessage "item.completed" "message" "text"
    check (finishedMessage "ITEM.Completed" "MESSAGE" "TEXT") = check event ∧
      chunks (finishedMessage "ITEM.Completed" "MESSAGE" "text") (.unknown "m") =
        chunks event (.unknown "m") ∧
      chunks event (.unknown "m") = [.text "a"] := by
  intro event
  have hcapitals : Retagged RetaggedBlock event
      (finishedMessage "ITEM.Completed" "MESSAGE" "TEXT") :=
    retagged_finishedMessage (by decide) (by decide) (retaggedBlock_taggedBlock (by decide))
  have hkept : Retagged KeptBlock event (finishedMessage "ITEM.Completed" "MESSAGE" "text") :=
    retagged_finishedMessage (by decide) (by decide) ⟨.same _, rfl⟩
  have hcheck := (check_and_chunks_of_retagged event _ (.unknown "m")).1 hcapitals
  have hchunks := (check_and_chunks_of_retagged event _ (.unknown "m")).2 hkept
  exact ⟨hcheck, hchunks, by decide⟩

/-- With a capital in the tag of its content block a finished message loses the text of that
block. -/
theorem not_chunks_of_retaggedBlock :
    ¬ ∀ (event event' : Json) (model : Model), Retagged RetaggedBlock event event' →
      check event' = check event ∧ chunks event' model = chunks event model := by
  intro hall
  have hretagged : Retagged RetaggedBlock (finishedMessage "item.completed" "message" "text")
      (finishedMessage "item.completed" "message" "Text") :=
    retagged_finishedMessage rfl rfl (retaggedBlock_taggedBlock (by decide))
  have hkept : chunks (finishedMessage "item.completed" "message" "text") (.unknown "m") =
      [.text "a"] := by
    decide
  have hlost : chunks (finishedMessage "item.completed" "message" "Text") (.unknown "m") = [] := by
    decide
  have heq := (hall _ _ (.unknown "m") hretagged).2
  rw [hkept, hlost] at heq
  cases heq

end Event
end AgentRelay
