import AgentRelay.Conversation.Encoding
import Mathlib.Data.Option.Basic

/-!
# Messages survive being written

A message that is written as a value is read back from it unchanged, however deep its tool
results nest and whichever optional parts it lacks.  A value that is read as a message and
written again is tidied: arrays that give fields in their order become objects, numbers that
stand for a kind of block become its name, unknown fields and null texts are dropped, defaults
are filled in, and blocks of an unknown kind are written without content.  What is tidy stays
as it is.

Main definitions:

- {lit}`Message.rewrite?`: a value read as a message and written again.
- {lit}`Json.Record` and {lit}`Block.Tagged`: the two ways to write a record and a block.
- {lit}`Block.Tidied`, {lit}`Content.Tidied`, {lit}`Message.Tidied`: what a value becomes on
  the way, said without messages.

Main results:

- Theorem {lit}`Block.ofJson?_of_tagged`: how a block is read depends on its kind and fields.
- Theorem {lit}`Block.ofJson?_toJson`: a block is read back from its value.
- Theorem {lit}`Block.tidied_of_ofJson?`: the value of a block that was read is tidied.
- Theorem {lit}`Message.ofJson?_toJson_and_rewrite?`: messages are read back, rewriting tidies
  and rewriting twice is rewriting once.
-/

namespace AgentRelay

/-! ## Records -/

/-- A value that writes a record with fields of given names: an object, which may have other
fields as well, or an array with the fields in their order, which may end early. -/
inductive Json.Record (names : List String) : Json → List (String × Json) → Prop where
  | object (fields : List (String × Json)) : Record names (.object fields) fields
  | array {items : List Json} (h : items.length ≤ names.length) :
      Record names (.array items) (names.zip items)

/-- What a tag says about the kind of a block: it is the name of the kind or its number, and
numbers of 64-bit words that no known kind has stand for an unknown one. -/
inductive Block.Tag : Json → String → Prop where
  | name (kind : String) : Tag (.string kind) kind
  | known {n : Nat} {kind : String} (h : Block.knownKinds[n]? = some kind) : Tag (.nat n) kind
  | unknown {n : Nat} (h : Block.knownKinds.length ≤ n) (hword : n < Nat.pow 2 64) :
      Tag (.nat n) "unsupported"

/-- A value that writes a block of a kind with fields of given names: an object with the tag in
a field, or an array with the tag in front of the fields in their order. -/
inductive Block.Tagged (names : List String) (kind : String) :
    Json → List (String × Json) → Prop where
  | object {fields : List (String × Json)} {tag : Json} (htype : fields.lookup "type" = some tag)
      (htag : Block.Tag tag kind) : Tagged names kind (.object fields) fields
  | array {tag : Json} {items : List Json} (htag : Block.Tag tag kind)
      (h : items.length ≤ names.length) :
      Tagged names kind (.array (tag :: items)) (names.zip items)

/-! ## Tidy values -/

/-- A value read as a message and written again. -/
def Message.rewrite? (j : Json) : Option Json :=
  (Message.ofJson? j).map Message.toJson

/-- What is kept of an optional text: nothing when it is absent or null. -/
inductive Json.KeptText (fields : List (String × Json)) (name : String) :
    List (String × Json) → Prop where
  | absent (h : fields.lookup name = none) : KeptText fields name []
  | null (h : fields.lookup name = some .null) : KeptText fields name []
  | text {s : String} (h : fields.lookup name = some (.string s)) :
      KeptText fields name [(name, .string s)]

mutual

/-- A block as a value, and what is left of it: its known fields in their order, with null
for an absent input and no error for an absent flag.  Of a block of an unknown kind nothing
is left but its place. -/
inductive Block.Tidied : Json → Json → Prop where
  | text {j : Json} {fields : List (String × Json)} {text : String}
      (htagged : Block.Tagged ["text"] "text" j fields)
      (htext : fields.lookup "text" = some (.string text)) :
      Block.Tidied j (.object [("type", .string "text"), ("text", .string text)])
  | image {j given : Json} {fields source mediaType data url : List (String × Json)}
      {kind : String} (htagged : Block.Tagged ["source"] "image" j fields)
      (hgiven : fields.lookup "source" = some given)
      (hsource : Json.Record ["type", "media_type", "data", "url"] given source)
      (hkind : source.lookup "type" = some (.string kind))
      (hmediaType : Json.KeptText source "media_type" mediaType)
      (hdata : Json.KeptText source "data" data) (hurl : Json.KeptText source "url" url) :
      Block.Tidied j (.object [("type", .string "image"),
        ("source", .object ([("type", .string kind)] ++ mediaType ++ data ++ url))])
  | toolUse {j : Json} {fields id : List (String × Json)} {name : String}
      (htagged : Block.Tagged ["id", "name", "input"] "tool_use" j fields)
      (hid : Json.KeptText fields "id" id)
      (hname : fields.lookup "name" = some (.string name)) :
      Block.Tidied j (.object ([("type", .string "tool_use")] ++ id ++
        [("name", .string name), ("input", (fields.lookup "input").getD .null)]))
  | toolResult {j content tidy : Json} {fields id : List (String × Json)} {isError : Bool}
      (htagged : Block.Tagged ["tool_use_id", "content", "is_error"] "tool_result" j fields)
      (hid : Json.KeptText fields "tool_use_id" id)
      (hcontent : fields.lookup "content" = some content)
      (htidy : Content.Tidied content tidy)
      (hisError : (fields.lookup "is_error").getD (.bool false) = .bool isError) :
      Block.Tidied j (.object ([("type", .string "tool_result")] ++ id ++
        [("content", tidy), ("is_error", .bool isError)]))
  | unsupported {j : Json} {fields : List (String × Json)} {kind : String}
      (htagged : Block.Tagged [] kind j fields) (hkind : kind ∉ Block.knownKinds) :
      Block.Tidied j (.object [("type", .string "unsupported")])

/-- A content as a value, and what is left of it. -/
inductive Content.Tidied : Json → Json → Prop where
  | text (text : String) : Content.Tidied (.string text) (.string text)
  | blocks {items tidy : List Json} (h : Block.AllTidied items tidy) :
      Content.Tidied (.array items) (.array tidy)

/-- The items of a content, and what is left of them. -/
inductive Block.AllTidied : List Json → List Json → Prop where
  | nil : Block.AllTidied [] []
  | cons {item tidy : Json} {items tidies : List Json} (h : Block.Tidied item tidy)
      (hrest : Block.AllTidied items tidies) : Block.AllTidied (item :: items) (tidy :: tidies)

end

/-- A message as a value, and what is left of it: the name of its role and its content. -/
inductive Message.Tidied : Json → Json → Prop where
  | mk {j given content tidy : Json} {fields : List (String × Json)} {role : Role}
      (hfields : Json.Record ["role", "content"] j fields)
      (hrole : fields.lookup "role" = some given)
      (hgiven : given = .string role.name ∨ given = .object [(role.name, .null)])
      (hcontent : fields.lookup "content" = some content)
      (htidy : Content.Tidied content tidy) :
      Message.Tidied j (.object [("role", .string role.name), ("content", tidy)])

/-! ## Fields -/

theorem Json.requiredText?_eq_some_iff {fields : List (String × Json)} {name s : String} :
    Json.requiredText? fields name = some s ↔ fields.lookup name = some (.string s) := by
  unfold Json.requiredText?
  cases fields.lookup name with
  | none => simp
  | some v => cases v <;> simp [Json.string?]

/-- An optional text that was read is written as what is kept of it. -/
theorem Json.KeptText.of_optionalText? {fields : List (String × Json)} {name : String}
    {text : Option String} (h : Json.optionalText? fields name = some text) :
    Json.KeptText fields name (optionalField name .string text) := by
  unfold Json.optionalText? at h
  split at h
  · next hlookup =>
    cases h
    exact .absent hlookup
  · next hlookup =>
    cases h
    exact .null hlookup
  · next s hlookup =>
    cases h
    exact .text hlookup
  · cases h

/-- What is kept of an optional text is what is written of the text that is read. -/
theorem Json.KeptText.exists_optionalText? {fields kept : List (String × Json)} {name : String}
    (h : Json.KeptText fields name kept) :
    ∃ text, Json.optionalText? fields name = some text ∧
      optionalField name .string text = kept := by
  cases h with
  | absent hlookup => exact ⟨none, by simp [Json.optionalText?, hlookup], rfl⟩
  | null hlookup => exact ⟨none, by simp [Json.optionalText?, hlookup], rfl⟩
  | text hlookup => exact ⟨some _, by simp [Json.optionalText?, hlookup], rfl⟩

/-- A flag that may be absent is read as its value, or as the default. -/
theorem Json.fieldOr?_bool?_eq_some_iff {fields : List (String × Json)} {name : String}
    {b default : Bool} :
    Json.fieldOr? fields name Json.bool? default = some b ↔
      (fields.lookup name).getD (.bool default) = .bool b := by
  unfold Json.fieldOr?
  cases fields.lookup name with
  | none => simp
  | some v => cases v <;> simp [Json.bool?]

/-- A name out of a choice is written as a string, or as an object that holds nothing else. -/
theorem Json.choice?_eq_some_iff {j : Json} {name : String} :
    Json.choice? j = some name ↔ j = .string name ∨ j = .object [(name, .null)] := by
  unfold Json.choice?
  split
  · simp
  · simp
  · next hstring hobject =>
    simp only [reduceCtorEq, false_iff, not_or]
    exact ⟨fun h => hstring _ h, fun h => hobject _ h⟩

/-- The named fields are those of a record. -/
theorem Json.record?_eq_some_iff {names : List String} {j : Json}
    {fields : List (String × Json)} :
    Json.record? names j = some fields ↔ Json.Record names j fields := by
  constructor
  · intro h
    cases j with
    | object _ =>
      cases h
      exact .object fields
    | array items =>
      obtain ⟨hlength, hfields⟩ := Option.ite_none_right_eq_some.1 h
      cases hfields
      exact .array hlength
    | null => cases h
    | bool b => cases h
    | number n => cases h
    | string s => cases h
  · rintro (_ | hlength)
    · rfl
    · exact if_pos hlength

/-- The role that is found under a name has that name. -/
theorem Role.name_of_ofName? {name : String} {role : Role} (h : Role.ofName? name = some role) :
    role.name = name := by
  simpa using List.find?_some h

/-! ## Reading blocks by kind -/

/-- A whole number that is an index was written as that number. -/
theorem Json.index?_eq_some_iff {j : Json} {n : Nat} :
    j.index? = some n ↔ j = .nat n ∧ n < Nat.pow 2 64 := by
  constructor
  · intro h
    unfold index? at h
    split at h
    · next m =>
      obtain ⟨⟨hnonneg, hlt⟩, hm⟩ := Option.ite_none_right_eq_some.1 h
      cases hm
      refine ⟨?_, (Int.toNat_lt hnonneg).2 hlt⟩
      rw [nat, int, Int.toNat_of_nonneg hnonneg]
    · cases h
  · rintro ⟨rfl, hlt⟩
    have hword : (0 : Int) ≤ n ∧ (n : Int) < Nat.pow 2 64 :=
      ⟨Int.natCast_nonneg n, Int.ofNat_lt.2 hlt⟩
    rw [nat, int, index?, if_pos hword, Int.toNat_natCast]

namespace Block

/-- The kind of a tag is what the tag says. -/
theorem kind?_eq_some_iff {tag : Json} {kind : String} :
    kind? tag = some kind ↔ Tag tag kind := by
  have hnumber {n : Nat} (hword : n < Nat.pow 2 64) :
      kind? (.nat n) = some (knownKinds[n]?.getD "unsupported") := by
    have hread : kind? (.nat n) =
        (Json.nat n).index?.map fun n => knownKinds.getD n "unsupported" := rfl
    rw [hread, Json.index?_eq_some_iff.2 ⟨rfl, hword⟩, Option.map_some,
      List.getD_eq_getElem?_getD]
  constructor
  · intro h
    unfold kind? at h
    split at h
    · cases h
      exact .name kind
    · obtain ⟨n, hindex, rfl⟩ := Option.map_eq_some_iff.1 h
      obtain ⟨rfl, hword⟩ := Json.index?_eq_some_iff.1 hindex
      rw [List.getD_eq_getElem?_getD]
      rcases Nat.lt_or_ge n knownKinds.length with hlt | hge
      · rw [List.getElem?_eq_getElem hlt]
        exact .known (List.getElem?_eq_getElem hlt)
      · rw [List.getElem?_eq_none hge]
        exact .unknown hge hword
  · rintro (_ | hkind | ⟨hge, hword⟩)
    · rfl
    · have hlt := (List.getElem?_eq_some_iff.1 hkind).1
      rw [hnumber (Nat.lt_trans hlt (by decide)), hkind, Option.getD_some]
    · rw [hnumber hword, List.getElem?_eq_none hge, Option.getD_none]

variable {j : Json} {fields : List (String × Json)} {kind : String}

/-- How a block is read depends on its kind and its fields alone. -/
theorem ofJson?_of_tagged {names : List String} (h : Tagged names kind j fields)
    (hnames : fieldNames kind = names) :
    ofJson? j = ofFields? kind fields ((fields.lookup "content").bind Content.ofJson?) := by
  subst hnames
  rw [← Content.inFields?_eq]
  cases h with
  | object htype htag =>
    rw [ofJson?, htype, Option.bind_some, kind?_eq_some_iff.2 htag, Option.bind_some]
  | array htag hlength =>
    rw [ofJson?, kind?_eq_some_iff.2 htag, Option.bind_some, if_pos hlength, Content.inItems?_eq]

/-- A value that writes a block has a kind. -/
theorem exists_tagged_of_ofJson? {b : Block} (h : ofJson? j = some b) :
    ∃ kind fields, Tagged (fieldNames kind) kind j fields := by
  cases j with
  | object fields =>
    rw [ofJson?] at h
    obtain ⟨kind, hkind, -⟩ := Option.bind_eq_some_iff.1 h
    obtain ⟨tag, htype, htag⟩ := Option.bind_eq_some_iff.1 hkind
    exact ⟨kind, fields, .object htype (kind?_eq_some_iff.1 htag)⟩
  | array items =>
    cases items with
    | nil => cases h
    | cons tag items =>
      rw [ofJson?] at h
      obtain ⟨kind, hkind, hread⟩ := Option.bind_eq_some_iff.1 h
      obtain ⟨hlength, -⟩ := Option.ite_none_right_eq_some.1 hread
      exact ⟨kind, _, .array (kind?_eq_some_iff.1 hkind) hlength⟩
  | null => cases h
  | bool b => cases h
  | number n => cases h
  | string s => cases h

section OfKind

variable {content : Option Content}

theorem ofFields?_text :
    ofFields? "text" fields content = (Json.requiredText? fields "text").map .text := by
  simp [ofFields?]

theorem ofFields?_image :
    ofFields? "image" fields content = (ImageSource.inFields? fields).map .image := by
  simp [ofFields?]

theorem ofFields?_toolUse :
    ofFields? "tool_use" fields content =
      (Json.optionalText? fields "id").bind fun id =>
        (Json.requiredText? fields "name").bind fun name =>
          some (.toolUse id name ((fields.lookup "input").getD .null)) := by
  simp [ofFields?]

theorem ofFields?_toolResult :
    ofFields? "tool_result" fields content =
      (Json.optionalText? fields "tool_use_id").bind fun id =>
        content.bind fun content =>
          (Json.fieldOr? fields "is_error" Json.bool? false).bind fun isError =>
            some (.toolResult id content isError) := by
  simp [ofFields?]

/-- Nothing is read of a block of an unknown kind. -/
theorem ofFields?_unknown (h : kind ∉ knownKinds) :
    ofFields? kind fields content = some .unsupported := by
  simp only [knownKinds, List.mem_cons, List.not_mem_nil, or_false, not_or] at h
  obtain ⟨htext, himage, htoolUse, htoolResult⟩ := h
  simp only [ofFields?, htext, himage, htoolUse, htoolResult, if_false]

/-- An unknown kind has no fields. -/
theorem fieldNames_unknown (h : kind ∉ knownKinds) : fieldNames kind = [] := by
  simp only [knownKinds, List.mem_cons, List.not_mem_nil, or_false, not_or] at h
  obtain ⟨htext, himage, htoolUse, htoolResult⟩ := h
  simp only [fieldNames, htext, himage, htoolUse, htoolResult, if_false]

end OfKind

end Block

section Source

variable {fields : List (String × Json)}

/-- What an object has to hold to be the source of an image. -/
theorem ImageSource.ofFields?_eq_some_iff {source : ImageSource} :
    ImageSource.ofFields? fields = some source ↔
      fields.lookup "type" = some (.string source.kind) ∧
        Json.optionalText? fields "media_type" = some source.mediaType ∧
        Json.optionalText? fields "data" = some source.data ∧
        Json.optionalText? fields "url" = some source.url := by
  obtain ⟨kind, mediaType, data, url⟩ := source
  simp only [ImageSource.ofFields?, Option.bind_eq_bind, Option.bind_eq_some_iff,
    Json.requiredText?_eq_some_iff, Option.some.injEq, ImageSource.mk.injEq]
  constructor
  · rintro ⟨_, hkind, _, hmedia, _, hdata, _, hurl, rfl, rfl, rfl, rfl⟩
    exact ⟨hkind, hmedia, hdata, hurl⟩
  · rintro ⟨hkind, hmedia, hdata, hurl⟩
    exact ⟨_, hkind, _, hmedia, _, hdata, _, hurl, rfl, rfl, rfl, rfl⟩

/-- The source of an image stands in its field, as a record. -/
theorem ImageSource.inFields?_eq_some_iff {source : ImageSource} :
    ImageSource.inFields? fields = some source ↔
      ∃ given inner, fields.lookup "source" = some given ∧
        Json.Record ["type", "media_type", "data", "url"] given inner ∧
        ImageSource.ofFields? inner = some source := by
  simp only [ImageSource.inFields?, Option.bind_eq_some_iff, Json.record?_eq_some_iff]
  constructor
  · rintro ⟨inner, ⟨given, hgiven, hinner⟩, hread⟩
    exact ⟨given, inner, hgiven, hinner, hread⟩
  · rintro ⟨given, inner, hgiven, hinner, hread⟩
    exact ⟨inner, ⟨given, hgiven, hinner⟩, hread⟩

end Source

/-! ## Written values are read back -/

/-- The source of an image is read back. -/
theorem ImageSource.inFields?_toJson (source : ImageSource) :
    ImageSource.inFields? [("type", .string "image"), ("source", source.toJson)] =
      some source := by
  refine ImageSource.inFields?_eq_some_iff.2 ⟨_, _, rfl, .object _, ?_⟩
  rw [ImageSource.ofFields?_eq_some_iff]
  refine ⟨?_, ?_, ?_, ?_⟩
  · simp
  · exact Json.optionalText?_of_lookup (by simp [List.lookup_append, List.lookup_cons])
  · exact Json.optionalText?_of_lookup (by simp [List.lookup_append, List.lookup_cons])
  · exact Json.optionalText?_of_lookup (by simp [List.lookup_append, List.lookup_cons])

/-- An object with the name of a kind as its tag is read as a block of that kind. -/
theorem Block.ofJson?_of_name {fields : List (String × Json)} (kind : String)
    (h : fields.lookup "type" = some (.string kind)) :
    Block.ofJson? (.object fields) =
      Block.ofFields? kind fields ((fields.lookup "content").bind Content.ofJson?) :=
  Block.ofJson?_of_tagged (.object h (.name kind)) rfl

-- Induction on the block; the content of a tool result and its blocks are taken along.
mutual

/-- A block is read back from the value it is written as. -/
theorem Block.ofJson?_toJson (b : Block) : Block.ofJson? b.toJson = some b := by
  cases b with
  | text text =>
    rw [Block.toJson, Block.ofJson?_of_name "text" (by simp), Block.ofFields?_text]
    simp [Json.requiredText?, List.lookup_cons]
  | image source =>
    rw [Block.toJson, Block.ofJson?_of_name "image" (by simp), Block.ofFields?_image,
      ImageSource.inFields?_toJson]
    rfl
  | toolUse id name input =>
    have hid : Json.optionalText? ([("type", .string "tool_use")] ++
        optionalField "id" .string id ++ [("name", .string name), ("input", input)]) "id" =
          some id :=
      Json.optionalText?_of_lookup (by simp [List.lookup_append, List.lookup_cons])
    rw [Block.toJson, Block.ofJson?_of_name "tool_use" (by simp),
      Block.ofFields?_toolUse, hid]
    simp [Json.requiredText?, List.lookup_append, List.lookup_cons]
  | toolResult id content isError =>
    have hid : Json.optionalText? ([("type", .string "tool_result")] ++
        optionalField "tool_use_id" .string id ++
          [("content", content.toJson), ("is_error", .bool isError)]) "tool_use_id" = some id :=
      Json.optionalText?_of_lookup (by simp [List.lookup_append, List.lookup_cons])
    rw [Block.toJson, Block.ofJson?_of_name "tool_result" (by simp),
      Block.ofFields?_toolResult, hid]
    simp [List.lookup_append, List.lookup_cons, content.ofJson?_toJson, Json.fieldOr?,
      Json.bool?]
  | unsupported =>
    rw [Block.toJson, Block.ofJson?_of_name "unsupported" (by simp)]
    exact Block.ofFields?_unknown (by decide)

/-- A content is read back from the value it is written as. -/
theorem Content.ofJson?_toJson (c : Content) : Content.ofJson? c.toJson = some c := by
  cases c with
  | text text => rfl
  | blocks bs => simp [Content.toJson, Content.ofJson?, Block.ofItems?_itemsToJson bs]

theorem Block.ofItems?_itemsToJson (bs : List Block) :
    Block.ofItems? (Block.itemsToJson bs) = some bs := by
  cases bs with
  | nil => rfl
  | cons b bs =>
    simp [Block.itemsToJson, Block.ofItems?, b.ofJson?_toJson, Block.ofItems?_itemsToJson bs]

end

/-- A message is read back from the value it is written as. -/
theorem Message.ofJson?_toJson (m : Message) : Message.ofJson? m.toJson = some m := by
  simp [Message.toJson, Message.ofJson?, Json.record?, Content.inFields?_eq, List.lookup_cons,
    Json.choice?, m.content.ofJson?_toJson]

/-! ## Rewriting tidies -/

mutual

/-- The value of a block that was read is what is left of the value it was read from. -/
theorem Block.tidied_of_ofJson? {j : Json} {b : Block} (h : Block.ofJson? j = some b) :
    Block.Tidied j b.toJson := by
  obtain ⟨kind, fields, htagged⟩ := Block.exists_tagged_of_ofJson? h
  rw [Block.ofJson?_of_tagged htagged rfl] at h
  by_cases hknown : kind ∈ Block.knownKinds
  · simp only [Block.knownKinds, List.mem_cons, List.not_mem_nil, or_false] at hknown
    rcases hknown with rfl | rfl | rfl | rfl
    · rw [Block.ofFields?_text] at h
      obtain ⟨text, htext, rfl⟩ := Option.map_eq_some_iff.1 h
      exact .text htagged (Json.requiredText?_eq_some_iff.1 htext)
    · rw [Block.ofFields?_image] at h
      obtain ⟨source, hsource, rfl⟩ := Option.map_eq_some_iff.1 h
      obtain ⟨given, inner, hgiven, hinner, hfields⟩ :=
        ImageSource.inFields?_eq_some_iff.1 hsource
      obtain ⟨htype, hmediaType, hdata, hurl⟩ := ImageSource.ofFields?_eq_some_iff.1 hfields
      exact .image htagged hgiven hinner htype (.of_optionalText? hmediaType)
        (.of_optionalText? hdata) (.of_optionalText? hurl)
    · rw [Block.ofFields?_toolUse] at h
      obtain ⟨id, hid, h⟩ := Option.bind_eq_some_iff.1 h
      obtain ⟨name, hname, h⟩ := Option.bind_eq_some_iff.1 h
      cases h
      exact .toolUse htagged (.of_optionalText? hid) (Json.requiredText?_eq_some_iff.1 hname)
    · rw [Block.ofFields?_toolResult] at h
      obtain ⟨id, hid, h⟩ := Option.bind_eq_some_iff.1 h
      obtain ⟨content, hcontent, h⟩ := Option.bind_eq_some_iff.1 h
      obtain ⟨given, hgiven, hread⟩ := Option.bind_eq_some_iff.1 hcontent
      obtain ⟨isError, hisError, h⟩ := Option.bind_eq_some_iff.1 h
      cases h
      have htidy : Content.Tidied given content.toJson := Content.tidied_of_ofJson? hread
      exact .toolResult htagged (.of_optionalText? hid) hgiven htidy
        (Json.fieldOr?_bool?_eq_some_iff.1 hisError)
  · rw [Block.ofFields?_unknown hknown] at h
    cases h
    rw [Block.fieldNames_unknown hknown] at htagged
    exact .unsupported htagged hknown

/-- The value of a content that was read is what is left of the value it was read from. -/
theorem Content.tidied_of_ofJson? {j : Json} {c : Content} (h : Content.ofJson? j = some c) :
    Content.Tidied j c.toJson := by
  cases j with
  | string s =>
    cases h
    exact .text s
  | array items =>
    obtain ⟨bs, hitems, rfl⟩ := Option.map_eq_some_iff.1 h
    exact .blocks (Block.allTidied_of_ofItems? hitems)
  | null => cases h
  | bool b => cases h
  | number n => cases h
  | object fields => cases h

theorem Block.allTidied_of_ofItems? {items : List Json} {bs : List Block}
    (h : Block.ofItems? items = some bs) : Block.AllTidied items (Block.itemsToJson bs) := by
  cases items with
  | nil =>
    cases h
    exact .nil
  | cons item items =>
    unfold Block.ofItems? at h
    split at h
    · next b bs' hitem hitems =>
      cases h
      exact .cons (Block.tidied_of_ofJson? hitem) (Block.allTidied_of_ofItems? hitems)
    · cases h

end

/-- The value of a message that was read is what is left of the value it was read from. -/
theorem Message.tidied_of_ofJson? {j : Json} {m : Message} (h : Message.ofJson? j = some m) :
    Message.Tidied j m.toJson := by
  obtain ⟨fields, hfields, h⟩ := Option.bind_eq_some_iff.1 h
  obtain ⟨role, hrole, h⟩ := Option.bind_eq_some_iff.1 h
  obtain ⟨content, hcontent, h⟩ := Option.bind_eq_some_iff.1 h
  cases h
  obtain ⟨name, hname, hrole⟩ := Option.bind_eq_some_iff.1 hrole
  obtain ⟨given, hgiven, hchoice⟩ := Option.bind_eq_some_iff.1 hname
  rw [Content.inFields?_eq] at hcontent
  obtain ⟨value, hvalue, hread⟩ := Option.bind_eq_some_iff.1 hcontent
  have hform := Json.choice?_eq_some_iff.1 hchoice
  rw [← Role.name_of_ofName? hrole] at hform
  exact .mk (Json.record?_eq_some_iff.1 hfields) hgiven hform hvalue
    (Content.tidied_of_ofJson? hread)

mutual

/-- What is left of a value is the value of the block that is read from it. -/
theorem Block.Tidied.exists_block : ∀ {j tidy : Json}, Block.Tidied j tidy →
    ∃ b, Block.ofJson? j = some b ∧ b.toJson = tidy
  | _, _, .text htagged htext => by
    refine ⟨.text _, ?_, rfl⟩
    rw [Block.ofJson?_of_tagged htagged rfl, Block.ofFields?_text,
      Json.requiredText?_eq_some_iff.2 htext]
    rfl
  | _, _, .image htagged hgiven hsource hkind hmediaType hdata hurl => by
    obtain ⟨mediaType, hreadType, rfl⟩ := hmediaType.exists_optionalText?
    obtain ⟨data, hreadData, rfl⟩ := hdata.exists_optionalText?
    obtain ⟨url, hreadUrl, rfl⟩ := hurl.exists_optionalText?
    have hread : ImageSource.inFields? _ = some ⟨_, mediaType, data, url⟩ :=
      ImageSource.inFields?_eq_some_iff.2 ⟨_, _, hgiven, hsource,
        ImageSource.ofFields?_eq_some_iff.2 ⟨hkind, hreadType, hreadData, hreadUrl⟩⟩
    refine ⟨.image ⟨_, mediaType, data, url⟩, ?_, rfl⟩
    rw [Block.ofJson?_of_tagged htagged rfl, Block.ofFields?_image, hread]
    rfl
  | _, _, .toolUse htagged hid hname => by
    obtain ⟨id, hread, rfl⟩ := hid.exists_optionalText?
    refine ⟨.toolUse id _ _, ?_, rfl⟩
    rw [Block.ofJson?_of_tagged htagged rfl, Block.ofFields?_toolUse, hread,
      Json.requiredText?_eq_some_iff.2 hname]
    rfl
  | _, _, .toolResult htagged hid hcontent htidy hisError => by
    obtain ⟨content, hread, rfl⟩ := Content.Tidied.exists_content htidy
    obtain ⟨id, hreadId, rfl⟩ := hid.exists_optionalText?
    refine ⟨.toolResult id content _, ?_, rfl⟩
    rw [Block.ofJson?_of_tagged htagged rfl, Block.ofFields?_toolResult, hreadId, hcontent,
      Json.fieldOr?_bool?_eq_some_iff.2 hisError]
    simp [hread]
  | _, _, .unsupported htagged hkind => by
    refine ⟨.unsupported, ?_, rfl⟩
    rw [Block.ofJson?_of_tagged htagged (Block.fieldNames_unknown hkind),
      Block.ofFields?_unknown hkind]

/-- What is left of a value is the value of the content that is read from it. -/
theorem Content.Tidied.exists_content : ∀ {j tidy : Json}, Content.Tidied j tidy →
    ∃ c, Content.ofJson? j = some c ∧ c.toJson = tidy
  | _, _, .text text => ⟨.text text, rfl, rfl⟩
  | _, _, .blocks hblocks => by
    obtain ⟨bs, hitems, rfl⟩ := Block.AllTidied.exists_blocks hblocks
    refine ⟨.blocks bs, ?_, rfl⟩
    simp [Content.ofJson?, hitems]

theorem Block.AllTidied.exists_blocks : ∀ {items tidies : List Json},
    Block.AllTidied items tidies →
      ∃ bs, Block.ofItems? items = some bs ∧ Block.itemsToJson bs = tidies
  | _, _, .nil => ⟨[], rfl, rfl⟩
  | _, _, .cons hblock hrest => by
    obtain ⟨b, hb, rfl⟩ := Block.Tidied.exists_block hblock
    obtain ⟨bs, hbs, rfl⟩ := Block.AllTidied.exists_blocks hrest
    refine ⟨b :: bs, ?_, rfl⟩
    simp [Block.ofItems?, hb, hbs]

end

/-- What is left of a value is the value of the message that is read from it. -/
theorem Message.Tidied.exists_message {j tidy : Json} (h : Message.Tidied j tidy) :
    ∃ m, Message.ofJson? j = some m ∧ m.toJson = tidy := by
  cases h with
  | mk hfields hrole hgiven hcontent htidy =>
    obtain ⟨c, hread, rfl⟩ := htidy.exists_content
    have hchoice := Json.choice?_eq_some_iff.2 hgiven
    refine ⟨⟨_, c⟩, ?_, rfl⟩
    simp [Message.ofJson?, Json.record?_eq_some_iff.2 hfields, Content.inFields?_eq, hrole, hchoice,
      hcontent, hread]

/-- Every message is read back from the value it is written as.  Rewriting a value turns arrays
that give fields in their order into objects and the numbers of kinds into names, drops unknown
fields and null texts, fills in what is absent, and leaves nothing but the place of a block of
an unknown kind; a second time it changes nothing. -/
theorem Message.ofJson?_toJson_and_rewrite? :
    (∀ m : Message, Message.ofJson? m.toJson = some m) ∧
      (∀ j tidy : Json, Message.rewrite? j = some tidy ↔ Message.Tidied j tidy) ∧
      ∀ j : Json, (Message.rewrite? j).bind Message.rewrite? = Message.rewrite? j := by
  refine ⟨Message.ofJson?_toJson, ?_, ?_⟩
  · intro j tidy
    constructor
    · intro h
      obtain ⟨m, hread, rfl⟩ := Option.map_eq_some_iff.1 h
      exact Message.tidied_of_ofJson? hread
    · intro h
      obtain ⟨m, hread, rfl⟩ := h.exists_message
      exact Option.map_eq_some_iff.2 ⟨m, hread, rfl⟩
  · intro j
    unfold Message.rewrite?
    cases Message.ofJson? j with
    | none => rfl
    | some m => simp [m.ofJson?_toJson]

example :
    Message.rewrite? (.object [("role", .string "user"), ("mood", .string "calm"),
        ("content", .array [.object [("type", .string "audio"), ("data", .string "x")],
          .object [("type", .string "tool_use"), ("id", .null), ("name", .string "n")]])]) =
      some (.object [("role", .string "user"),
        ("content", .array [.object [("type", .string "unsupported")],
          .object [("type", .string "tool_use"), ("name", .string "n"), ("input", .null)]])]) :=
  rfl

example :
    Message.rewrite? (.array [.string "user", .array [.array [.nat 0, .string "hi"]]]) =
      some (.object [("role", .string "user"),
        ("content", .array [.object [("type", .string "text"), ("text", .string "hi")]])]) :=
  rfl

end AgentRelay
