import AgentRelay.CommandLine.Screen
import AgentRelay.Proofs.JsonOrder
import AgentRelay.Proofs.JsonText
import AgentRelay.Proofs.Stream

/-!
# Chunks line by line

In JSON an answer is shown with one line for each chunk, and nothing else.  No text that a chunk
holds breaks its line, so cutting the output at its line breaks gives back the lines, and a
reader of JSON finds in each line what the chunk holds.  Chunks that are shown alike are
therefore alike, as long as none of them has a price.

Main definitions:

- {lit}`chunksOf`: the chunks of an answer before its first error.
- {lit}`Chunk.InRange`: the counts of a chunk fit 64-bit words.
- {lit}`Chunk.PriceIsRead`: the price of a chunk is written as a number or as null.
- {lit}`Chunk.ShownBy`: the fields of an object show a chunk.

Main results:

- Theorem {lit}`stdout_streamScreen_json`: the output is the lines of the chunks.
- Theorem {lit}`splitOn_unlines`: cutting the output gives back the lines.
- Theorem {lit}`Chunk.exists_shownBy`: what is read from the line of a chunk shows the chunk.
- Theorem {lit}`chunk_lines`: all of this for the items of an answer.
-/

namespace AgentRelay

/-! ## Lines -/

/-- The chunks of an answer before its first error. -/
def chunksOf : List Item → List Chunk
  | .ok chunk :: rest => chunk :: chunksOf rest
  | _ => []

/-- Lines, each with its line break. -/
def unlines (lines : List String) : String :=
  String.join (lines.map asLine)

/-- In JSON the output is one line for each chunk before the first error. -/
theorem stdout_streamScreen_json (showReasoning : Bool) (usage : Option UsageSummary)
    (items : List Item) :
    (streamScreen true showReasoning usage items).stdout =
      unlines ((chunksOf items).map fun c => c.toJson.render) := by
  induction items generalizing usage with
  | nil => rfl
  | cons item items ih =>
    cases item with
    | error e => rfl
    | ok chunk =>
      rw [streamScreen, ih]
      simp [chunksOf, unlines, Chunk.shown]

/-- When nothing follows an error, all chunks come before it. -/
theorem ErrorLast.chunksOf_eq {items : List Item} (h : ErrorLast items) :
    chunksOf items = items.filterMap Except.toOption := by
  obtain ⟨chunks, failure, rfl⟩ := h
  induction chunks with
  | nil => cases failure <;> rfl
  | cons chunk chunks ih =>
    rw [List.map_cons, List.cons_append, chunksOf, ih]
    rfl

theorem toList_unlines (lines : List String) :
    (unlines lines).toList = lines.flatMap fun line => line.toList ++ ['\n'] := by
  simp [unlines, asLine, String.toList_join, List.flatMap_map]

/-- Lines that hold no line break are given back when they are cut at the line breaks, and
nothing stands behind the last one. -/
theorem splitOn_unlines {lines : List String} (h : ∀ line ∈ lines, '\n' ∉ line.toList) :
    (unlines lines).toList.splitOn '\n' = lines.map String.toList ++ [[]] := by
  rw [toList_unlines]
  induction lines with
  | nil => rfl
  | cons line lines ih =>
    rw [List.forall_mem_cons] at h
    have hline : ∀ c ∈ line.toList, (c == '\n') = false := by
      intro c hc
      rw [beq_eq_false_iff_ne]
      rintro rfl
      exact h.1 hc
    rw [List.flatMap_cons, List.append_assoc, List.singleton_append, List.map_cons,
      List.cons_append, ← ih h.2]
    exact List.splitOnP_append_cons_of_forall_mem hline _ (by simp) _

/-- Lines that hold no line break are known from the text that they make. -/
theorem unlines_injective {lines lines' : List String} (h : ∀ line ∈ lines, '\n' ∉ line.toList)
    (h' : ∀ line ∈ lines', '\n' ∉ line.toList) (heq : unlines lines = unlines lines') :
    lines = lines' := by
  have hsplit := splitOn_unlines h
  rw [heq, splitOn_unlines h', List.append_cancel_right_eq] at hsplit
  have htoList : Function.Injective String.toList := fun _ _ => String.toList_inj.1
  exact (List.map_injective_iff.2 htoList hsplit).symm

/-! ## Chunks in range -/

/-- The counts of a usage summary fit 64-bit words. -/
structure UsageSummary.InRange (u : UsageSummary) : Prop where
  inputTokens : u.inputTokens < Nat.pow 2 64
  outputTokens : u.outputTokens < Nat.pow 2 64
  cacheWriteTokens : ∀ n ∈ u.cacheWriteTokens, n < Nat.pow 2 64
  cacheReadTokens : ∀ n ∈ u.cacheReadTokens, n < Nat.pow 2 64
  reasoningTokens : ∀ n ∈ u.reasoningTokens, n < Nat.pow 2 64

/-- The price of a usage summary is written as null or as a number. -/
def UsageSummary.PriceIsRead (u : UsageSummary) : Prop :=
  Json.doubleChars u.totalCost = Json.renderChars .null ∨
    ∃ n, Json.readNumber (Json.doubleChars u.totalCost) = some (n, [])

namespace Chunk

/-- The counts of a chunk fit 64-bit words. -/
def InRange : Chunk → Prop
  | .toolCall index _ _ _ => index < Nat.pow 2 64
  | .usage u => u.InRange
  | _ => True

/-- The price of a chunk is written as null or as a number. -/
def PriceIsRead : Chunk → Prop
  | .usage u => u.PriceIsRead
  | _ => True

/-- A chunk without a price. -/
def IsPriceless : Chunk → Prop
  | .usage _ => False
  | _ => True

theorem IsPriceless.priceIsRead {c : Chunk} (h : c.IsPriceless) : c.PriceIsRead := by
  cases c with
  | usage u => exact h.elim
  | text s => trivial
  | reasoning s => trivial
  | toolCall index id name fragment => trivial

end Chunk

/-! ## What is read from a line -/

/-- The fields of a piece of text or reasoning, and no others. -/
structure PieceFields (fields : List (String × Json)) (kind text : String) : Prop where
  type : fields.lookup "type" = some (.string kind)
  text : fields.lookup "text" = some (.string text)
  others : ∀ name, name ∉ ["type", "text"] → fields.lookup name = none

/-- The text of a piece is known from its fields. -/
theorem PieceFields.text_eq {fields : List (String × Json)} {kind kind' s t : String}
    (hs : PieceFields fields kind s) (ht : PieceFields fields kind' t) : s = t := by
  have htext := ht.text
  rw [hs.text] at htext
  exact Json.string.inj (Option.some.inj htext)

/-- The fields of a fragment of a tool call, and no others. -/
structure ToolCallFields (fields : List (String × Json)) (index : Nat) (id name : Option String)
    (fragment : String) : Prop where
  type : fields.lookup "type" = some (.string "tool_call_partial")
  index : fields.lookup "index" = some (.nat index)
  id : fields.lookup "id" = id.map .string
  name : fields.lookup "name" = name.map .string
  fragment : fields.lookup "arguments_fragment" = some (.string fragment)
  others : ∀ key, key ∉ ["type", "index", "id", "name", "arguments_fragment"] →
    fields.lookup key = none

/-- The fields of a usage summary, and no others. -/
structure UsageFields (fields : List (String × Json)) (u : UsageSummary) : Prop where
  type : fields.lookup "type" = some (.string "usage")
  inputTokens : fields.lookup "input_tokens" = some (.nat u.inputTokens)
  outputTokens : fields.lookup "output_tokens" = some (.nat u.outputTokens)
  cacheWriteTokens : fields.lookup "cache_write_tokens" = u.cacheWriteTokens.map .nat
  cacheReadTokens : fields.lookup "cache_read_tokens" = u.cacheReadTokens.map .nat
  reasoningTokens : fields.lookup "reasoning_tokens" = u.reasoningTokens.map .nat
  totalCost : fields.lookup "total_cost" = some .null ∨
    ∃ n, fields.lookup "total_cost" = some (.number n)
  others : ∀ key, key ∉ ["type", "input_tokens", "output_tokens", "cache_write_tokens",
    "cache_read_tokens", "reasoning_tokens", "total_cost"] → fields.lookup key = none

namespace Chunk

/-- The fields of an object show a chunk: its kind, its texts and its counts are those of the
chunk, and what the chunk lacks is absent. -/
def ShownBy (fields : List (String × Json)) : Chunk → Prop
  | .text t => PieceFields fields "text" t
  | .reasoning t => PieceFields fields "reasoning" t
  | .toolCall index id name fragment => ToolCallFields fields index id name fragment
  | .usage u => UsageFields fields u

/-- The type tag of a chunk. -/
def tag : Chunk → String
  | .text _ => "text"
  | .reasoning _ => "reasoning"
  | .toolCall _ _ _ _ => "tool_call_partial"
  | .usage _ => "usage"

section ShownBy

variable {fields : List (String × Json)} {c d : Chunk}

theorem ShownBy.lookup_type (h : c.ShownBy fields) :
    fields.lookup "type" = some (.string c.tag) := by
  cases c with
  | text s => exact PieceFields.type h
  | reasoning s => exact PieceFields.type h
  | toolCall index id name fragment => exact ToolCallFields.type h
  | usage u => exact UsageFields.type h

/-- A chunk without a price is known from the fields that show it. -/
theorem ShownBy.eq_of_isPriceless (hc : c.ShownBy fields) (hd : d.ShownBy fields)
    (hpriceless : c.IsPriceless) : c = d := by
  have htag : c.tag = d.tag := by
    have htype := hd.lookup_type
    rw [hc.lookup_type] at htype
    exact Json.string.inj (Option.some.inj htype)
  cases c with
  | usage u => exact hpriceless.elim
  | text s =>
    cases d with
    | text t => rw [PieceFields.text_eq hc hd]
    | _ => exact absurd htag (by simp [tag])
  | reasoning s =>
    cases d with
    | reasoning t => rw [PieceFields.text_eq hc hd]
    | _ => exact absurd htag (by simp [tag])
  | toolCall index id name fragment =>
    cases d with
    | toolCall index' id' name' fragment' =>
      have hstring : Function.Injective Json.string := fun _ _ => Json.string.inj
      have hindex := ToolCallFields.index hd
      have hid := ToolCallFields.id hd
      have hname := ToolCallFields.name hd
      have hfragment := ToolCallFields.fragment hd
      rw [ToolCallFields.index hc] at hindex
      rw [ToolCallFields.id hc] at hid
      rw [ToolCallFields.name hc] at hname
      rw [ToolCallFields.fragment hc] at hfragment
      have heq : index = index' := by
        simpa [Json.nat, Json.int] using hindex
      rw [heq, Option.map_injective hstring hid, Option.map_injective hstring hname,
        hstring (Option.some.inj hfragment)]
    | _ => exact absurd htag (by simp [tag])

end ShownBy

end Chunk

namespace Json

variable {fields contents : List (String × Json)} {names : List String}

/-- A name that is not among those of some fields is absent. -/
theorem lookup_eq_none_of_sublist (h : (fields.map Prod.fst).Sublist names) {name : String}
    (hname : name ∉ names) : fields.lookup name = none := by
  rw [List.lookup_eq_none_iff]
  intro field hfield
  have hmem : field.1 ∈ names := h.subset (List.mem_map_of_mem hfield)
  have hne : name ≠ field.1 := by
    rintro rfl
    exact hname hmem
  simpa using hne

/-- Where each field is read as what stands for it, the object is read with these fields and no
others. -/
theorem exists_fields_of_forall₂ (hne : fields ≠ [])
    (h : List.Forall₂
      (fun field content => field.1 = content.1 ∧ ReadsAs 0 (renderChars field.2) content.2)
      fields contents)
    (hnames : (contents.map Prod.fst).Sublist names) (hnodup : names.Nodup) :
    ∃ read, parse? (object fields).render = some (.object read) ∧
      (∀ name, read.lookup name = contents.lookup name) ∧
      ∀ name, name ∉ names → read.lookup name = none := by
  cases h with
  | nil => exact absurd rfl hne
  | @cons field content fields contents hfirst hrest =>
    obtain ⟨name, written⟩ := field
    obtain ⟨_, value⟩ := content
    obtain ⟨rfl, hfirst⟩ := hfirst
    have hread := (fieldsReadAs_renderFields name hfirst hrest).object.parseChars?_eq
      (by decide) isGap_nil
    rw [List.append_nil] at hread
    have hlookup : ∀ key, (sortFields ((name, value) :: contents)).lookup key =
        ((name, value) :: contents).lookup key := by
      intro key
      rw [lookup_sortFields, lookup_reverse_of_nodup (hnames.nodup hnodup)]
    refine ⟨sortFields ((name, value) :: contents), ?_, hlookup, ?_⟩
    · rw [parse?, render, String.toList_ofList]
      exact hread
    · intro key hkey
      rw [hlookup, lookup_eq_none_of_sublist hnames hkey]

/-- The field is read back from its text. -/
def FieldReadsBack (field : String × Json) : Prop :=
  ReadsAs 0 (renderChars field.2) field.2

/-- Fields that are read back one by one are those that the object is read with. -/
theorem exists_fields_of_readsBack (hne : fields ≠ [])
    (h : ∀ field ∈ fields, FieldReadsBack field)
    (hnames : (fields.map Prod.fst).Sublist names) (hnodup : names.Nodup) :
    ∃ read, parse? (object fields).render = some (.object read) ∧
      (∀ name, read.lookup name = fields.lookup name) ∧
      ∀ name, name ∉ names → read.lookup name = none :=
  exists_fields_of_forall₂ hne (List.forall₂_same.2 fun field hfield => ⟨rfl, h field hfield⟩)
    hnames hnodup

theorem fieldReadsBack_string (name s : String) : FieldReadsBack (name, .string s) :=
  readsAs_string 0 s

/-- A whole number of a 64-bit word is read back. -/
theorem fieldReadsBack_nat (name : String) {n : Nat} (h : n < Nat.pow 2 64) :
    FieldReadsBack (name, .nat n) := by
  have hrange : Number.InRange n := by
    constructor
    · exact le_trans (by norm_num) (Int.natCast_nonneg n)
    · exact_mod_cast h
  have hread := readsBack_integer hrange [] endsNumber_nil
  rw [List.append_nil] at hread
  exact readsAs_number 0 hread

/-- A field that may be absent is read back when its value is. -/
theorem fieldReadsBack_optionalField {name : String} {encode : α → Json} (value : Option α)
    (h : ∀ v ∈ value, FieldReadsBack (name, encode v)) :
    ∀ field ∈ optionalField name encode value, FieldReadsBack field := by
  intro field hfield
  cases value with
  | none => cases hfield
  | some v =>
    rw [optionalField, Option.map_some, Option.toList_some, List.mem_singleton] at hfield
    rw [hfield]
    exact h v rfl

/-- A field that may be absent has one name at most. -/
theorem map_fst_optionalField_sublist (name : String) (encode : α → Json) (value : Option α) :
    ((optionalField name encode value).map Prod.fst).Sublist [name] := by
  cases value with
  | none => exact List.nil_sublist _
  | some v => exact List.Sublist.refl _

end Json

namespace Chunk

theorem exists_pieceFields (kind text : String) :
    ∃ read, Json.parse? (Json.object [("type", .string kind), ("text", .string text)]).render =
      some (.object read) ∧ PieceFields read kind text := by
  have hfields : ∀ field ∈ [("type", Json.string kind), ("text", .string text)],
      Json.FieldReadsBack field := by
    simp [Json.fieldReadsBack_string]
  obtain ⟨read, hread, hlookup, hothers⟩ := Json.exists_fields_of_readsBack (List.cons_ne_nil _ _)
    hfields (List.Sublist.refl _) (by simp)
  refine ⟨read, hread, ?_, ?_, hothers⟩
  · rw [hlookup]
    rfl
  · rw [hlookup]
    rfl

theorem exists_toolCallFields {index : Nat} (hindex : index < Nat.pow 2 64)
    (id name : Option String) (fragment : String) :
    ∃ read, Json.parse? (Chunk.toolCall index id name fragment).toJson.render =
      some (.object read) ∧ ToolCallFields read index id name fragment := by
  let fields := [("type", Json.string "tool_call_partial"), ("index", .nat index)] ++
    optionalField "id" .string id ++ optionalField "name" .string name ++
    [("arguments_fragment", .string fragment)]
  have hfields : ∀ field ∈ fields, Json.FieldReadsBack field := by
    have hid := Json.fieldReadsBack_optionalField id fun s _ => Json.fieldReadsBack_string "id" s
    have hname := Json.fieldReadsBack_optionalField name
      fun s _ => Json.fieldReadsBack_string "name" s
    simp only [fields, List.forall_mem_append, List.forall_mem_cons]
    exact ⟨⟨⟨⟨Json.fieldReadsBack_string _ _, Json.fieldReadsBack_nat _ hindex, by simp⟩, hid⟩,
      hname⟩, Json.fieldReadsBack_string _ _, by simp⟩
  have hnames : (fields.map Prod.fst).Sublist
      ["type", "index", "id", "name", "arguments_fragment"] := by
    have hid := Json.map_fst_optionalField_sublist "id" .string id
    have hname := Json.map_fst_optionalField_sublist "name" .string name
    simp only [fields, List.map_append]
    exact (((List.Sublist.refl _).append hid).append hname).append (List.Sublist.refl _)
  obtain ⟨read, hread, hlookup, hothers⟩ := Json.exists_fields_of_readsBack (by simp [fields])
    hfields hnames (by decide)
  refine ⟨read, hread, ?_, ?_, ?_, ?_, ?_, hothers⟩
  all_goals
    rw [hlookup]
    simp [fields, List.lookup_append, List.lookup_cons]

/-- What the price of a usage summary is read as. -/
theorem exists_price {u : UsageSummary} (h : u.PriceIsRead) :
    ∃ price, Json.ReadsAs 0 (Json.renderChars (.number (.double u.totalCost))) price ∧
      (price = .null ∨ ∃ n, price = .number n) := by
  rcases h with hnull | ⟨n, hn⟩
  · refine ⟨.null, ?_, .inl rfl⟩
    rw [Json.renderChars, Json.numberChars, hnull]
    exact Json.readsAs_null 0
  · exact ⟨.number n, Json.readsAs_number 0 hn, .inr ⟨n, rfl⟩⟩

theorem exists_usageFields {u : UsageSummary} (hrange : u.InRange) (hprice : u.PriceIsRead) :
    ∃ read, Json.parse? (Chunk.usage u).toJson.render = some (.object read) ∧
      UsageFields read u := by
  obtain ⟨price, hpriceRead, hpriceKind⟩ := exists_price hprice
  let counts := [("type", Json.string "usage"), ("input_tokens", .nat u.inputTokens),
      ("output_tokens", .nat u.outputTokens)] ++
    optionalField "cache_write_tokens" .nat u.cacheWriteTokens ++
    optionalField "cache_read_tokens" .nat u.cacheReadTokens ++
    optionalField "reasoning_tokens" .nat u.reasoningTokens
  have hcounts : ∀ field ∈ counts, Json.FieldReadsBack field := by
    have hwrite := Json.fieldReadsBack_optionalField u.cacheWriteTokens
      fun n hn => Json.fieldReadsBack_nat "cache_write_tokens" (hrange.cacheWriteTokens n hn)
    have hread := Json.fieldReadsBack_optionalField u.cacheReadTokens
      fun n hn => Json.fieldReadsBack_nat "cache_read_tokens" (hrange.cacheReadTokens n hn)
    have hreasoning := Json.fieldReadsBack_optionalField u.reasoningTokens
      fun n hn => Json.fieldReadsBack_nat "reasoning_tokens" (hrange.reasoningTokens n hn)
    simp only [counts, List.forall_mem_append, List.forall_mem_cons]
    exact ⟨⟨⟨⟨Json.fieldReadsBack_string _ _, Json.fieldReadsBack_nat _ hrange.inputTokens,
      Json.fieldReadsBack_nat _ hrange.outputTokens, by simp⟩, hwrite⟩, hread⟩, hreasoning⟩
  have hfields : List.Forall₂
      (fun field content => field.1 = content.1 ∧
        Json.ReadsAs 0 (Json.renderChars field.2) content.2)
      (counts ++ [("total_cost", .number (.double u.totalCost))])
      (counts ++ [("total_cost", price)]) :=
    List.rel_append (List.forall₂_same.2 fun field hfield => ⟨rfl, hcounts field hfield⟩)
      (.cons ⟨rfl, hpriceRead⟩ .nil)
  have hnames : ((counts ++ [("total_cost", price)]).map Prod.fst).Sublist
      ["type", "input_tokens", "output_tokens", "cache_write_tokens", "cache_read_tokens",
        "reasoning_tokens", "total_cost"] := by
    have hwrite := Json.map_fst_optionalField_sublist "cache_write_tokens" .nat u.cacheWriteTokens
    have hread := Json.map_fst_optionalField_sublist "cache_read_tokens" .nat u.cacheReadTokens
    have hreasoning := Json.map_fst_optionalField_sublist "reasoning_tokens" .nat u.reasoningTokens
    simp only [counts, List.map_append]
    exact ((((List.Sublist.refl _).append hwrite).append hread).append hreasoning).append
      (List.Sublist.refl _)
  obtain ⟨read, hread, hlookup, hothers⟩ := Json.exists_fields_of_forall₂ (by simp) hfields
    hnames (by decide)
  have hobject : (Chunk.usage u).toJson =
      .object (counts ++ [("total_cost", .number (.double u.totalCost))]) := by
    simp [Chunk.toJson, UsageSummary.fields, counts]
  rw [hobject]
  refine ⟨read, hread, ?_, ?_, ?_, ?_, ?_, ?_, ?_, hothers⟩
  all_goals
    simp only [hlookup]
    simp [counts, List.lookup_append, List.lookup_cons, hpriceKind]

/-- From the line of a chunk an object is read that shows the chunk. -/
theorem exists_shownBy (c : Chunk) (hrange : c.InRange) (hprice : c.PriceIsRead) :
    ∃ fields, Json.parse? c.toJson.render = some (.object fields) ∧ c.ShownBy fields := by
  cases c with
  | text s => exact exists_pieceFields "text" s
  | reasoning s => exact exists_pieceFields "reasoning" s
  | toolCall index id name fragment => exact exists_toolCallFields hrange id name fragment
  | usage u => exact exists_usageFields hrange hprice

/-- A chunk without a price is known from its line. -/
theorem eq_of_line_eq {c d : Chunk} (hc : c.IsPriceless) (hcrange : c.InRange)
    (hd : d.IsPriceless) (hdrange : d.InRange) (h : c.toJson.render = d.toJson.render) : c = d := by
  obtain ⟨fields, hread, hshown⟩ := c.exists_shownBy hcrange hc.priceIsRead
  obtain ⟨fields', hread', hshown'⟩ := d.exists_shownBy hdrange hd.priceIsRead
  rw [h, hread'] at hread
  cases hread
  exact hshown.eq_of_isPriceless hshown' hc

/-- The line of a chunk holds no line break. -/
theorem newline_notMem_line (c : Chunk) : '\n' ∉ c.toJson.render.toList := by
  rw [Json.render, String.toList_ofList]
  exact Json.newline_notMem_renderChars _

end Chunk

/-! ## Answers -/

/-- Values that are known from what is made of them are known from the list of it. -/
theorem eq_of_map_eq {f : α → β} {as bs : List α} (h : as.map f = bs.map f)
    (hf : ∀ a ∈ as, ∀ b ∈ bs, f a = f b → a = b) : as = bs := by
  induction as generalizing bs with
  | nil => exact (List.map_eq_nil_iff.1 h.symm).symm
  | cons a as ih =>
    cases bs with
    | nil => cases h
    | cons b bs =>
      rw [List.map_cons, List.map_cons, List.cons.injEq] at h
      have hfirst : a = b := hf a List.mem_cons_self b List.mem_cons_self h.1
      have hrest : as = bs :=
        ih h.2 fun x hx y hy => hf x (List.mem_cons_of_mem _ hx) y (List.mem_cons_of_mem _ hy)
      rw [hfirst, hrest]

/-- The lines of an answer in JSON.  The output is one line for each chunk before the first
error, which are all chunks when nothing follows an error, as in the answer of any session.
Whatever characters the chunks hold, cutting the output at its line breaks gives back these
lines.  An object is read from each of them whose type tag, texts and counts are those of the
chunk, and in which nothing else stands but the price, as long as the price is written as a
number or as null.  So two answers without prices that are shown alike have the same chunks. -/
theorem chunk_lines (showReasoning : Bool) (usage : Option UsageSummary) (items : List Item) :
    let out := (streamScreen true showReasoning usage items).stdout
    let chunks := chunksOf items
    out = unlines (chunks.map fun c => c.toJson.render) ∧
    (ErrorLast items → chunks = items.filterMap Except.toOption) ∧
    out.toList.splitOn '\n' = chunks.map (fun c => c.toJson.render.toList) ++ [[]] ∧
    (∀ c ∈ chunks, c.InRange → c.PriceIsRead →
      ∃ fields, Json.parse? c.toJson.render = some (.object fields) ∧ c.ShownBy fields) ∧
    (∀ (showReasoning' : Bool) (usage' : Option UsageSummary) (items' : List Item),
      (∀ c ∈ chunks, c.IsPriceless ∧ c.InRange) →
      (∀ c ∈ chunksOf items', c.IsPriceless ∧ c.InRange) →
      (streamScreen true showReasoning' usage' items').stdout = out →
      chunksOf items' = chunks) := by
  intro out chunks
  have hlines (chunks : List Chunk) :
      ∀ line ∈ chunks.map fun c => c.toJson.render, '\n' ∉ line.toList := by
    intro line hline
    obtain ⟨c, -, rfl⟩ := List.mem_map.1 hline
    exact c.newline_notMem_line
  have hout : out = unlines (chunks.map fun c => c.toJson.render) :=
    stdout_streamScreen_json showReasoning usage items
  refine ⟨hout, ErrorLast.chunksOf_eq, ?_, ?_, ?_⟩
  · rw [hout, splitOn_unlines (hlines chunks), List.map_map]
    rfl
  · intro c _ hrange hprice
    exact c.exists_shownBy hrange hprice
  · intro showReasoning' usage' items' hchunks hchunks' heq
    rw [stdout_streamScreen_json, hout] at heq
    have hsame := unlines_injective (hlines _) (hlines _) heq
    apply eq_of_map_eq hsame
    intro c hc d hd hline
    exact Chunk.eq_of_line_eq (hchunks' c hc).1 (hchunks' c hc).2 (hchunks d hd).1 (hchunks d hd).2
      hline

/-- A text with line breaks, a quote, a backslash, a control character and an accented letter, a
fragment of a tool call and a price before an error: four parts, the last one empty.  Without the
price, an answer that ends with another error and is shown alike has the same chunks. -/
theorem chunk_lines_of_awkward_text :
    let text : Chunk := .text "a\n\"\\\r\u0001\u00e9"
    let call : Chunk := .toolCall 1 none (some "n") "f"
    let price : Chunk := .usage ⟨1, 2, none, some 3, none, 0.5⟩
    let items : List Item := [.ok text, .ok call, .ok price, .error (.reported "e")]
    (streamScreen true false none items).stdout.toList.splitOn '\n' =
        [text, call, price].map (fun c => c.toJson.render.toList) ++ [[]] ∧
      [text, call, price] = items.filterMap Except.toOption ∧
      (∃ fields, Json.parse? price.toJson.render = some (.object fields) ∧
        price.ShownBy fields) ∧
      chunksOf [.ok text, .ok call, .error (.internal "late")] = chunksOf [.ok text, .ok call] := by
  intro text call price items
  obtain ⟨-, hlast, hsplit, hread, -⟩ := chunk_lines false none items
  obtain ⟨-, -, -, -, hsame⟩ := chunk_lines false none [.ok text, .ok call]
  have hshape : ErrorLast items := ⟨[text, call, price], some (.reported "e"), rfl⟩
  have hrange : price.InRange := by
    constructor <;> simp
  have hprice : price.PriceIsRead := .inr ⟨_, rfl⟩
  have hpriceless : ∀ c ∈ [text, call], c.IsPriceless ∧ c.InRange := by
    simp [text, call, Chunk.IsPriceless, Chunk.InRange]
  refine ⟨hsplit, hlast hshape, ?_, ?_⟩
  · exact hread price (by simp [items, chunksOf]) hrange hprice
  · exact hsame false none _ hpriceless hpriceless rfl

end AgentRelay
