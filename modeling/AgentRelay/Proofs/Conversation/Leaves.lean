import AgentRelay.Conversation.Prompt

/-!
# The texts inside tool results

A tool result is reduced to the texts of the blocks in it, and these may be tool results again.
Each text has a place: the position of its block among its neighbours, and before that the
positions of the tool results around it, the outermost first.  Gathering the texts of blocks
appends them in the order of their places, each once, to what was gathered before.  How the
blocks are bundled into tool results makes no difference.

Main definitions:

- {lit}`Block.TextAt` and {lit}`Block.TextAmong`: a text stands at a place in a block, or among
  blocks.
- {lit}`Block.places`: the places of a block with their texts.
- {lit}`Block.Bundled`: some neighbours, at whatever depth, put into a tool result of their own.

Main results:

- Theorem {lit}`Block.mem_placesFrom_zero_iff`: every place is listed with its text, and nothing
  else is.
- Theorem {lit}`Block.pairwise_placesFrom`: places are listed in their order, each once.
- Theorem {lit}`Block.Bundled.texts_eq`: bundling blocks changes none of their texts.
- Theorem {lit}`Block.gatherAll_appends`: what gathering appends.
-/

namespace AgentRelay

/-! ## Places of texts -/

/-- A text stands at a place in a block: text and images are at the block itself, and so is the
one text of a tool result; in a tool result made of blocks the place goes on in one of them.
Other blocks hold no text. -/
inductive Block.TextAt : Block → List Nat → String → Prop where
  | text (s : String) : Block.TextAt (.text s) [] s
  | image (source : ImageSource) : Block.TextAt (.image source) [] source.standIn
  | whole (id : Option String) (s : String) (isError : Bool) :
      Block.TextAt (.toolResult id (.text s) isError) [] s
  | inside {blocks : List Block} {block : Block} {i : Nat} {place : List Nat} {s : String}
      (id : Option String) (isError : Bool) (hblock : blocks[i]? = some block)
      (h : block.TextAt place s) :
      Block.TextAt (.toolResult id (.blocks blocks) isError) (i :: place) s

/-- A text stands at a place among blocks: the place begins with the position of a block and
goes on in it. -/
inductive Block.TextAmong (blocks : List Block) : List Nat → String → Prop where
  | mk {block : Block} {i : Nat} {place : List Nat} {s : String}
      (hblock : blocks[i]? = some block) (h : block.TextAt place s) :
      Block.TextAmong blocks (i :: place) s

/-- One place comes before another: at the first position where they differ it is the
earlier one. -/
def ComesBefore (a b : List Nat × String) : Prop :=
  List.Lex (· < ·) a.1 b.1

mutual

/-- The places of a block with their texts. -/
def Block.places : Block → List (List Nat × String)
  | .text s => [([], s)]
  | .image source => [([], source.standIn)]
  | .toolUse _ _ _ => []
  | .toolResult _ content _ => content.places
  | .unsupported => []

/-- The places of a content with their texts. -/
def Content.places : Content → List (List Nat × String)
  | .text s => [([], s)]
  | .blocks blocks => Block.placesFrom 0 blocks

/-- The places among blocks with their texts; positions are counted from a given one. -/
def Block.placesFrom (i : Nat) : List Block → List (List Nat × String)
  | [] => []
  | block :: rest =>
    (block.places.map fun found => (i :: found.1, found.2)) ++ Block.placesFrom (i + 1) rest

end

/-! ## What is listed -/

mutual

/-- The places of a block are those where a text stands in it. -/
theorem Block.mem_places_iff (block : Block) {place : List Nat} {s : String} :
    (place, s) ∈ block.places ↔ block.TextAt place s := by
  cases block with
  | text t =>
    rw [Block.places, List.mem_singleton]
    constructor
    · rintro ⟨⟩
      exact .text s
    · rintro ⟨⟩
      rfl
  | image source =>
    rw [Block.places, List.mem_singleton]
    constructor
    · rintro ⟨⟩
      exact .image source
    · rintro ⟨⟩
      rfl
  | toolUse id name input =>
    rw [Block.places]
    constructor
    · rintro ⟨⟩
    · rintro ⟨⟩
  | toolResult id content isError =>
    rw [Block.places]
    exact content.mem_places_iff id isError
  | unsupported =>
    rw [Block.places]
    constructor
    · rintro ⟨⟩
    · rintro ⟨⟩

theorem Content.mem_places_iff (content : Content) (id : Option String) (isError : Bool)
    {place : List Nat} {s : String} :
    (place, s) ∈ content.places ↔ (Block.toolResult id content isError).TextAt place s := by
  cases content with
  | text t =>
    rw [Content.places, List.mem_singleton]
    constructor
    · rintro ⟨⟩
      exact .whole id s isError
    · rintro ⟨⟩
      rfl
  | blocks blocks =>
    rw [Content.places, Block.mem_placesFrom_iff blocks 0]
    constructor
    · rintro ⟨i, inner, rfl, block, hblock, h⟩
      rw [Nat.zero_add]
      exact .inside id isError hblock h
    · rintro ⟨⟩
      next block i inner hblock h => exact ⟨i, inner, by rw [Nat.zero_add], block, hblock, h⟩

theorem Block.mem_placesFrom_iff (blocks : List Block) (first : Nat) {place : List Nat}
    {s : String} :
    (place, s) ∈ Block.placesFrom first blocks ↔
      ∃ i inner, place = (first + i) :: inner ∧
        ∃ block, blocks[i]? = some block ∧ block.TextAt inner s := by
  cases blocks with
  | nil => simp [Block.placesFrom]
  | cons block rest =>
    rw [Block.placesFrom, List.mem_append, List.mem_map]
    constructor
    · rintro (⟨⟨inner, t⟩, hfound, heq⟩ | hrest)
      · cases heq
        exact ⟨0, inner, rfl, block, rfl, block.mem_places_iff.1 hfound⟩
      · obtain ⟨i, inner, rfl, other, hother, h⟩ :=
          (Block.mem_placesFrom_iff rest (first + 1)).1 hrest
        exact ⟨i + 1, inner, by rw [Nat.add_assoc, Nat.add_comm 1], other, hother, h⟩
    · rintro ⟨i, inner, rfl, other, hother, h⟩
      cases i with
      | zero =>
        cases hother
        exact .inl ⟨(inner, s), block.mem_places_iff.2 h, rfl⟩
      | succ i =>
        refine .inr ((Block.mem_placesFrom_iff rest (first + 1)).2 ?_)
        exact ⟨i, inner, by rw [Nat.add_assoc, Nat.add_comm 1], other, hother, h⟩

end

/-- The places among blocks are those where a text stands. -/
theorem Block.mem_placesFrom_zero_iff {blocks : List Block} {place : List Nat} {s : String} :
    (place, s) ∈ Block.placesFrom 0 blocks ↔ Block.TextAmong blocks place s := by
  rw [Block.mem_placesFrom_iff]
  constructor
  · rintro ⟨i, inner, rfl, block, hblock, h⟩
    rw [Nat.zero_add]
    exact .mk hblock h
  · rintro ⟨hblock, h⟩
    exact ⟨_, _, by rw [Nat.zero_add], _, hblock, h⟩

mutual

/-- The places of a block come in their order. -/
theorem Block.pairwise_places (block : Block) : block.places.Pairwise ComesBefore := by
  cases block with
  | text s => exact List.pairwise_singleton _ _
  | image source => exact List.pairwise_singleton _ _
  | toolUse id name input => exact .nil
  | toolResult id content isError =>
    rw [Block.places]
    exact content.pairwise_places
  | unsupported => exact .nil

theorem Content.pairwise_places (content : Content) : content.places.Pairwise ComesBefore := by
  cases content with
  | text s => exact List.pairwise_singleton _ _
  | blocks blocks =>
    rw [Content.places]
    exact Block.pairwise_placesFrom blocks 0

/-- The places among blocks come in their order: all places in a block before those in the
blocks that follow it. -/
theorem Block.pairwise_placesFrom (blocks : List Block) (first : Nat) :
    (Block.placesFrom first blocks).Pairwise ComesBefore := by
  cases blocks with
  | nil => exact .nil
  | cons block rest =>
    rw [Block.placesFrom, List.pairwise_append, List.pairwise_map]
    refine ⟨block.pairwise_places.imp fun h => .cons h,
      Block.pairwise_placesFrom rest (first + 1), ?_⟩
    rw [List.forall_mem_map]
    rintro found - ⟨place, s⟩ hrest
    obtain ⟨i, inner, rfl, -⟩ := (Block.mem_placesFrom_iff rest (first + 1)).1 hrest
    exact .rel (by omega)

end

mutual

/-- The texts of a block are those at its places. -/
theorem Block.map_places (block : Block) : block.places.map Prod.snd = block.leaves := by
  cases block with
  | text s => rfl
  | image source => rfl
  | toolUse id name input => rfl
  | toolResult id content isError =>
    rw [Block.places, Block.leaves]
    exact content.map_places
  | unsupported => rfl

theorem Content.map_places (content : Content) :
    content.places.map Prod.snd = content.leaves := by
  cases content with
  | text s => rfl
  | blocks blocks =>
    rw [Content.places, Content.leaves]
    exact Block.map_placesFrom blocks 0

theorem Block.map_placesFrom (blocks : List Block) (first : Nat) :
    (Block.placesFrom first blocks).map Prod.snd = Block.texts blocks := by
  cases blocks with
  | nil => rfl
  | cons block rest =>
    rw [Block.placesFrom, List.map_append, List.map_map, Block.texts, ← block.map_places,
      ← Block.map_placesFrom rest (first + 1)]
    rfl

end

/-! ## Bundled blocks -/

/-- Some neighbours are put into a tool result of their own: among the blocks themselves, or
inside one of the tool results among them, at whatever depth. -/
inductive Block.Bundled : List Block → List Block → Prop where
  | here (front run back : List Block) (id : Option String) (isError : Bool) :
      Block.Bundled (front ++ run ++ back)
        (front ++ .toolResult id (.blocks run) isError :: back)
  | inside (front back : List Block) (id : Option String) (isError : Bool)
      {blocks bundled : List Block} (h : Block.Bundled blocks bundled) :
      Block.Bundled (front ++ .toolResult id (.blocks blocks) isError :: back)
        (front ++ .toolResult id (.blocks bundled) isError :: back)

/-- The texts of a tool result are those of the blocks in it. -/
theorem Block.texts_cons_toolResult (id : Option String) (blocks : List Block) (isError : Bool)
    (rest : List Block) :
    Block.texts (.toolResult id (.blocks blocks) isError :: rest) =
      Block.texts blocks ++ Block.texts rest := by
  rw [Block.texts, Block.leaves, Content.leaves]

/-- Bundling blocks changes none of their texts. -/
theorem Block.Bundled.texts_eq {blocks bundled : List Block} (h : Block.Bundled blocks bundled) :
    Block.texts bundled = Block.texts blocks := by
  induction h with
  | here front run back id isError =>
    rw [Block.texts_append, Block.texts_cons_toolResult, Block.texts_append, Block.texts_append,
      List.append_assoc]
  | inside front back id isError _ ih =>
    rw [Block.texts_append, Block.texts_cons_toolResult, Block.texts_append,
      Block.texts_cons_toolResult, ih]

/-! ## What gathering appends -/

/-- Gathering the texts of blocks appends the text of every place, in the order of the places,
to what was gathered before.  So the texts of one list of blocks after another are gathered one
after the other, and putting neighbours into a tool result of their own changes nothing. -/
theorem Block.gatherAll_appends (blocks : List Block) (parts : Array String) :
    (∃ places : List (List Nat × String),
      (∀ place s, (place, s) ∈ places ↔ Block.TextAmong blocks place s) ∧
      places.Pairwise ComesBefore ∧
      (Block.gatherAll blocks parts).toList = parts.toList ++ places.map Prod.snd) ∧
    (∀ more, (Block.gatherAll (blocks ++ more) parts).toList =
      (Block.gatherAll blocks parts).toList ++ (Block.gatherAll more #[]).toList) ∧
    (∀ bundled, Block.Bundled blocks bundled →
      Block.gatherAll bundled parts = Block.gatherAll blocks parts) := by
  refine ⟨⟨Block.placesFrom 0 blocks, fun _ _ => Block.mem_placesFrom_zero_iff,
    Block.pairwise_placesFrom blocks 0, ?_⟩, ?_, ?_⟩
  · rw [Block.toList_gatherAll, Block.map_placesFrom]
  · intro more
    rw [Block.toList_gatherAll, Block.toList_gatherAll, Block.toList_gatherAll,
      Block.texts_append, List.append_assoc, List.nil_append]
  · intro bundled h
    apply Array.toList_inj.1
    rw [Block.toList_gatherAll, Block.toList_gatherAll, h.texts_eq]

/-- A tool result between two texts, with some blocks between a text and an image. -/
def nestedResult (run : List Block) : List Block :=
  [.text "a", .toolResult none
    (.blocks ([.text "b"] ++ run ++ [.image ⟨"url", none, none, some "u"⟩])) false, .text "d"]

/-- Blocks with one text between them, put into a tool result inside another one. -/
theorem Block.gatherAll_nestedResult :
    let run : List Block :=
      [.unsupported, .toolUse none "t" .null, .toolResult (some "x") (.text "c") true]
    let bundle : Block := .toolResult (some "y") (.blocks run) true
    Block.Bundled (nestedResult run) (nestedResult [bundle]) ∧
      Block.gatherAll (nestedResult [bundle]) #["z"] =
        #["z", "a", "b", "c", "[Image (url): unknown media type not supported by Codex CLI]",
          "d"] := by
  intro run bundle
  have hbundled : Block.Bundled (nestedResult run) (nestedResult [bundle]) :=
    .inside [.text "a"] [.text "d"] none false
      (.here [.text "b"] run [.image ⟨"url", none, none, some "u"⟩] (some "y") true)
  refine ⟨hbundled, ?_⟩
  rw [(Block.gatherAll_appends (nestedResult run) #["z"]).2.2 _ hbundled]
  decide

end AgentRelay
