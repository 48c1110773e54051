import AgentRelay.Conversation.Prompt
import Mathlib.Data.List.Forall2

/-!
# Image bytes stay behind

A prompt names the images of a conversation by kind and media type only.  Two conversations
that differ in nothing but the bytes of their images, or in the addresses these are found
under, have the same prompt or fail with the same error, wherever the images stand: among
the blocks of a message, or inside tool results at any depth.

Main definitions:

- {lit}`ImageSource.SameLabel`: sources that differ in bytes and address at most.
- {lit}`Block.SameApartFromImages`, {lit}`Message.SameApartFromImages`: blocks and messages
  whose images differ in this way.

Main results:

- Theorem {lit}`Block.SameApartFromImages.leaves_eq`: the texts inside tool results agree.
- Theorem {lit}`PromptBlock.ofBlock_eq_of_same`: the blocks that are sent agree.
- Theorem {lit}`Prompt.build_eq_of_sameApartFromImages`: the prompts agree.
-/

namespace AgentRelay

/-! ## Conversations with other images -/

/-- Two sources of one kind and media type, whatever the bytes and the address. -/
structure ImageSource.SameLabel (a b : ImageSource) : Prop where
  kind : a.kind = b.kind
  mediaType : a.mediaType = b.mediaType

mutual

/-- Two blocks that are equal apart from the bytes and addresses of images. -/
inductive Block.SameApartFromImages : Block → Block → Prop where
  | text (text : String) : Block.SameApartFromImages (.text text) (.text text)
  | image {a b : ImageSource} (h : a.SameLabel b) :
      Block.SameApartFromImages (.image a) (.image b)
  | toolUse (id : Option String) (name : String) (input : Json) :
      Block.SameApartFromImages (.toolUse id name input) (.toolUse id name input)
  | toolResult {a b : Content} (id : Option String) (isError : Bool)
      (h : Content.SameApartFromImages a b) :
      Block.SameApartFromImages (.toolResult id a isError) (.toolResult id b isError)
  | unsupported : Block.SameApartFromImages .unsupported .unsupported

/-- Two contents that are equal apart from the bytes and addresses of images. -/
inductive Content.SameApartFromImages : Content → Content → Prop where
  | text (text : String) : Content.SameApartFromImages (.text text) (.text text)
  | blocks {as bs : List Block} (h : Block.AllSameApartFromImages as bs) :
      Content.SameApartFromImages (.blocks as) (.blocks bs)

/-- Two lists of blocks that are equal apart from the bytes and addresses of images. -/
inductive Block.AllSameApartFromImages : List Block → List Block → Prop where
  | nil : Block.AllSameApartFromImages [] []
  | cons {a b : Block} {as bs : List Block} (h : Block.SameApartFromImages a b)
      (hrest : Block.AllSameApartFromImages as bs) :
      Block.AllSameApartFromImages (a :: as) (b :: bs)

end

/-- Two messages that are equal apart from the bytes and addresses of images. -/
structure Message.SameApartFromImages (a b : Message) : Prop where
  role : a.role = b.role
  content : a.content.SameApartFromImages b.content

/-! ## What is sent for them -/

/-- The text that stands for an image depends on its label only. -/
theorem ImageSource.SameLabel.standIn_eq {a b : ImageSource} (h : a.SameLabel b) :
    a.standIn = b.standIn := by
  unfold standIn
  rw [h.kind, h.mediaType]

-- Induction on the derivation; a tool result inside a tool result is reached through its
-- content, so the three relations are taken together.
mutual

/-- Blocks that differ in their images only have the same texts. -/
theorem Block.SameApartFromImages.leaves_eq {a b : Block} (h : a.SameApartFromImages b) :
    a.leaves = b.leaves := by
  cases h with
  | text text => rfl
  | image hlabel => simp only [Block.leaves, hlabel.standIn_eq]
  | toolUse id name input => rfl
  | toolResult id isError hcontent => simpa only [Block.leaves] using hcontent.leaves_eq
  | unsupported => rfl

theorem Content.SameApartFromImages.leaves_eq {a b : Content} (h : a.SameApartFromImages b) :
    a.leaves = b.leaves := by
  cases h with
  | text text => rfl
  | blocks hblocks => simpa only [Content.leaves] using hblocks.texts_eq

theorem Block.AllSameApartFromImages.texts_eq {as bs : List Block}
    (h : Block.AllSameApartFromImages as bs) : Block.texts as = Block.texts bs := by
  cases h with
  | nil => rfl
  | cons hblock hrest => simp only [Block.texts, hblock.leaves_eq, hrest.texts_eq]

end

/-- Contents that differ in their images only are sent alike as the content of a result. -/
theorem ResultText.ofContent_eq_of_same {a b : Content} (h : a.SameApartFromImages b) :
    ResultText.ofContent a = ResultText.ofContent b := by
  cases h with
  | text text => rfl
  | blocks hblocks =>
    rw [ResultText.ofContent_blocks, ResultText.ofContent_blocks, hblocks.texts_eq]

/-- Blocks that differ in their images only are sent alike, or refused alike. -/
theorem PromptBlock.ofBlock_eq_of_same {a b : Block} (h : a.SameApartFromImages b) :
    PromptBlock.ofBlock a = PromptBlock.ofBlock b := by
  cases h with
  | text text => rfl
  | image hlabel => simp only [PromptBlock.ofBlock, hlabel.standIn_eq]
  | toolUse id name input => rfl
  | toolResult id isError hcontent =>
    simp only [PromptBlock.ofBlock, ResultText.ofContent_eq_of_same hcontent]
  | unsupported => rfl

theorem PromptBlock.mapM_ofBlock_eq_of_same {as bs : List Block}
    (h : Block.AllSameApartFromImages as bs) :
    as.mapM PromptBlock.ofBlock = bs.mapM PromptBlock.ofBlock := by
  induction as generalizing bs with
  | nil =>
    cases h
    rfl
  | cons a as ih =>
    cases h with
    | cons hblock hrest =>
      rw [List.mapM_cons, List.mapM_cons, PromptBlock.ofBlock_eq_of_same hblock, ih hrest]

/-- Contents that differ in their images only are sent alike, or refused alike. -/
theorem PromptContent.ofContent_eq_of_same {a b : Content} (h : a.SameApartFromImages b) :
    PromptContent.ofContent a = PromptContent.ofContent b := by
  cases h with
  | text text => rfl
  | blocks hblocks =>
    simp only [PromptContent.ofContent, PromptBlock.mapM_ofBlock_eq_of_same hblocks]

/-- Messages that differ in their images only are sent alike, or refused alike. -/
theorem PromptMessage.ofMessage_eq_of_same {a b : Message} (h : a.SameApartFromImages b) :
    PromptMessage.ofMessage a = PromptMessage.ofMessage b := by
  unfold PromptMessage.ofMessage
  rw [PromptContent.ofContent_eq_of_same h.content, h.role]

/-- Conversations that are equal apart from the bytes and addresses of images, at whatever
depth, have the same prompt and the same text is sent for it, or they fail with the same
error. -/
theorem Prompt.build_eq_of_sameApartFromImages {as bs : List Message}
    (h : List.Forall₂ Message.SameApartFromImages as bs) (system : String) :
    Prompt.build system as = Prompt.build system bs ∧
      (Prompt.build system as).map Prompt.wire = (Prompt.build system bs).map Prompt.wire := by
  have hmessages : as.mapM PromptMessage.ofMessage = bs.mapM PromptMessage.ofMessage := by
    induction h with
    | nil => rfl
    | cons hmessage hrest ih =>
      rw [List.mapM_cons, List.mapM_cons, PromptMessage.ofMessage_eq_of_same hmessage, ih]
  have hbuild : Prompt.build system as = Prompt.build system bs := by
    unfold Prompt.build
    rw [hmessages]
  exact ⟨hbuild, by rw [hbuild]⟩

/-- A message with an image among its blocks and another one two tool results deep. -/
def twoImages (shallow deep : ImageSource) : Message where
  role := .user
  content := .blocks [.image shallow, .toolResult (some "t") (.blocks
    [.text "seen", .toolResult none (.blocks [.image deep, .unsupported]) true]) false]

/-- Bytes given in the message or found under an address make no difference, neither on the
outside nor two tool results deep. -/
theorem Prompt.build_eq_of_twoImages :
    List.Forall₂ Message.SameApartFromImages
        [twoImages ⟨"base64", some "image/png", some "AAAA", none⟩ ⟨"url", none, none, some "u"⟩]
        [twoImages ⟨"base64", some "image/png", none, some "v"⟩ ⟨"url", none, some "BB", none⟩] ∧
      Prompt.build "s"
          [twoImages ⟨"base64", some "image/png", some "AAAA", none⟩
            ⟨"url", none, none, some "u"⟩] =
        Prompt.build "s"
          [twoImages ⟨"base64", some "image/png", none, some "v"⟩ ⟨"url", none, some "BB", none⟩] :=
  have same : List.Forall₂ Message.SameApartFromImages
      [twoImages ⟨"base64", some "image/png", some "AAAA", none⟩ ⟨"url", none, none, some "u"⟩]
      [twoImages ⟨"base64", some "image/png", none, some "v"⟩ ⟨"url", none, some "BB", none⟩] :=
    .cons ⟨rfl, .blocks (.cons (.image ⟨rfl, rfl⟩) (.cons (.toolResult _ _ (.blocks
      (.cons (.text _) (.cons (.toolResult _ _ (.blocks (.cons (.image ⟨rfl, rfl⟩)
        (.cons .unsupported .nil)))) .nil)))) .nil))⟩ .nil
  ⟨same, (Prompt.build_eq_of_sameApartFromImages same "s").1⟩

end AgentRelay
