import AgentRelay.Conversation.Prompt
import Mathlib.Data.List.Forall2

/-!
# What a prompt keeps of a conversation

A prompt has one message for each message of the conversation, in its place and with its role,
and of a message made of blocks one block for each block.  Texts, tool inputs, identifiers and
results of one text go through as they are, and an image is replaced by a text that names it.
Nothing can keep a conversation from being sent but a block of an unknown kind, and only where
it stands among the blocks of a message and not inside a tool result.

Main definitions:

- {lit}`Message.Malformed`: a message has a block of an unknown kind among its own.
- {lit}`Block.SentAs`, {lit}`Content.SentAs` and {lit}`Message.SentAs`: what a block, a content
  and a message have to become.

Main results:

- Theorem {lit}`mapM_eq_ok_iff`: a list is translated when its items are, one by one.
- Theorem {lit}`Prompt.build_eq_ok_iff`: the prompts of a conversation.
- Theorem {lit}`Prompt.build_eq_error_iff`: the conversations without a prompt.
- Theorem {lit}`Prompt.build_translates`: all of this, with conversations put together.
-/

namespace AgentRelay

/-! ## Translating lists -/

section Lists

variable {α β ε : Type} {f : α → Except ε β} {a : α} {as : List α} {b : β} {bs : List β} {e : ε}

theorem map_eq_ok_iff {γ : Type} {g : α → γ} {x : Except ε α} {c : γ} :
    x.map g = .ok c ↔ ∃ a, x = .ok a ∧ g a = c := by
  cases x with
  | error e => simp [Except.map]
  | ok a => simp [Except.map]

theorem map_eq_error_iff {γ : Type} {g : α → γ} {x : Except ε α} :
    x.map g = .error e ↔ x = .error e := by
  cases x with
  | error e => simp [Except.map]
  | ok a => simp [Except.map]

theorem mapM_cons_of_error (h : f a = .error e) (as : List α) :
    (a :: as).mapM f = .error e := by
  rw [List.mapM_cons, h]
  rfl

theorem mapM_cons_of_ok (h : f a = .ok b) (as : List α) :
    (a :: as).mapM f = (as.mapM f).map (b :: ·) := by
  rw [List.mapM_cons, h]
  cases as.mapM f <;> rfl

/-- A list is translated when its items are, one by one and in their order. -/
theorem mapM_eq_ok_iff : as.mapM f = .ok bs ↔ List.Forall₂ (fun a b => f a = .ok b) as bs := by
  induction as generalizing bs with
  | nil =>
    rw [List.mapM_nil, List.forall₂_nil_left_iff]
    exact ⟨fun h => (Except.ok.inj h).symm, fun h => h ▸ rfl⟩
  | cons a as ih =>
    rw [List.forall₂_cons_left_iff]
    cases h : f a with
    | error e =>
      rw [mapM_cons_of_error h]
      simp
    | ok b =>
      rw [mapM_cons_of_ok h, map_eq_ok_iff]
      constructor
      · rintro ⟨rest, hrest, rfl⟩
        exact ⟨b, rest, rfl, ih.1 hrest, rfl⟩
      · rintro ⟨b', rest, hb, hrest, rfl⟩
        cases hb
        exact ⟨rest, ih.2 hrest, rfl⟩

/-- When all items that cannot be translated fail with one error, a list fails with it exactly
if it has such an item. -/
theorem mapM_eq_error_iff {P : α → Prop} {failure : ε}
    (hfailure : ∀ a e, f a = .error e ↔ P a ∧ e = failure) :
    as.mapM f = .error e ↔ (∃ a ∈ as, P a) ∧ e = failure := by
  induction as with
  | nil => simp [pure, Except.pure]
  | cons a as ih =>
    rw [List.exists_mem_cons_iff]
    cases h : f a with
    | error e' =>
      obtain ⟨ha, rfl⟩ := (hfailure a e').1 h
      rw [mapM_cons_of_error h, Except.error.injEq, eq_comm]
      simp [ha]
    | ok b =>
      have ha : ¬ P a := by
        intro ha
        have herror := (hfailure a failure).2 ⟨ha, rfl⟩
        rw [h] at herror
        cases herror
      rw [mapM_cons_of_ok h, map_eq_error_iff, ih]
      simp [ha]

/-- Of two lists, one after the other, both have to be translated. -/
theorem mapM_append_eq_ok_iff {more : List α} :
    (as ++ more).mapM f = .ok bs ↔
      ∃ front back, as.mapM f = .ok front ∧ more.mapM f = .ok back ∧ bs = front ++ back := by
  rw [List.mapM_append]
  cases as.mapM f with
  | error e => simp [bind, Except.bind]
  | ok front =>
    cases more.mapM f with
    | error e => simp [bind, Except.bind]
    | ok back => simp [bind, Except.bind, pure, Except.pure, eq_comm]

end Lists

/-! ## What has to be sent -/

/-- A message has a block of an unknown kind among its own blocks. -/
def Message.Malformed (m : Message) : Prop :=
  ∃ blocks, m.content = .blocks blocks ∧ Block.unsupported ∈ blocks

/-- A text names the kind and the media type of an image. -/
structure ImageSource.NamedIn (source : ImageSource) (s : String) : Prop where
  kind : source.kind.toList <:+: s.toList
  mediaType : ∀ mediaType ∈ source.mediaType, mediaType.toList <:+: s.toList

/-- What a block has to become: a text that names it for an image, for a tool result its one
text or its texts, and for all else the same again. -/
inductive Block.SentAs : Block → PromptBlock → Prop where
  | text (s : String) : Block.SentAs (.text s) (.text s)
  | image {source : ImageSource} (h : source.NamedIn source.standIn) :
      Block.SentAs (.image source) (.text source.standIn)
  | toolUse (id : Option String) (name : String) (input : Json) :
      Block.SentAs (.toolUse id name input) (.toolUse id name input)
  | wholeResult (id : Option String) (s : String) (isError : Bool) :
      Block.SentAs (.toolResult id (.text s) isError) (.toolResult id (.whole s))
  | result (id : Option String) (blocks : List Block) (isError : Bool) :
      Block.SentAs (.toolResult id (.blocks blocks) isError)
        (.toolResult id (.parts (Block.texts blocks)))

/-- What a content has to become: the same text, or one block for each of its blocks. -/
inductive Content.SentAs : Content → PromptContent → Prop where
  | text (s : String) : Content.SentAs (.text s) (.text s)
  | blocks {blocks : List Block} {sent : List PromptBlock}
      (h : List.Forall₂ Block.SentAs blocks sent) :
      Content.SentAs (.blocks blocks) (.blocks sent)

/-- What a message has to become: its content under the same role. -/
structure Message.SentAs (m : Message) (sent : PromptMessage) : Prop where
  role : sent.role = m.role
  content : m.content.SentAs sent.content

/-! ## What is sent -/

theorem ImageSource.namedIn_standIn (source : ImageSource) : source.NamedIn source.standIn where
  kind := by
    refine ⟨"[Image (".toList, ("): " ++ source.mediaType.getD "unknown media type" ++
      " not supported by Codex CLI]").toList, ?_⟩
    simp [ImageSource.standIn]
  mediaType := by
    intro mediaType hmediaType
    refine ⟨("[Image (" ++ source.kind ++ "): ").toList, " not supported by Codex CLI]".toList, ?_⟩
    simp [ImageSource.standIn, Option.mem_def.1 hmediaType]

/-- A block is sent as what it has to become. -/
theorem PromptBlock.ofBlock_eq_ok_iff {block : Block} {sent : PromptBlock} :
    PromptBlock.ofBlock block = .ok sent ↔ block.SentAs sent := by
  constructor
  · intro h
    cases block with
    | text s =>
      cases h
      exact .text s
    | image source =>
      cases h
      exact .image source.namedIn_standIn
    | toolUse id name input =>
      cases h
      exact .toolUse id name input
    | toolResult id content isError =>
      cases content with
      | text s =>
        cases h
        exact .wholeResult id s isError
      | blocks blocks =>
        rw [PromptBlock.ofBlock, ResultText.ofContent_blocks] at h
        cases h
        exact .result id blocks isError
    | unsupported => cases h
  · intro h
    cases h with
    | text s => rfl
    | image h => rfl
    | toolUse id name input => rfl
    | wholeResult id s isError => rfl
    | result id blocks isError => rw [PromptBlock.ofBlock, ResultText.ofContent_blocks]

/-- A content is sent as what it has to become. -/
theorem PromptContent.ofContent_eq_ok_iff {content : Content} {sent : PromptContent} :
    PromptContent.ofContent content = .ok sent ↔ content.SentAs sent := by
  cases content with
  | text s =>
    constructor
    · intro h
      cases h
      exact .text s
    · intro h
      cases h
      rfl
  | blocks blocks =>
    rw [PromptContent.ofContent, map_eq_ok_iff]
    simp only [mapM_eq_ok_iff, PromptBlock.ofBlock_eq_ok_iff]
    constructor
    · rintro ⟨sentBlocks, hsent, rfl⟩
      exact .blocks hsent
    · intro h
      cases h with
      | blocks hsent => exact ⟨_, hsent, rfl⟩

/-- A content is not sent exactly if it has a block of an unknown kind. -/
theorem PromptContent.ofContent_eq_error_iff {content : Content} {e : ToolError} :
    PromptContent.ofContent content = .error e ↔
      (∃ blocks, content = .blocks blocks ∧ Block.unsupported ∈ blocks) ∧ e = unknownBlock := by
  have hblock : ∀ block e, PromptBlock.ofBlock block = .error e ↔
      block = .unsupported ∧ e = unknownBlock := by
    intro block e
    rw [PromptBlock.ofBlock_eq_error_iff]
    cases block <;> simp [Block.isUnsupported]
  cases content with
  | text s => simp [PromptContent.ofContent]
  | blocks blocks =>
    rw [PromptContent.ofContent, map_eq_error_iff, mapM_eq_error_iff hblock]
    simp

/-- A message is sent as what it has to become. -/
theorem PromptMessage.ofMessage_eq_ok_iff {m : Message} {sent : PromptMessage} :
    PromptMessage.ofMessage m = .ok sent ↔ m.SentAs sent := by
  rw [PromptMessage.ofMessage, map_eq_ok_iff]
  simp only [PromptContent.ofContent_eq_ok_iff]
  constructor
  · rintro ⟨content, hcontent, rfl⟩
    exact ⟨rfl, hcontent⟩
  · rintro ⟨hrole, hcontent⟩
    exact ⟨sent.content, hcontent, by rw [← hrole]⟩

theorem PromptMessage.ofMessage_eq_error_iff (m : Message) (e : ToolError) :
    PromptMessage.ofMessage m = .error e ↔ m.Malformed ∧ e = unknownBlock := by
  rw [PromptMessage.ofMessage, map_eq_error_iff, PromptContent.ofContent_eq_error_iff]
  rfl

namespace Prompt

variable {system : String} {messages : List Message}

/-- The prompt of a conversation holds its system prompt, trimmed, and what each of its messages
has to become. -/
theorem build_eq_ok_iff {p : Prompt} :
    build system messages = .ok p ↔
      p.system = Text.nonBlank? system ∧ List.Forall₂ Message.SentAs messages p.messages := by
  rw [build, map_eq_ok_iff]
  simp only [mapM_eq_ok_iff, PromptMessage.ofMessage_eq_ok_iff]
  constructor
  · rintro ⟨sent, hsent, rfl⟩
    exact ⟨rfl, hsent⟩
  · rintro ⟨hsystem, hsent⟩
    exact ⟨p.messages, hsent, by rw [← hsystem]⟩

/-- Only a conversation with a malformed message has no prompt. -/
theorem build_eq_error_iff {e : ToolError} :
    build system messages = .error e ↔ (∃ m ∈ messages, m.Malformed) ∧ e = unknownBlock := by
  rw [build, map_eq_error_iff, mapM_eq_error_iff PromptMessage.ofMessage_eq_error_iff]

/-- Two conversations, one after the other, are sent when both are, and as what both are
sent as. -/
theorem build_append_eq_ok_iff {more : List Message} {p : Prompt} :
    build system (messages ++ more) = .ok p ↔
      ∃ q r, build system messages = .ok q ∧ build system more = .ok r ∧
        p = ⟨q.system, q.messages ++ r.messages⟩ := by
  simp only [build, map_eq_ok_iff, mapM_append_eq_ok_iff]
  constructor
  · rintro ⟨sent, ⟨front, back, hfront, hback, rfl⟩, rfl⟩
    exact ⟨_, _, ⟨front, hfront, rfl⟩, ⟨back, hback, rfl⟩, rfl⟩
  · rintro ⟨_, _, ⟨front, hfront, rfl⟩, ⟨back, hback, rfl⟩, rfl⟩
    exact ⟨_, ⟨front, back, hfront, hback, rfl⟩, rfl⟩

/-- Blank characters around the system prompt make no difference. -/
theorem build_around {front back : String} (hfront : ∀ c ∈ front.toList, Text.isBlank c = true)
    (hback : ∀ c ∈ back.toList, Text.isBlank c = true) (system : String)
    (messages : List Message) :
    build (front ++ system ++ back) messages = build system messages := by
  rw [build, Text.nonBlank?, Text.trim_around hfront hback, ← Text.nonBlank?, ← build]

/-- A conversation has no prompt exactly if one of its messages has a block of an unknown kind
among its own blocks, and it is then called malformed.  Otherwise its prompt has the trimmed
system prompt and, in their order, what the messages have to become.  Two conversations, one
after the other, are sent as one when both are sent, and blank characters around the system
prompt make no difference. -/
theorem build_translates (system : String) (messages : List Message) :
    (∀ e, build system messages = .error e ↔
      (∃ m ∈ messages, m.Malformed) ∧
        e = .malformedMessage "content block has an unrecognized type") ∧
    (∀ p, build system messages = .ok p ↔
      p.system = Text.nonBlank? system ∧ List.Forall₂ Message.SentAs messages p.messages) ∧
    (∀ more p, build system (messages ++ more) = .ok p ↔
      ∃ q r, build system messages = .ok q ∧ build system more = .ok r ∧
        p = ⟨q.system, q.messages ++ r.messages⟩) ∧
    (∀ front back : String, (∀ c ∈ front.toList, Text.isBlank c = true) →
      (∀ c ∈ back.toList, Text.isBlank c = true) →
      build (front ++ system ++ back) messages = build system messages) := by
  refine ⟨fun e => build_eq_error_iff, fun p => build_eq_ok_iff,
    fun more p => build_append_eq_ok_iff, fun front back hfront hback => ?_⟩
  exact build_around hfront hback system messages

/-- A message with a block of an unknown kind inside a tool result. -/
def nestedUnknown : Message where
  role := .user
  content := .blocks [.toolResult (some "t") (.blocks [.unsupported, .text "a"]) true]

/-- A message with a block of an unknown kind among its own. -/
def ownUnknown : Message where
  role := .assistant
  content := .blocks [.text "b", .unsupported]

/-- Inside a tool result a block of an unknown kind is passed over; the next message makes the
conversation malformed. -/
theorem build_of_unknownBlocks :
    build ("\t " ++ "Be brief." ++ "\n") [nestedUnknown] =
        .ok ⟨some "Be brief.", [⟨.user, .blocks [.toolResult (some "t") (.parts ["a"])]⟩]⟩ ∧
      build "Be brief." ([nestedUnknown] ++ [ownUnknown]) =
        .error (.malformedMessage "content block has an unrecognized type") := by
  obtain ⟨-, hok, -, haround⟩ := build_translates "Be brief." [nestedUnknown]
  obtain ⟨herror, -⟩ := build_translates "Be brief." ([nestedUnknown] ++ [ownUnknown])
  constructor
  · have hfront : "\t ".toList.all Text.isBlank = true := by decide
    have hback : "\n".toList.all Text.isBlank = true := by decide
    rw [haround "\t " "\n" (List.all_eq_true.1 hfront) (List.all_eq_true.1 hback), hok]
    have hsent : nestedUnknown.SentAs ⟨.user, .blocks [.toolResult (some "t") (.parts ["a"])]⟩ :=
      ⟨rfl, .blocks (.cons (.result (some "t") [.unsupported, .text "a"] true) .nil)⟩
    exact ⟨by decide, .cons hsent .nil⟩
  · rw [herror]
    have hmalformed : ownUnknown.Malformed :=
      ⟨_, rfl, List.mem_cons_of_mem _ (List.mem_singleton_self _)⟩
    exact ⟨⟨ownUnknown, List.mem_cons_of_mem _ (List.mem_singleton_self _), hmalformed⟩, rfl⟩

end Prompt
end AgentRelay
