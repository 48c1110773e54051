import AgentRelay.Json.Value

/-!
# Messages

A conversation is a list of messages.  The content of a message is one text or
a list of blocks, and so is the content of a tool result, which is itself a
block: blocks nest to any depth.  A block of a kind that is not known keeps its
place but nothing else.

Main definitions:

- {lit}`Block` and {lit}`Content`: the parts of a message.
- {lit}`Message`: a role with its content.
- {lit}`Message.showsImage`: a message shows an image.
-/

namespace AgentRelay

/-! ## Parts of a message -/

/-- Who a message comes from. -/
inductive Role where
  | user
  | assistant
deriving DecidableEq, Repr

/-- The name of a role. -/
def Role.name : Role → String
  | .user => "user"
  | .assistant => "assistant"

/-- Where the bytes of an image are found. -/
structure ImageSource where
  kind : String
  mediaType : Option String
  data : Option String
  url : Option String
deriving DecidableEq, Repr

mutual

/-- A block of content. -/
inductive Block where
  | text (text : String)
  | image (source : ImageSource)
  | toolUse (id : Option String) (name : String) (input : Json)
  | toolResult (toolUseId : Option String) (content : Content) (isError : Bool)
  | unsupported

/-- Content: one text or a list of blocks. -/
inductive Content where
  | text (text : String)
  | blocks (blocks : List Block)

end

/-- One message of a conversation. -/
structure Message where
  role : Role
  content : Content

/-! ## What a message holds -/

namespace Block

/-- The text of a text block. -/
def text? : Block → Option String
  | .text s => some s
  | _ => none

/-- The block is an image. -/
def isImage : Block → Bool
  | .image _ => true
  | _ => false

/-- The block is of a kind that is not known. -/
def isUnsupported : Block → Bool
  | .unsupported => true
  | _ => false

end Block

namespace Content

/-- The blocks of a content that is written as blocks. -/
def blocks? : Content → Option (List Block)
  | .text _ => none
  | .blocks bs => some bs

end Content

/-- A message shows an image among its own blocks; images inside tool results do
not count. -/
def Message.showsImage (m : Message) : Bool :=
  m.content.blocks?.any fun blocks => blocks.any Block.isImage

end AgentRelay
