/-!
# UTF-8

A byte string is read as a list of pieces: each piece is a character or a
longest part that could still have begun a character.  Reading strictly refuses
every broken piece; reading leniently puts one replacement character in the
place of each.

The reader goes through the bytes one at a time and carries the unfinished
character along, so it can be stopped and resumed between any two bytes.

Main definitions:

- {lit}`pieces`: the pieces of a byte string, after an unfinished character.
- {lit}`decode?`: the text of a well-formed byte string.
- {lit}`decodeLossy`: the text of any byte string.
- {lit}`decodeReads`: the text of bytes that arrive in separate reads, each of
  them decoded on its own.
-/

namespace AgentRelay
namespace Text
namespace Utf8

/-! ## Pieces -/

/-- One unit of a byte string: a character, or a longest ill-formed part. -/
inductive Piece where
  | scalar (c : Char)
  | broken
deriving DecidableEq, Repr

/-- The character of a well-formed piece. -/
def Piece.char? : Piece → Option Char
  | .scalar c => some c
  | .broken => none

/-- The character a piece is shown as: a broken one as U+FFFD. -/
def Piece.shown : Piece → Char
  | .scalar c => c
  | .broken => '\uFFFD'

/-- A character whose last bytes are still to come.  The next byte has to lie
between {lit}`low` and {lit}`high`, every later one between 80 and BF. -/
structure Pending where
  missing : Nat
  low : UInt8
  high : UInt8
  code : Nat
deriving DecidableEq, Repr

/-- A byte at the start of a character: whole, the first of several, or broken.
The bounds on the second byte rule out overlong forms, surrogates and code
points above 10FFFF. -/
def start (b : UInt8) : List Piece × Option Pending :=
  if b < 0x80 then ([.scalar (Char.ofNat b.toNat)], none)
  else if b < 0xC2 then ([.broken], none)
  else if b < 0xE0 then ([], some ⟨1, 0x80, 0xBF, b.toNat - 0xC0⟩)
  else if b = 0xE0 then ([], some ⟨2, 0xA0, 0xBF, 0⟩)
  else if b = 0xED then ([], some ⟨2, 0x80, 0x9F, 0xD⟩)
  else if b < 0xF0 then ([], some ⟨2, 0x80, 0xBF, b.toNat - 0xE0⟩)
  else if b = 0xF0 then ([], some ⟨3, 0x90, 0xBF, 0⟩)
  else if b < 0xF4 then ([], some ⟨3, 0x80, 0xBF, b.toNat - 0xF0⟩)
  else if b = 0xF4 then ([], some ⟨3, 0x80, 0x8F, 4⟩)
  else ([.broken], none)

/-- One more byte.  A byte that cannot continue the unfinished character closes
it as broken and starts afresh. -/
def feed : Option Pending → UInt8 → List Piece × Option Pending
  | none, b => start b
  | some p, b =>
    if p.low ≤ b ∧ b ≤ p.high then
      let code := p.code * 64 + (b.toNat - 0x80)
      if p.missing ≤ 1 then ([.scalar (Char.ofNat code)], none)
      else ([], some ⟨p.missing - 1, 0x80, 0xBF, code⟩)
    else
      let fresh := start b
      (.broken :: fresh.1, fresh.2)

/-- The pieces of a byte string that follows an unfinished character. -/
def pieces (pending : Option Pending) : List UInt8 → List Piece
  | [] => if pending.isSome then [.broken] else []
  | b :: bs => (feed pending b).1 ++ pieces (feed pending b).2 bs

/-! ## Texts -/

/-- The text of a byte string, provided that every piece of it is a character. -/
def decode? (bs : List UInt8) : Option String :=
  ((pieces none bs).mapM Piece.char?).map String.ofList

/-- The text of a byte string, with U+FFFD for each broken piece. -/
def decodeLossy (bs : List UInt8) : String :=
  String.ofList ((pieces none bs).map Piece.shown)

/-- The text collected from separate reads, each of them decoded on its own. -/
def decodeReads (reads : List (List UInt8)) : String :=
  String.ofList (reads.flatMap fun r => (pieces none r).map Piece.shown)

/-- The bytes of a text. -/
def encode (s : String) : List UInt8 :=
  s.toList.flatMap String.utf8EncodeChar

@[simp]
theorem decode?_nil : decode? [] = some "" :=
  rfl

/-- Separate reads are joined in order. -/
theorem decodeReads_cons (r : List UInt8) (reads : List (List UInt8)) :
    decodeReads (r :: reads) = decodeLossy r ++ decodeReads reads := by
  simp [decodeReads, decodeLossy]

/-- What is collected is the texts of the reads, one after another. -/
theorem decodeReads_eq_join (reads : List (List UInt8)) :
    decodeReads reads = String.join (reads.map decodeLossy) := by
  induction reads with
  | nil => rfl
  | cons r reads ih => rw [decodeReads_cons, List.map_cons, String.join_cons, ih]

end Utf8
end Text
end AgentRelay
