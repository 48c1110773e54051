import AgentRelay.Text.Utf8

/-!
# Lines of a byte stream

The output of a tool is cut into segments at newline bytes.  A segment is a
line once one trailing carriage return is taken off and the rest is valid
UTF-8; other segments are passed over.  Nothing follows a final newline.

Main definitions:

- {lit}`segments`: the newline-separated parts of a byte string.
- {lit}`line?`: the text of one segment.
- {lit}`lines`: the readable lines of a byte string, in order.
- {lit}`textLines`: the lines of a text.
-/

namespace AgentRelay
namespace Text

/-! ## Segments of bytes -/

/-- The byte that ends a line. -/
def newline : UInt8 := 10

/-- The byte taken off the end of a line. -/
def carriageReturn : UInt8 := 13

/-- The newline-separated parts of a byte string, without an empty part after a
final newline. -/
def segments : List UInt8 → List (List UInt8)
  | [] => []
  | b :: bs =>
    if b = newline then [] :: segments bs
    else
      match segments bs with
      | [] => [[b]]
      | seg :: rest => (b :: seg) :: rest

/-- A segment without one trailing carriage return. -/
def chompReturn (seg : List UInt8) : List UInt8 :=
  if seg.getLast? = some carriageReturn then seg.dropLast else seg

/-- The text of a segment, when it is valid UTF-8. -/
def line? (seg : List UInt8) : Option String :=
  Utf8.decode? (chompReturn seg)

/-- The readable lines of a byte string, in order. -/
def lines (bs : List UInt8) : List String :=
  (segments bs).filterMap line?

@[simp]
theorem segments_nil : segments [] = [] :=
  rfl

@[simp]
theorem segments_newline (bs : List UInt8) : segments (newline :: bs) = [] :: segments bs := by
  simp [segments]

/-- A segment that ends in a newline stands alone, whatever follows it. -/
theorem segments_append_newline {seg : List UInt8} (h : newline ∉ seg) (bs : List UInt8) :
    segments (seg ++ newline :: bs) = seg :: segments bs := by
  induction seg with
  | nil => simp
  | cons b seg ih =>
    rw [List.mem_cons, not_or] at h
    have hb : b ≠ newline := fun e => h.1 e.symm
    simp [segments, hb, ih h.2]

/-! ## Lines of a text -/

/-- The lines of a list of characters: the newline-separated parts, without an
empty part after a final newline. -/
def charLines : List Char → List (List Char)
  | [] => []
  | c :: cs =>
    if c = '\n' then [] :: charLines cs
    else
      match charLines cs with
      | [] => [[c]]
      | l :: rest => (c :: l) :: rest

/-- The lines of a text, each without one trailing carriage return. -/
def textLines (s : String) : List String :=
  (charLines s.toList).map fun l =>
    String.ofList (if l.getLast? = some '\r' then l.dropLast else l)

end Text
end AgentRelay
