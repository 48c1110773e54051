/-!
# Letter case and markers

Type tags are compared without regard to the case of ASCII letters.  Texts
written for people are searched for ASCII markers after lower-casing, and a
character outside ASCII can take part in a match only if its lower-case form
holds an ASCII character.

Main definitions:

- {lit}`asciiLower`: a text with its ASCII capitals lower-cased.
- {lit}`foldCase`: the lower-case form of a text, as far as ASCII markers can tell.
- {lit}`mentions`: the lower-case form of a text holds one of the markers.
-/

namespace AgentRelay
namespace Text

/-! ## ASCII case -/

/-- A text with its ASCII capitals lower-cased and all else unchanged. -/
def asciiLower (s : String) : String :=
  String.ofList (s.toList.map Char.toLower)

@[simp]
theorem toList_asciiLower (s : String) : (asciiLower s).toList = s.toList.map Char.toLower := by
  simp [asciiLower]

/-! ## Markers -/

/-- The lower-case form of a character.  Apart from the ASCII capitals only the
Kelvin sign and the dotted capital I have one that holds an ASCII character;
every other character stands for itself. -/
def foldChar (c : Char) : List Char :=
  if c = '\u212A' then ['k']
  else if c = '\u0130' then ['i', '\u0307']
  else [c.toLower]

/-- The lower-case form of a text, as far as ASCII markers can tell. -/
def foldCase (cs : List Char) : List Char :=
  cs.flatMap foldChar

/-- One list of characters occurs in another without a gap. -/
def occursIn (marker : List Char) : List Char → Bool
  | [] => marker.isEmpty
  | c :: cs => marker.isPrefixOf (c :: cs) || occursIn marker cs

/-- The lower-case form of a text holds one of the markers. -/
def mentions (markers : List String) (s : String) : Bool :=
  markers.any fun marker => occursIn marker.toList (foldCase s.toList)

@[simp]
theorem foldCase_append (cs ds : List Char) : foldCase (cs ++ ds) = foldCase cs ++ foldCase ds := by
  simp [foldCase]

/-- The search finds exactly the markers that stand in the text without a gap. -/
theorem occursIn_iff {marker cs : List Char} : occursIn marker cs = true ↔ marker <:+: cs := by
  induction cs with
  | nil => simp [occursIn]
  | cons c cs ih => simp [occursIn, ih, List.infix_cons_iff]

end Text
end AgentRelay
