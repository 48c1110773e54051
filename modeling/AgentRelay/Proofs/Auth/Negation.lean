import AgentRelay.Proofs.Auth.Report
import AgentRelay.Proofs.Event.Failures

/-!
# Negated reports

A report may say that somebody is signed in and take it back with a word before it.  The
signed-out markers know the negation of one signed-in marker only.  A text that negates one of
the others mentions a signed-in marker all the same, and it tells that nobody is signed in only
if a signed-out marker stands in it besides.

Main definitions:

- {lit}`AuthStatus.negation`: a signed-in marker with the negating word before it.

Main results:

- Theorem {lit}`Text.mentioned_of_holdsWord`: what a text holds in any letter case it mentions.
- Theorem {lit}`AuthStatus.ofReport_of_negated`: what a report tells whose text negates a
  signed-in marker.
- Theorem {lit}`AuthStatus.not_signedOut_of_negated`: such a report may tell that somebody is
  signed in.
-/

namespace AgentRelay

namespace Text

/-! ## Words in any letter case -/

/-- A word of ASCII without capitals. -/
def IsSmallAscii (word : String) : Prop :=
  ∀ c ∈ word.toList, IsAscii c ∧ c.toLower = c

instance (word : String) : Decidable (IsSmallAscii word) :=
  decidable_of_iff (word.toList.all fun c => decide (IsAscii c ∧ c.toLower = c))
    (by simp [IsSmallAscii])

theorem IsSmallAscii.append {word word' : String} (h : IsSmallAscii word)
    (h' : IsSmallAscii word') : IsSmallAscii (word ++ word') := by
  intro c hc
  rw [String.toList_append, List.mem_append] at hc
  rcases hc with hc | hc
  · exact h c hc
  · exact h' c hc

theorem IsSmallAscii.asciiLower_eq {word : String} (h : IsSmallAscii word) :
    asciiLower word = word := by
  rw [← String.toList_inj, toList_asciiLower]
  have hid : ∀ c ∈ word.toList, c.toLower = id c := fun c hc => (h c hc).2
  rw [List.map_congr_left hid, List.map_id]

/-- A word is found among the small letters of a text when the text holds it in any case. -/
theorem IsSmallAscii.occursIn_iff {word : String} (hword : IsSmallAscii word) (s : String) :
    occursIn word.toList (s.toList.map Char.toLower) = true ↔ HoldsWord word s := by
  rw [← toList_asciiLower, occursIn_asciiLower_iff hword.asciiLower_eq]

/-- A character whose small letter is ASCII is folded to it: the two others that are folded to
something with ASCII in it have no small letter there. -/
theorem foldChar_of_isAscii_toLower {c : Char} (h : IsAscii c.toLower) :
    foldChar c = [c.toLower] := by
  have hkelvin : c ≠ '\u212A' := by
    rintro rfl
    exact absurd h (by decide)
  have hdotted : c ≠ '\u0130' := by
    rintro rfl
    exact absurd h (by decide)
  rw [foldChar, if_neg hkelvin, if_neg hdotted]

/-- A word is folded to its small letters, in whatever case it is written. -/
theorem foldCase_of_sameLetters {word part : String} (hword : IsSmallAscii word)
    (h : SameLetters word part) : foldCase part.toList = word.toList := by
  have hletters : part.toList.map Char.toLower = word.toList := by
    rw [← toList_asciiLower, h, hword.asciiLower_eq]
  have hascii : ∀ c ∈ part.toList, foldChar c = [c.toLower] := by
    intro c hc
    apply foldChar_of_isAscii_toLower
    have hsmall : c.toLower ∈ word.toList := hletters ▸ List.mem_map_of_mem hc
    exact (hword _ hsmall).1
  rw [← hletters, foldCase, List.flatMap_congr hascii, List.map_eq_flatMap]

/-- A text that holds a word in any letter case mentions every marker that stands in the word. -/
theorem mentioned_of_holdsWord {markers : List String} {marker word s : String}
    (hword : IsSmallAscii word) (hmem : marker ∈ markers)
    (hmarker : marker.toList <:+: word.toList) (h : HoldsWord word s) : Mentioned markers s := by
  obtain ⟨front, part, back, rfl, hpart⟩ := h
  refine ⟨_, lowerForm_foldCase _, marker, hmem, ?_⟩
  apply hmarker.trans
  refine ⟨foldCase front.toList, foldCase back.toList, ?_⟩
  rw [String.toList_append, String.toList_append, foldCase_append, foldCase_append,
    foldCase_of_sameLetters hword hpart]

end Text

namespace AuthStatus

/-! ## Markers and their negation -/

/-- A marker with the negating word before it. -/
def negation (marker : String) : String :=
  "not " ++ marker

theorem isSmallAscii_negation {marker : String} (h : marker ∈ signedInMarkers) :
    Text.IsSmallAscii (negation marker) := by
  have hmarkers : ∀ marker ∈ signedInMarkers, Text.IsSmallAscii marker := by decide
  have hnot : Text.IsSmallAscii "not " := by decide
  exact hnot.append (hmarkers marker h)

/-- Behind the negating word the signed-in marker is still there. -/
theorem mentioned_signedInMarkers_of_negation {marker text : String}
    (hmarker : marker ∈ signedInMarkers) (h : Text.HoldsWord (negation marker) text) :
    Text.Mentioned signedInMarkers text := by
  apply Text.mentioned_of_holdsWord (isSmallAscii_negation hmarker) hmarker _ h
  rw [negation, String.toList_append]
  exact (List.suffix_append _ _).isInfix

/-- The one negation that the signed-out markers know. -/
theorem mentioned_signedOutMarkers_of_notLoggedIn {text : String}
    (h : Text.HoldsWord (negation "logged in") text) : Text.Mentioned signedOutMarkers text := by
  have hknown : "not logged" ∈ signedOutMarkers := by decide
  apply Text.mentioned_of_holdsWord (isSmallAscii_negation (by decide)) hknown _ h
  exact ⟨[], " in".toList, by decide⟩

/-- A text that is nothing but a negated marker mentions a signed-out marker in one case only. -/
theorem mentioned_signedOutMarkers_iff_of_bare {marker text : String}
    (hmarker : marker ∈ signedInMarkers) (h : Text.SameLetters (negation marker) text) :
    Text.Mentioned signedOutMarkers text ↔ marker = "logged in" := by
  have hbare : ∀ marker ∈ signedInMarkers,
      (signedOutMarkers.any fun known => Text.occursIn known.toList (negation marker).toList) =
        decide (marker = "logged in") := by decide
  rw [← mentions_signedOutMarkers_iff, Text.mentions,
    Text.foldCase_of_sameLetters (isSmallAscii_negation hmarker) h, hbare marker hmarker,
    decide_eq_true_eq]

/-! ## Reports of one text -/

/-- The text that counts in a report is the only field it has. -/
theorem firstText_of_parse {report name text : String} (hname : name ∈ textNames)
    (h : Json.parse? (Text.trim report) = some (.object [(name, .string text)])) :
    NoFlag report ∧ FirstText report text := by
  have hholds : ∀ other value, Holds report other value ↔ other = name ∧ value = .string text := by
    intro other value
    simp only [Holds, h, Option.some.injEq, Json.object.injEq, exists_eq_left', List.lookup_cons,
      List.lookup_nil]
    by_cases hother : other = name
    · simp [hother, eq_comm]
    · simp [hother, beq_false_of_ne hother]
  constructor
  · intro other _ flag hflag
    exact Json.noConfusion ((hholds _ _).1 hflag).2
  · obtain ⟨before, after, hsplit, hnew⟩ := List.eq_append_cons_of_mem hname
    refine ⟨before, name, after, hsplit, (hholds _ _).2 ⟨rfl, rfl⟩, ?_⟩
    intro earlier hearlier other hother
    obtain ⟨rfl, -⟩ := (hholds _ _).1 hother
    exact hnew hearlier

/-! ## Reports with a negated marker -/

/-- A report whose text negates a signed-in marker, in any letter case and with anything around
it, tells that nobody is signed in if it is the marker whose negation is known.  For the others
it does so exactly if the text mentions a signed-out marker besides, so that a text that is
nothing but their negation tells that somebody is signed in.  The text is the detail. -/
theorem ofReport_of_negated {report text marker : String} (hflag : NoFlag report)
    (htext : FirstText report text) (hmarker : marker ∈ signedInMarkers)
    (hnegated : Text.HoldsWord (negation marker) text) :
    (marker = "logged in" → (ofReport report).authenticated = false) ∧
    ((ofReport report).authenticated = false ↔ Text.Mentioned signedOutMarkers text) ∧
    (Text.SameLetters (negation marker) text →
      ((ofReport report).authenticated = false ↔ marker = "logged in")) ∧
    (ofReport report).detail = some text := by
  have hdecides : (ofReport report).authenticated = false ↔
      Text.Mentioned signedOutMarkers text := by
    rw [ofReport_of_firstText hflag htext, ofText_authenticated_eq_false_iff]
  refine ⟨?_, hdecides, ?_, ?_⟩
  · rintro rfl
    exact hdecides.2 (mentioned_signedOutMarkers_of_notLoggedIn hnegated)
  · intro hbare
    exact hdecides.trans (mentioned_signedOutMarkers_iff_of_bare hmarker hbare)
  · rw [ofReport_of_firstText hflag htext, ofText_detail_eq_some_iff]
    exact ⟨rfl, .inr (mentioned_signedInMarkers_of_negation hmarker hnegated)⟩

/-- The negation that is known, among other words and in capitals. -/
theorem ofReport_of_negated_loud :
    let report := "\x7b\"authStatus\":\"NOT Logged In!\"\x7d"
    NoFlag report ∧ FirstText report "NOT Logged In!" ∧
      Text.HoldsWord (negation "logged in") "NOT Logged In!" ∧
      (ofReport report).authenticated = false ∧
      (ofReport report).detail = some "NOT Logged In!" := by
  have hread : Json.parse? (Text.trim "\x7b\"authStatus\":\"NOT Logged In!\"\x7d") =
      some (.object [("authStatus", .string "NOT Logged In!")]) := by cbv
  intro report
  change Json.parse? (Text.trim report) = _ at hread
  obtain ⟨hflag, htext⟩ := firstText_of_parse (by decide) hread
  have hword : Text.HoldsWord (negation "logged in") "NOT Logged In!" :=
    ((isSmallAscii_negation (by decide)).occursIn_iff _).1 (by decide)
  obtain ⟨hknown, -, -, hdetail⟩ := ofReport_of_negated hflag htext (by decide) hword
  exact ⟨hflag, htext, hword, hknown rfl, hdetail⟩

/-- A report of a negated status may tell that somebody is signed in. -/
theorem not_signedOut_of_negated :
    ¬ ∀ report text marker : String, NoFlag report → FirstText report text →
      marker ∈ signedInMarkers → Text.HoldsWord (negation marker) text →
        (ofReport report).authenticated = false := by
  intro hall
  have hread : Json.parse? (Text.trim "\x7b\"status\":\"Not authenticated\"\x7d") =
      some (.object [("status", .string "Not authenticated")]) := by cbv
  obtain ⟨hflag, htext⟩ := firstText_of_parse (by decide) hread
  have hword : Text.HoldsWord (negation "auth") "Not authenticated" :=
    ((isSmallAscii_negation (by decide)).occursIn_iff _).1 (by decide)
  have hout := hall _ _ "auth" hflag htext (by decide) hword
  rw [ofReport_of_firstText hflag htext] at hout
  exact absurd hout (by decide)

end AuthStatus
end AgentRelay
