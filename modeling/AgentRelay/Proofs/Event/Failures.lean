import AgentRelay.Proofs.LetterCase
import AgentRelay.Proofs.Search

/-!
# Which events report a failure

An event reports a failure by its type tag, by its status or by its error field, and an event
without one may wrap an object that does.  These are all the ways, and they decide whose text
is told: that of the event itself before that of the wrapped object.  The text is the first of
three places that is a text and not empty, and a text of blank characters counts there although
it reports nothing.

Main definitions:

- {lit}`Event.Signals`: the ways in which an object reports a failure.
- {lit}`Event.Reporter`: the object that reports the failure of an event.
- {lit}`Event.Tells`: what an object tells about its failure.

Main results:

- Theorems {lit}`Event.signals_iff` and {lit}`Event.failureText_eq_iff`: an object is found to
  report a failure exactly in these ways, with what it tells.
- Theorem {lit}`Event.failure?_eq_some_iff`: the failure of an event is what its reporter tells.
- Theorem {lit}`Event.check_of_envelope_and_reporter`: an envelope changes nothing, and an event
  is refused exactly for what its reporter tells.
-/

namespace AgentRelay

namespace Text

/-- A text holds a word in whatever letter case. -/
def HoldsWord (word s : String) : Prop :=
  ∃ front part back, s = front ++ part ++ back ∧ SameLetters word part

/-- A word is found in a text with small letters when the text holds it in any case. -/
theorem occursIn_asciiLower_iff {word : String} (hword : asciiLower word = word) (s : String) :
    occursIn word.toList (asciiLower s).toList = true ↔ HoldsWord word s := by
  rw [occursIn_iff, toList_asciiLower]
  constructor
  · rintro ⟨front, back, hcut⟩
    obtain ⟨front', rest, hs, hfront, hrest⟩ := List.map_eq_append_iff.1
      (hcut.symm.trans (List.append_assoc front word.toList back))
    obtain ⟨part, back', hrest', hpart, hback⟩ := List.map_eq_append_iff.1 hrest
    refine ⟨.ofList front', .ofList part, .ofList back', ?_, ?_⟩
    · rw [← String.toList_inj, hs, hrest']
      simp
    · rw [SameLetters, hword, ← String.toList_inj, toList_asciiLower, String.toList_ofList, hpart]
  · rintro ⟨front, part, back, rfl, hpart⟩
    have hletters : part.toList.map Char.toLower = word.toList := by
      rw [← toList_asciiLower, hpart, hword]
    refine ⟨front.toList.map Char.toLower, back.toList.map Char.toLower, ?_⟩
    rw [← hletters, String.toList_append, String.toList_append, List.map_append, List.map_append]

/-- Nothing is left of a text exactly when all its characters are blank. -/
theorem trim_eq_empty_iff (s : String) : trim s = "" ↔ ∀ c ∈ s.toList, isBlank c = true := by
  constructor
  · intro h
    have hnil : trimChars s.toList = [] := by rw [← toList_trim, h, String.toList_empty]
    rw [trimChars, trimBack, List.reverse_eq_nil_iff, List.dropWhile_eq_nil_iff] at hnil
    rw [← List.dropWhile_eq_nil_iff]
    -- What trimming the front leaves is all blank, so it has no first character.
    cases hfront : s.toList.dropWhile isBlank with
    | nil => rfl
    | cons c rest =>
      have hc : isBlank c = true := hnil c (by simp [trimFront, hfront])
      have hfirst := List.head?_dropWhile_not isBlank s.toList
      simp [hfront, hc] at hfirst
  · intro h
    rw [← String.toList_inj, toList_trim, trimChars_of_blank h, String.toList_empty]

end Text

namespace Event

/-! ## The ways to report a failure -/

/-- A value that says something: a true flag, a number other than zero, a text that is not blank,
or a container with content. -/
inductive Telling : Json → Prop where
  | flag : Telling (.bool true)
  | integer {n : Int} (h : n ≠ 0) : Telling (.number (.integer n))
  | double {x : Float} (h : (x == 0) = false) : Telling (.number (.double x))
  | text {s : String} (h : Text.trim s ≠ "") : Telling (.string s)
  | array {items : List Json} (h : items ≠ []) : Telling (.array items)
  | object {fields : List (String × Json)} (h : fields ≠ []) : Telling (.object fields)

/-- An object reports a failure on its own: its type tag holds the word, its status is the word,
or its error field says something. -/
inductive Signals (j : Json) : Prop where
  | tag {s : String} (h : j.get? "type" = some (.string s)) (hword : Text.HoldsWord "error" s)
  | status {s : String} (h : j.get? "status" = some (.string s))
      (hword : Text.SameLetters "error" s)
  | field {v : Json} (h : j.get? "error" = some v) (htelling : Telling v)

/-- The object that reports the failure of an event: the event itself if it can, or else an
object that it wraps. -/
inductive Reporter (event : Json) : Json → Prop where
  | self (h : Signals event) : Reporter event event
  | wrapped {fields : List (String × Json)} (hself : ¬ Signals event)
      (hmsg : event.get? "msg" = some (.object fields)) (h : Signals (.object fields)) :
      Reporter event (.object fields)

theorem isTelling_iff (j : Json) : isTelling j = true ↔ Telling j := by
  constructor
  · intro h
    cases j with
    | null => cases h
    | bool b =>
      cases b with
      | false => cases h
      | true => exact .flag
    | number n =>
      cases n with
      | integer n => exact .integer (of_decide_eq_true h)
      | double x => exact .double (by simpa [isTelling, bne] using h)
    | string s =>
      refine .text fun hblank => ?_
      rw [isTelling, List.all_eq_true.2 ((Text.trim_eq_empty_iff s).1 hblank)] at h
      cases h
    | array items => exact .array (by simpa [isTelling] using h)
    | object fields => exact .object (by simpa [isTelling] using h)
  · intro h
    cases h with
    | flag => rfl
    | integer h => exact decide_eq_true h
    | double h => simpa [isTelling, bne] using h
    | @text s h =>
      rw [Ne, Text.trim_eq_empty_iff, ← List.all_eq_true] at h
      simpa only [isTelling, Bool.not_eq_true'] using Bool.eq_false_iff.2 h
    | array h => simpa [isTelling] using h
    | object h => simpa [isTelling] using h

/-- An object is found to report a failure exactly in these ways. -/
theorem signals_iff (j : Json) : signals j = true ↔ Signals j := by
  have hlower : Text.asciiLower "error" = "error" := by decide
  unfold signals kind?
  rw [Bool.or_eq_true, Bool.or_eq_true, Option.any_map]
  simp only [Option.any_eq_true, Option.bind_eq_some_iff, Json.string?_eq_some_iff,
    Text.occursIn_asciiLower_iff hlower, isTelling_iff, decide_eq_true_eq]
  constructor
  · rintro ((⟨s, ⟨_, htag, rfl⟩, hword⟩ | ⟨s, ⟨_, hstatus, rfl⟩, hword⟩) | ⟨v, herror, htelling⟩)
    · exact .tag htag hword
    · exact .status hstatus (hword.trans hlower.symm)
    · exact .field herror htelling
  · rintro (⟨htag, hword⟩ | ⟨hstatus, hword⟩ | ⟨herror, htelling⟩)
    · exact .inl (.inl ⟨_, ⟨_, htag, rfl⟩, hword⟩)
    · exact .inl (.inr ⟨_, ⟨_, hstatus, rfl⟩, hword.trans hlower⟩)
    · exact .inr ⟨_, herror, htelling⟩

/-! ## What is told -/

/-- A place gives a text that is not empty; a blank text is not empty. -/
def GivesText (place : Option Json) (text : String) : Prop :=
  place = some (.string text) ∧ text ≠ ""

/-- The places where the text of a failure may stand: the message inside the error field, the
error field, and the message field. -/
def textPlaces (j : Json) : List (Option Json) :=
  [(j.get? "error").bind (·.get? "message"), j.get? "error", j.get? "message"]

/-- What an object tells about its failure: the first text that one of the places gives, or a
general one. -/
def Tells (j : Json) (text : String) : Prop :=
  FirstAnswer GivesText (textPlaces j) text ∨
    NoAnswer GivesText (textPlaces j) ∧ text = genericFailure

theorem bind_nonEmptyString?_eq_some_iff (place : Option Json) (text : String) :
    place.bind Json.nonEmptyString? = some text ↔ GivesText place text := by
  cases place with
  | none => simp [GivesText]
  | some j => simp [GivesText, Json.nonEmptyString?_eq_some_iff]

/-- The text of a failure is what the object tells. -/
theorem failureText_eq_iff (j : Json) (text : String) : failureText j = text ↔ Tells j text := by
  have hsome : (textPlaces j).findSome? (·.bind Json.nonEmptyString?) = some text ↔
      FirstAnswer GivesText (textPlaces j) text :=
    findSome?_eq_some_iff_firstAnswer bind_nonEmptyString?_eq_some_iff
  have hnone : (textPlaces j).findSome? (·.bind Json.nonEmptyString?) = none ↔
      NoAnswer GivesText (textPlaces j) :=
    findSome?_eq_none_iff_noAnswer bind_nonEmptyString?_eq_some_iff
  unfold failureText Tells
  rw [← hsome, ← hnone, textSources, textPlaces]
  cases [(j.get? "error").bind (·.get? "message"), j.get? "error",
      j.get? "message"].findSome? (·.bind Json.nonEmptyString?) with
  | none => simp [eq_comm]
  | some found => simp

/-! ## Whose failure it is -/

/-- An event has a reporter exactly when it or an object that it wraps reports a failure. -/
theorem exists_reporter_iff (event : Json) :
    (∃ j, Reporter event j) ↔ Signals event ∨
      ∃ fields, event.get? "msg" = some (.object fields) ∧ Signals (.object fields) := by
  constructor
  · rintro ⟨_, h | ⟨-, hmsg, h⟩⟩
    · exact .inl h
    · exact .inr ⟨_, hmsg, h⟩
  · intro h
    by_cases hself : Signals event
    · exact ⟨event, .self hself⟩
    · obtain ⟨fields, hmsg, h⟩ := h.resolve_left hself
      exact ⟨_, .wrapped hself hmsg h⟩

theorem getObject?_eq_some_iff {event : Json} {name : String} {j : Json} :
    event.getObject? name = some j ↔
      ∃ fields, event.get? name = some (.object fields) ∧ j = .object fields := by
  rw [Json.getObject?, Option.filter_eq_some_iff, Json.isObject_iff]
  constructor
  · rintro ⟨hj, fields, rfl⟩
    exact ⟨fields, hj, rfl⟩
  · rintro ⟨fields, hj, rfl⟩
    exact ⟨hj, fields, rfl⟩

/-- The failure of an event is what its reporter tells. -/
theorem failure?_eq_some_iff (event : Json) (text : String) :
    failure? event = some text ↔ ∃ j, Reporter event j ∧ Tells j text := by
  unfold failure?
  by_cases hself : Signals event
  · rw [if_pos ((signals_iff event).2 hself), Option.some_inj, failureText_eq_iff]
    constructor
    · intro htells
      exact ⟨event, .self hself, htells⟩
    · rintro ⟨_, _ | ⟨hnot, -, -⟩, htells⟩
      · exact htells
      · exact absurd hself hnot
  · rw [if_neg (mt (signals_iff event).1 hself)]
    constructor
    · intro h
      split at h
      next inner hinner =>
        obtain ⟨fields, hmsg, rfl⟩ := getObject?_eq_some_iff.1 hinner
        split at h
        next hsignals =>
          exact ⟨_, .wrapped hself hmsg ((signals_iff _).1 hsignals),
            (failureText_eq_iff _ _).1 (Option.some.inj h)⟩
        next => cases h
      next => cases h
    · rintro ⟨_, h | ⟨-, hmsg, h⟩, htells⟩
      · exact absurd h hself
      · simp only [getObject?_eq_some_iff.2 ⟨_, hmsg, rfl⟩]
        rw [if_pos ((signals_iff _).2 h), (failureText_eq_iff _ _).2 htells]

theorem check_eq_error_iff (event : Json) (e : ToolError) :
    check event = .error e ↔ ∃ text, failure? event = some text ∧ e = .reported text := by
  unfold check
  cases failure? event with
  | none => simp
  | some text => simp [eq_comm]

/-! ## Envelopes -/

/-- An object that wraps another one, with nothing beside it but an identifier. -/
def IsEnvelope (envelope inner : Json) : Prop :=
  ∃ fields, envelope = .object fields ∧ fields.lookup "msg" = some inner ∧
    ∀ field ∈ fields, field.1 = "id" ∨ field.1 = "msg"

/-- An envelope has no other field. -/
theorem IsEnvelope.get?_eq_none {envelope inner : Json} (h : IsEnvelope envelope inner)
    {name : String} (hid : "id" ≠ name) (hmsg : "msg" ≠ name) : envelope.get? name = none := by
  obtain ⟨fields, rfl, -, hnames⟩ := h
  apply Json.lookup_eq_none_of_ne
  intro field hfield
  rcases hnames field hfield with heq | heq
  · rw [heq]
    exact hid
  · rw [heq]
    exact hmsg

/-- An envelope reports no failure on its own. -/
theorem IsEnvelope.not_signals {envelope inner : Json} (h : IsEnvelope envelope inner) :
    ¬ Signals envelope := by
  rintro (⟨htag, -⟩ | ⟨hstatus, -⟩ | ⟨herror, -⟩)
  · rw [h.get?_eq_none (by decide) (by decide)] at htag
    cases htag
  · rw [h.get?_eq_none (by decide) (by decide)] at hstatus
    cases hstatus
  · rw [h.get?_eq_none (by decide) (by decide)] at herror
    cases herror

/-- An object that wraps none itself has the same failure in an envelope. -/
theorem IsEnvelope.failure?_eq {envelope : Json} {fields : List (String × Json)}
    (h : IsEnvelope envelope (.object fields))
    (hnone : (Json.object fields).getObject? "msg" = none) :
    failure? envelope = failure? (.object fields) := by
  have hmsg : envelope.get? "msg" = some (.object fields) := by
    obtain ⟨_, rfl, hmsg, -⟩ := h
    exact hmsg
  have hinner : envelope.getObject? "msg" = some (.object fields) :=
    getObject?_eq_some_iff.2 ⟨fields, hmsg, rfl⟩
  have hsignals : signals envelope = false :=
    Bool.eq_false_iff.2 (mt (signals_iff envelope).1 h.not_signals)
  simp [failure?, hsignals, hinner, hnone]

/-! ## Whole events -/

/-- An object that wraps none is refused or accepted in an envelope as it is without.  Every
event is refused exactly when it reports a failure, or else an object that it wraps does; it is
refused for what its reporter tells, which is never empty, and the event itself comes before
what it wraps. -/
theorem check_of_envelope_and_reporter :
    (∀ (envelope : Json) (fields : List (String × Json)),
      IsEnvelope envelope (.object fields) →
      (∀ inner, (Json.object fields).get? "msg" ≠ some (.object inner)) →
      check envelope = check (.object fields)) ∧
    ∀ event : Json,
      ((∃ e, check event = .error e) ↔ Signals event ∨
        ∃ fields, event.get? "msg" = some (.object fields) ∧ Signals (.object fields)) ∧
      (∀ e, check event = .error e ↔
        ∃ j text, Reporter event j ∧ Tells j text ∧ text ≠ "" ∧ e = .reported text) ∧
      (Signals event → ∃ text, Tells event text ∧ check event = .error (.reported text)) := by
  refine ⟨?_, fun event => ⟨?_, ?_, ?_⟩⟩
  · intro envelope fields henvelope hwraps
    have hnone : (Json.object fields).getObject? "msg" = none := by
      rw [Option.eq_none_iff_forall_ne_some]
      intro inner hinner
      obtain ⟨inner', hmsg, -⟩ := getObject?_eq_some_iff.1 hinner
      exact hwraps inner' hmsg
    unfold check
    rw [henvelope.failure?_eq hnone]
  · rw [← exists_reporter_iff]
    constructor
    · rintro ⟨e, he⟩
      obtain ⟨text, htext, -⟩ := (check_eq_error_iff event e).1 he
      obtain ⟨j, hj, -⟩ := (failure?_eq_some_iff event text).1 htext
      exact ⟨j, hj⟩
    · rintro ⟨j, hj⟩
      have htext := (failure?_eq_some_iff event (failureText j)).2
        ⟨j, hj, (failureText_eq_iff j _).1 rfl⟩
      exact ⟨_, (check_eq_error_iff event _).2 ⟨_, htext, rfl⟩⟩
  · intro e
    rw [check_eq_error_iff]
    constructor
    · rintro ⟨text, htext, rfl⟩
      obtain ⟨j, hj, htells⟩ := (failure?_eq_some_iff event text).1 htext
      have hne : text ≠ "" := by
        rw [← (failureText_eq_iff j text).2 htells]
        exact failureText_ne_empty j
      exact ⟨j, text, hj, htells, hne, rfl⟩
    · rintro ⟨j, text, hj, htells, -, rfl⟩
      exact ⟨text, (failure?_eq_some_iff event text).2 ⟨j, hj, htells⟩, rfl⟩
  · intro hself
    have htells : Tells event (failureText event) := (failureText_eq_iff event _).1 rfl
    have htext := (failure?_eq_some_iff event _).2 ⟨event, .self hself, htells⟩
    exact ⟨_, htells, (check_eq_error_iff event _).2 ⟨_, htext, rfl⟩⟩

/-- A failing stream in an envelope: its error field is blank, so that only its tag reports the
failure, but it is blank and not empty, so that it is the text that is told. -/
theorem check_of_blank_error_in_envelope :
    let stream := Json.object [("error", .string " "), ("message", .string "m"),
      ("msg", .string "inner"), ("type", .string "Stream_ERROR")]
    let envelope := Json.object [("id", .int 0), ("msg", stream)]
    check envelope = check stream ∧ check envelope = .error (.reported " ") := by
  intro stream envelope
  have henvelope : IsEnvelope envelope stream := ⟨_, rfl, rfl, by simp⟩
  have hmsg : stream.get? "msg" = some (.string "inner") := rfl
  have hcheck := check_of_envelope_and_reporter.1 envelope _ henvelope (by simp [stream, hmsg])
  exact ⟨hcheck, by decide⟩

end Event
end AgentRelay
