import AgentRelay.Auth.Status
import AgentRelay.Proofs.Search

/-!
# What a report on the authentication tells

A report counts for what nine of its fields hold.  The first truth value among five of them
decides; without one, the first text among the other four does if it mentions a marker, and
nobody is signed in exactly if that marker is one of the signed-out ones.  That text is the
detail of the status.  Everything else in a report is passed over, values of another kind under
these names included.

Main definitions:

- {lit}`AuthStatus.Holds`: a report is an object with a value under a name.
- {lit}`AuthStatus.FirstFlag` and {lit}`AuthStatus.FirstText`: the truth value and the text that
  count.
- {lit}`AuthStatus.SameTells`: reports that hold the same in the nine fields.

Main results:

- Theorem {lit}`AuthStatus.ofReport_eq`: the status of a report from what counts in it.
- Theorem {lit}`AuthStatus.ofReport_of_sameTells`: nothing else in a report matters.
- Theorem {lit}`AuthStatus.ofReport_tells`: when nobody is signed in, and with what detail.
-/

namespace AgentRelay
namespace AuthStatus

/-! ## What counts in a report -/

/-- The trimmed text of a report is an object that holds a value under a name. -/
def Holds (report name : String) (value : Json) : Prop :=
  ∃ fields, Json.parse? (Text.trim report) = some (.object fields) ∧
    fields.lookup name = some value

/-- A field of a report holds a truth value. -/
def TellsFlag (report name : String) (flag : Bool) : Prop :=
  Holds report name (.bool flag)

/-- A field of a report holds a text. -/
def TellsText (report name text : String) : Prop :=
  Holds report name (.string text)

/-- The truth value that counts: that of the first field that holds one. -/
def FirstFlag (report : String) (flag : Bool) : Prop :=
  FirstAnswer (TellsFlag report) flagNames flag

/-- No field holds a truth value that counts. -/
def NoFlag (report : String) : Prop :=
  NoAnswer (TellsFlag report) flagNames

/-- The text that counts: that of the first field that holds one. -/
def FirstText (report text : String) : Prop :=
  FirstAnswer (TellsText report) textNames text

/-- Two reports hold the same truth values and the same texts in the fields that count. -/
structure SameTells (report report' : String) : Prop where
  flags : ∀ name ∈ flagNames, ∀ flag, TellsFlag report name flag ↔ TellsFlag report' name flag
  texts : ∀ name ∈ textNames, ∀ text, TellsText report name text ↔ TellsText report' name text

/-! ## Reading a report -/

/-- What a field of a report holds, when it is of the kind that is looked for. -/
def fieldOf? (kind : Json → Option α) (report name : String) : Option α :=
  (Json.parse? (Text.trim report)).bind fun json => (json.get? name).bind kind

/-- The truth value that counts in a report, if there is one. -/
def flagOf? (report : String) : Option Bool :=
  flagNames.findSome? (fieldOf? Json.bool? report)

/-- The text that counts in a report, if there is one. -/
def textOf? (report : String) : Option String :=
  textNames.findSome? (fieldOf? Json.string? report)

theorem fieldOf?_eq_some_iff {kind : Json → Option α} {make : α → Json}
    (hkind : ∀ json a, kind json = some a ↔ json = make a) (report name : String) (a : α) :
    fieldOf? kind report name = some a ↔ Holds report name (make a) := by
  simp only [fieldOf?, Option.bind_eq_some_iff, hkind]
  constructor
  · rintro ⟨json, hjson, _, hfield, rfl⟩
    obtain ⟨fields, rfl⟩ := Json.isObject_iff.1 (Json.isObject_of_get? hfield)
    exact ⟨fields, hjson, hfield⟩
  · rintro ⟨fields, hjson, hfield⟩
    exact ⟨_, hjson, _, hfield, rfl⟩

theorem bool?_eq_some_iff (json : Json) (b : Bool) : json.bool? = some b ↔ json = .bool b := by
  cases json <;> simp [Json.bool?]

theorem flagOf?_eq_some_iff {report : String} {flag : Bool} :
    flagOf? report = some flag ↔ FirstFlag report flag :=
  findSome?_eq_some_iff_firstAnswer (fieldOf?_eq_some_iff bool?_eq_some_iff report)

theorem flagOf?_eq_none_iff {report : String} : flagOf? report = none ↔ NoFlag report :=
  findSome?_eq_none_iff_noAnswer (fieldOf?_eq_some_iff bool?_eq_some_iff report)

theorem textOf?_eq_some_iff {report text : String} :
    textOf? report = some text ↔ FirstText report text :=
  findSome?_eq_some_iff_firstAnswer
    (fieldOf?_eq_some_iff (fun _ _ => Json.string?_eq_some_iff) report)

/-- The status of a report from what counts in it. -/
theorem ofReport_eq (report : String) :
    ofReport report =
      match flagOf? report with
      | some flag => ⟨flag, .structured, textOf? report⟩
      | none => (textOf? report).elim (signedIn .structured) ofText := by
  have hread : Json.parseChars? (Text.trimChars report.toList) =
      Json.parse? (Text.trim report) := by
    rw [Json.parse?, Text.toList_trim]
  rw [ofReport, hread, flagOf?, textOf?]
  unfold fieldOf?
  cases Json.parse? (Text.trim report) with
  | none =>
    have hnone : ∀ {β : Type} (names : List String),
        names.findSome? (fun _ => (none : Option β)) = none := by simp
    simp only [Option.bind_none, hnone]
    rfl
  | some json => rfl

/-- Reports that hold the same in the fields that count tell the same status. -/
theorem ofReport_of_sameTells {report report' : String} (h : SameTells report report') :
    ofReport report' = ofReport report := by
  have hflag : flagOf? report' = flagOf? report := by
    apply Option.ext
    intro flag
    rw [flagOf?_eq_some_iff, flagOf?_eq_some_iff]
    exact (firstAnswer_congr h.flags flag).symm
  have htext : textOf? report' = textOf? report := by
    apply Option.ext
    intro text
    rw [textOf?_eq_some_iff, textOf?_eq_some_iff]
    exact (firstAnswer_congr h.texts text).symm
  rw [ofReport_eq, ofReport_eq, hflag, htext]

/-- Blank characters around a report do not matter. -/
theorem sameTells_around {front back : String} (hfront : ∀ c ∈ front.toList, Text.isBlank c = true)
    (hback : ∀ c ∈ back.toList, Text.isBlank c = true) (report : String) :
    SameTells report (front ++ report ++ back) := by
  have htrim := Text.trim_around hfront hback report
  constructor
  · intro name _ flag
    rw [TellsFlag, TellsFlag, Holds, Holds, htrim]
  · intro name _ text
    rw [TellsText, TellsText, Holds, Holds, htrim]

/-! ## What a text tells -/

theorem mentions_signedOutMarkers_iff (text : String) :
    Text.mentions signedOutMarkers text = true ↔ Text.Mentioned signedOutMarkers text :=
  Text.mentions_iff (by decide) text

theorem mentions_signedInMarkers_iff (text : String) :
    Text.mentions signedInMarkers text = true ↔ Text.Mentioned signedInMarkers text :=
  Text.mentions_iff (by decide) text

/-- A text tells that nobody is signed in when it mentions a signed-out marker, whatever else it
mentions. -/
theorem ofText_authenticated_eq_false_iff (text : String) :
    (ofText text).authenticated = false ↔ Text.Mentioned signedOutMarkers text := by
  rw [← mentions_signedOutMarkers_iff, ofText]
  by_cases hout : Text.mentions signedOutMarkers text = true
  · simp [hout, signedOut]
  · rw [if_neg hout]
    split <;> simp [hout, signedIn]

/-- A text is kept as the detail when it mentions a marker. -/
theorem ofText_detail_eq_some_iff (text detail : String) :
    (ofText text).detail = some detail ↔ text = detail ∧
      (Text.Mentioned signedOutMarkers text ∨ Text.Mentioned signedInMarkers text) := by
  rw [← mentions_signedOutMarkers_iff, ← mentions_signedInMarkers_iff, ofText]
  by_cases hout : Text.mentions signedOutMarkers text = true
  · simp [hout, signedOut]
  · by_cases hin : Text.mentions signedInMarkers text = true
    · simp [hout, hin]
    · simp [hout, hin, signedIn]

/-! ## What a report tells -/

section Report

variable {report : String}

/-- A truth value that counts decides whatever the text is. -/
theorem ofReport_of_firstFlag {flag : Bool} (h : FirstFlag report flag) :
    ofReport report = ⟨flag, .structured, textOf? report⟩ := by
  rw [ofReport_eq, flagOf?_eq_some_iff.2 h]

/-- Without a truth value the text that counts decides. -/
theorem ofReport_of_firstText {text : String} (hflag : NoFlag report) (h : FirstText report text) :
    ofReport report = ofText text := by
  rw [ofReport_eq, flagOf?_eq_none_iff.2 hflag, textOf?_eq_some_iff.2 h]
  rfl

/-- Without a truth value and without a text somebody counts as signed in. -/
theorem ofReport_of_nothing (hflag : NoFlag report) (h : textOf? report = none) :
    ofReport report = signedIn .structured := by
  rw [ofReport_eq, flagOf?_eq_none_iff.2 hflag, h]
  rfl

/-- A report has a truth value that counts, or else a text that counts, or neither. -/
theorem report_cases (report : String) :
    (∃ flag, FirstFlag report flag) ∨ (NoFlag report ∧ ∃ text, FirstText report text) ∨
      (NoFlag report ∧ textOf? report = none) := by
  cases hflag : flagOf? report with
  | some flag => exact .inl ⟨flag, flagOf?_eq_some_iff.1 hflag⟩
  | none =>
    have hnone := flagOf?_eq_none_iff.1 hflag
    cases htext : textOf? report with
    | some text => exact .inr (.inl ⟨hnone, text, textOf?_eq_some_iff.1 htext⟩)
    | none => exact .inr (.inr ⟨hnone, rfl⟩)

theorem not_noFlag_of_firstFlag {flag : Bool} (h : FirstFlag report flag) : ¬ NoFlag report := by
  rw [← flagOf?_eq_none_iff, flagOf?_eq_some_iff.2 h]
  exact nofun

theorem firstFlag_unique {flag flag' : Bool} (h : FirstFlag report flag)
    (h' : FirstFlag report flag') : flag = flag' :=
  Option.some.inj ((flagOf?_eq_some_iff.2 h).symm.trans (flagOf?_eq_some_iff.2 h'))

theorem firstText_unique {text text' : String} (h : FirstText report text)
    (h' : FirstText report text') : text = text' :=
  Option.some.inj ((textOf?_eq_some_iff.2 h).symm.trans (textOf?_eq_some_iff.2 h'))

theorem ofReport_source (report : String) : (ofReport report).source = .structured := by
  unfold ofReport
  split
  · exact ofJson_source _
  · rfl

/-- Nobody is signed in exactly if the truth value that counts is false, or there is none and the
text that counts mentions a signed-out marker. -/
theorem ofReport_authenticated_eq_false_iff (report : String) :
    (ofReport report).authenticated = false ↔ FirstFlag report false ∨
      NoFlag report ∧ ∃ text, FirstText report text ∧ Text.Mentioned signedOutMarkers text := by
  rcases report_cases report with ⟨flag, hflag⟩ | ⟨hnone, text, htext⟩ | ⟨hnone, hnothing⟩
  · rw [ofReport_of_firstFlag hflag]
    constructor
    · rintro rfl
      exact .inl hflag
    · rintro (hfalse | ⟨hnone, -⟩)
      · exact firstFlag_unique hflag hfalse
      · exact absurd hnone (not_noFlag_of_firstFlag hflag)
  · rw [ofReport_of_firstText hnone htext, ofText_authenticated_eq_false_iff]
    constructor
    · intro hout
      exact .inr ⟨hnone, text, htext, hout⟩
    · rintro (hfalse | ⟨-, text', htext', hout⟩)
      · exact absurd hnone (not_noFlag_of_firstFlag hfalse)
      · rwa [firstText_unique htext htext']
  · rw [ofReport_of_nothing hnone hnothing]
    constructor
    · exact nofun
    · rintro (hfalse | ⟨-, text, htext, -⟩)
      · exact absurd hnone (not_noFlag_of_firstFlag hfalse)
      · rw [← textOf?_eq_some_iff, hnothing] at htext
        cases htext

/-- The detail is the text that counts, and it is told exactly if there is a truth value or the
text decided. -/
theorem ofReport_detail_eq_some_iff (report detail : String) :
    (ofReport report).detail = some detail ↔ FirstText report detail ∧
      ((∃ flag, FirstFlag report flag) ∨ Text.Mentioned signedOutMarkers detail ∨
        Text.Mentioned signedInMarkers detail) := by
  rcases report_cases report with ⟨flag, hflag⟩ | ⟨hnone, text, htext⟩ | ⟨hnone, hnothing⟩
  · rw [ofReport_of_firstFlag hflag, textOf?_eq_some_iff]
    constructor
    · intro htext
      exact ⟨htext, .inl ⟨flag, hflag⟩⟩
    · exact And.left
  · rw [ofReport_of_firstText hnone htext, ofText_detail_eq_some_iff]
    constructor
    · rintro ⟨rfl, hmentioned⟩
      exact ⟨htext, .inr hmentioned⟩
    · rintro ⟨hdetail, ⟨flag, hflag⟩ | hmentioned⟩
      · exact absurd hnone (not_noFlag_of_firstFlag hflag)
      · cases firstText_unique htext hdetail
        exact ⟨rfl, hmentioned⟩
  · rw [ofReport_of_nothing hnone hnothing]
    constructor
    · exact nofun
    · rintro ⟨hdetail, -⟩
      rw [← textOf?_eq_some_iff, hnothing] at hdetail
      cases hdetail

end Report

/-- A report tells that nobody is signed in exactly if the truth value that counts is false, or
there is none and the text that counts mentions a signed-out marker in its lower-case form.  A
truth value decides whatever the text is.  The detail is the text that counts, and it is told
exactly if there is a truth value or the text decided.  The status never comes from a trial.  It
is the same for all reports that hold the same in the fields that count, and with blank
characters around. -/
theorem ofReport_tells (report : String) :
    ((ofReport report).authenticated = false ↔ FirstFlag report false ∨
      NoFlag report ∧ ∃ text, FirstText report text ∧ Text.Mentioned signedOutMarkers text) ∧
    (∀ flag, FirstFlag report flag → (ofReport report).authenticated = flag) ∧
    (ofReport report).source = .structured ∧
    (∀ detail, (ofReport report).detail = some detail ↔ FirstText report detail ∧
      ((∃ flag, FirstFlag report flag) ∨ Text.Mentioned signedOutMarkers detail ∨
        Text.Mentioned signedInMarkers detail)) ∧
    (∀ report', SameTells report report' → ofReport report' = ofReport report) ∧
    (∀ front back : String, (∀ c ∈ front.toList, Text.isBlank c = true) →
      (∀ c ∈ back.toList, Text.isBlank c = true) →
      ofReport (front ++ report ++ back) = ofReport report) := by
  refine ⟨ofReport_authenticated_eq_false_iff report, ?_, ofReport_source report,
    ofReport_detail_eq_some_iff report, fun _ => ofReport_of_sameTells, ?_⟩
  · intro flag hflag
    rw [ofReport_of_firstFlag hflag]
  · intro front back hfront hback
    exact ofReport_of_sameTells (sameTells_around hfront hback report)

/-- A report whose truth value stands as a text: it tells the same as a report that has another
field in its place, that nobody is signed in. -/
theorem ofReport_tells_of_unreadableFlag :
    let report := "\x7b\"loggedIn\":\"y\",\"state\":\"Logged OUT\"\x7d"
    let report' := "\x7b\"plan\":true,\"state\":\"Logged OUT\"\x7d"
    ofReport report' = ofReport report ∧ ofReport ("\n" ++ report ++ " ") = ofReport report ∧
      (ofReport report).authenticated = false ∧ (ofReport report).detail = some "Logged OUT" := by
  have hread : Json.parse? (Text.trim "\x7b\"loggedIn\":\"y\",\"state\":\"Logged OUT\"\x7d") =
      some (.object [("loggedIn", .string "y"), ("state", .string "Logged OUT")]) := by cbv
  have hread' : Json.parse? (Text.trim "\x7b\"plan\":true,\"state\":\"Logged OUT\"\x7d") =
      some (.object [("plan", .bool true), ("state", .string "Logged OUT")]) := by cbv
  intro report report'
  change Json.parse? (Text.trim report) = _ at hread
  change Json.parse? (Text.trim report') = _ at hread'
  have hsame : SameTells report report' := by
    constructor
    · simp [flagNames, TellsFlag, Holds, hread, hread', List.lookup]
    · simp [textNames, TellsText, Holds, hread, hread', List.lookup]
  have hflag : NoFlag report := by
    simp [NoFlag, NoAnswer, flagNames, TellsFlag, Holds, hread, List.lookup]
  have htext : FirstText report "Logged OUT" := by
    refine ⟨["status"], "state", ["auth_status", "authStatus"], rfl, ⟨_, hread, rfl⟩, ?_⟩
    simp [TellsText, Holds, hread, List.lookup]
  have hout : Text.Mentioned signedOutMarkers "Logged OUT" :=
    (mentions_signedOutMarkers_iff _).1 (by decide)
  have hline : ∀ c ∈ "\n".toList, Text.isBlank c = true := by simp; decide
  have hspace : ∀ c ∈ " ".toList, Text.isBlank c = true := by simp; decide
  obtain ⟨hauth, -, -, hdetail, hreports, haround⟩ := ofReport_tells report
  exact ⟨hreports report' hsame, haround "\n" " " hline hspace,
    hauth.2 (.inr ⟨hflag, _, htext, hout⟩), (hdetail _).2 ⟨htext, .inr (.inl hout)⟩⟩

end AuthStatus
end AgentRelay
