import AgentRelay.Proofs.Event.RuleTable

/-!
# Where usage is taken from

Three kinds of events carry usage, each in several places: the end of a response, the end of
a turn, and a token count wrapped in another event.  The usage that is reported is the first
of these places that holds an object; places that hold anything else are skipped.  There is one
exception: the usage of the last turn inside a wrapped token count is taken whatever it is, so
a value there that is no object keeps the event from reporting anything.

Main definitions:

- {lit}`Event.Envelope` and {lit}`Event.Envelope.Carries`: how an event carries usage.
- {lit}`Event.Envelope.candidates`: the places where it is looked for.
- {lit}`Event.firstObject?`: the first place that holds an object.
- {lit}`Event.ReportsUsage`: what the chunks of an event report of a usage object.

Main results:

- Theorem {lit}`chunks_of_envelope`: the usage that an event reports.
- Theorem {lit}`not_reportsUsage_of_envelope`: it is not always that of the first object.
-/

namespace AgentRelay
namespace Event

variable {event : Json} {model : Model}

/-! ## Envelopes -/

/-- The ways in which an event carries usage: at the end of a response, at the end of a turn,
and wrapped, as a token count. -/
inductive Envelope where
  | responseEnd
  | turnEnd
  | tokenCount (inner : Json)

/-- An event carries usage in an envelope, and no earlier rule is for it. -/
def Envelope.Carries (event : Json) : Envelope → Prop
  | .responseEnd => hasKind event responseEndKinds = true
  | .turnEnd =>
    hasKind event ["turn.completed"] = true ∧ ¬ HasChoice event ∧ event.getObject? "msg" = none
  | .tokenCount inner =>
    event.getObject? "msg" = some inner ∧ hasKind inner ["token_count"] = true ∧
      (∀ tagged ∈ taggedRules, hasKind event tagged.1 = false) ∧ ¬ HasChoice event

/-- The usage of the last turn in a wrapped token count. -/
def lastTurnUsage? (inner : Json) : Option Json :=
  (inner.get? "info").bind (·.get? "last_token_usage")

/-- The places in an envelope where usage is looked for. -/
def Envelope.candidates (event : Json) : Envelope → List (Option Json)
  | .responseEnd => [(event.get? "response").bind (·.get? "usage"), event.get? "usage"]
  | .turnEnd => [event.get? "usage"]
  | .tokenCount inner => [lastTurnUsage? inner, inner.get? "info", some inner]

/-- The usage of the last turn is there, but it is no object. -/
def Envelope.Blocked : Envelope → Prop
  | .tokenCount inner => ∃ v, lastTurnUsage? inner = some v ∧ v.isObject = false
  | _ => False

/-- The first of several places that holds an object. -/
def firstObject? (candidates : List (Option Json)) : Option Json :=
  candidates.findSome? (·.filter Json.isObject)

/-- The chunks report a usage object: there is one chunk, with its counts and their price.
Without a usage object there is none. -/
def ReportsUsage (model : Model) (chunks : List Chunk) : Option Json → Prop
  | some usage => ∃ counts, Usage.resolve? usage = some counts ∧
      chunks = [.usage (counts.priced model.pricing)]
  | none => chunks = []

/-! ## Usage chunks -/

/-- What is no object gives no usage chunk. -/
theorem usageChunk?_of_not_isObject {v : Json} (h : v.isObject = false) (model : Model) :
    usageChunk? (some v) model = none := by
  rw [usageChunk?, Option.bind_some, Usage.summary?, Usage.resolve?_of_not_isObject h]
  rfl

/-- What is no object may be left out. -/
theorem usageChunk?_filter (usage : Option Json) (model : Model) :
    usageChunk? (usage.filter Json.isObject) model = usageChunk? usage model := by
  cases usage with
  | none => rfl
  | some v =>
    cases hv : v.isObject with
    | true => rw [Option.filter_some, if_pos hv]
    | false =>
      rw [usageChunk?_of_not_isObject hv, Option.filter_some, hv]
      rfl

/-- The chunk of the first object reports it. -/
theorem reportsUsage_firstObject? (candidates : List (Option Json)) (model : Model) :
    ReportsUsage model (usageChunk? (firstObject? candidates) model).toList
      (firstObject? candidates) := by
  cases hfirst : firstObject? candidates with
  | none => rfl
  | some usage =>
    obtain ⟨candidate, -, hcandidate⟩ := List.exists_of_findSome?_eq_some hfirst
    have hobject : usage.isObject = true := (Option.filter_eq_some_iff.1 hcandidate).2
    have hcounts := Usage.resolve?_isSome usage
    rw [hobject, Option.isSome_iff_exists] at hcounts
    obtain ⟨counts, hcounts⟩ := hcounts
    refine ⟨counts, hcounts, ?_⟩
    rw [usageChunk?, Option.bind_some, Usage.summary?, hcounts]
    rfl

/-- Behind any other place, what is no object may be left out. -/
theorem usageChunk?_or_filter (first second : Option Json) (model : Model) :
    usageChunk? (first.or (second.filter Json.isObject)) model =
      usageChunk? (first.or second) model := by
  cases first with
  | none => rw [Option.none_or, Option.none_or, usageChunk?_filter]
  | some v => rfl

theorem firstObject?_cons (candidate : Option Json) (candidates : List (Option Json)) :
    firstObject? (candidate :: candidates) =
      (candidate.filter Json.isObject).or (firstObject? candidates) := by
  rw [firstObject?, List.findSome?_cons]
  cases candidate.filter Json.isObject <;> rfl

theorem firstObject?_singleton (candidate : Option Json) :
    firstObject? [candidate] = candidate.filter Json.isObject := by
  rw [firstObject?_cons]
  exact Option.or_none

/-- An object inside another value is the first object of that place. -/
theorem bind_getObject? (outer : Option Json) (name : String) :
    outer.bind (·.getObject? name) = (outer.bind (·.get? name)).filter Json.isObject := by
  cases outer <;> rfl

/-! ## What an envelope reports -/

/-- The end of a response reports the usage inside the response, or else that beside it. -/
theorem chunks_of_carries_responseEnd (h : Envelope.responseEnd.Carries event) (model : Model) :
    chunks event model =
      (usageChunk? (firstObject? (Envelope.responseEnd.candidates event)) model).toList := by
  have hkind : hasKind event responseEndKinds = true := h
  have hmem : (responseEndKinds, responseEnd) ∈ taggedRules := by simp [taggedRules]
  apply chunks_of_mem_taggedRules hmem
  simp only [responseEnd]
  rw [if_pos hkind, Envelope.candidates, firstObject?_cons, firstObject?_singleton,
    usageChunk?_or_filter, bind_getObject?]

/-- The end of a turn reports its usage. -/
theorem chunks_of_carries_turnEnd (h : Envelope.turnEnd.Carries event) (model : Model) :
    chunks event model =
      (usageChunk? (firstObject? (Envelope.turnEnd.candidates event)) model).toList := by
  obtain ⟨hkind, hchoice, hmsg⟩ := h
  apply chunks_of_laterRule (List.mem_pair.2 (.inr rfl)) _ hchoice hmsg
  rw [turnEnd, if_pos hkind, Envelope.candidates, firstObject?_singleton, usageChunk?_filter]

/-- A wrapped token count reports what is found in it, unless the usage of the last turn is
no object. -/
theorem chunks_of_carries_tokenCount {inner : Json} (h : (Envelope.tokenCount inner).Carries event)
    (model : Model) :
    chunks event model = (usageChunk? (some (tokenCountUsage inner)) model).toList := by
  obtain ⟨hmsg, hkind, hkinds, hchoice⟩ := h
  have hinner (kinds : List String) : hasKind inner kinds = kinds.contains "token_count" :=
    hasKind_of_kind? (kind?_of_hasKind hkind) kinds
  have hrules : rules = (taggedRules.map Prod.snd ++ [chatStep]) ++ wrapped ::
      [progressItem, turnEnd, bareContent] := rfl
  apply chunks_of_passed hrules
  · exact passed_to_wrapped hkinds hchoice model
  · simp [wrapped, hmsg, wrappedChunk?, hinner]

/-- A token count whose last turn has no usage, or an object for it, reports the first object
found in it. -/
theorem some_tokenCountUsage {inner : Json} (hobject : inner.isObject = true)
    (h : ¬ (Envelope.tokenCount inner).Blocked) (event : Json) :
    some (tokenCountUsage inner) =
      firstObject? ((Envelope.tokenCount inner).candidates event) := by
  have hinner : (some inner).filter Json.isObject = some inner := by
    rw [Option.filter_some, if_pos hobject]
  rw [Envelope.candidates, firstObject?_cons, firstObject?_cons, firstObject?_singleton, hinner,
    tokenCountUsage, ← lastTurnUsage?, Json.getObject?]
  cases hlast : lastTurnUsage? inner with
  | none => cases (inner.get? "info").filter Json.isObject <;> rfl
  | some v =>
    have hv : v.isObject = true := by
      rw [← Bool.not_eq_false]
      intro hv
      exact h ⟨v, hlast, hv⟩
    rw [Option.filter_some, if_pos hv]
    rfl

/-- A wrapped token count is an object itself, so there always is one. -/
theorem isSome_firstObject?_tokenCount {inner : Json} (hobject : inner.isObject = true)
    (event : Json) :
    (firstObject? ((Envelope.tokenCount inner).candidates event)).isSome = true := by
  simp [Envelope.candidates, firstObject?_cons, Option.filter_some, hobject]

/-- A usage of the last turn that is no object is what is taken, and gives no chunk. -/
theorem usageChunk?_of_blocked {inner : Json} (h : (Envelope.tokenCount inner).Blocked)
    (model : Model) : usageChunk? (some (tokenCountUsage inner)) model = none := by
  obtain ⟨v, hlast, hv⟩ := h
  rw [tokenCountUsage, ← lastTurnUsage?, hlast, Option.some_or, Option.getD_some,
    usageChunk?_of_not_isObject hv]

/-- An event reports the first object among the places of its envelope, unless a usage of the
last turn is no object. -/
theorem chunks_of_carries {envelope : Envelope} (h : envelope.Carries event)
    (hfree : ¬ envelope.Blocked) (model : Model) :
    chunks event model =
      (usageChunk? (firstObject? (envelope.candidates event)) model).toList := by
  cases envelope with
  | responseEnd => exact chunks_of_carries_responseEnd h model
  | turnEnd => exact chunks_of_carries_turnEnd h model
  | tokenCount inner =>
    have hobject : inner.isObject = true := Json.isObject_of_getObject? h.1
    rw [chunks_of_carries_tokenCount h, some_tokenCountUsage hobject hfree event]

theorem chunks_of_blocked {envelope : Envelope} (h : envelope.Carries event)
    (hblocked : envelope.Blocked) (model : Model) : chunks event model = [] := by
  cases envelope with
  | responseEnd => exact hblocked.elim
  | turnEnd => exact hblocked.elim
  | tokenCount inner =>
    rw [chunks_of_carries_tokenCount h, usageChunk?_of_blocked hblocked]
    rfl

/-- The usage that an event reports is the first object among the places of its envelope: then
it becomes the one chunk with the counts of that object, and without an object it becomes
nothing.  A wrapped token count always has an object.  But a usage of its last turn that is no
object keeps it from reporting anything. -/
theorem chunks_of_envelope {envelope : Envelope} (h : envelope.Carries event) (model : Model) :
    (¬ envelope.Blocked →
      ReportsUsage model (chunks event model) (firstObject? (envelope.candidates event))) ∧
    (envelope.Blocked → chunks event model = []) ∧
    (∀ inner, envelope = .tokenCount inner →
      (firstObject? (envelope.candidates event)).isSome = true) := by
  refine ⟨?_, ?_, ?_⟩
  · intro hfree
    rw [chunks_of_carries h hfree]
    exact reportsUsage_firstObject? _ model
  · intro hblocked
    exact chunks_of_blocked h hblocked model
  · rintro inner rfl
    exact isSome_firstObject?_tokenCount (Json.isObject_of_getObject? h.1) event

/-- The end of a response with a text in place of the usage inside the response. -/
def textBesideUsage : Json :=
  .object [("response", .object [("usage", .string "none")]),
    ("type", .string "response.completed"), ("usage", .object [("input_tokens", .nat 3)])]

/-- A wrapped token count without usage of its last turn, and the name of that usage. -/
def lastTurnUnknown : Json :=
  .object [("info", .object [("input_tokens", .nat 3), ("last_token_usage", .null)]),
    ("type", .string "token_count")]

/-- An event that wraps this token count. -/
def wrappedLastTurnUnknown : Json :=
  .object [("msg", lastTurnUnknown)]

theorem carries_wrappedLastTurnUnknown :
    (Envelope.tokenCount lastTurnUnknown).Carries wrappedLastTurnUnknown := by
  refine ⟨rfl, by decide, by decide, ?_⟩
  rintro ⟨choice, choices, hchoices⟩
  cases hchoices

/-- A text is skipped, but a void usage of the last turn is not. -/
theorem chunks_of_textBesideUsage :
    (∃ counts, Usage.resolve? (.object [("input_tokens", .nat 3)]) = some counts ∧
      chunks textBesideUsage (Model.unknown "m") =
        [.usage (counts.priced (Model.unknown "m").pricing)]) ∧
      chunks wrappedLastTurnUnknown (Model.unknown "m") = [] := by
  have hend : Envelope.responseEnd.Carries textBesideUsage := by
    show hasKind textBesideUsage responseEndKinds = true
    decide
  have hblocked : (Envelope.tokenCount lastTurnUnknown).Blocked := ⟨.null, rfl, rfl⟩
  exact ⟨(chunks_of_envelope hend (Model.unknown "m")).1 not_false,
    (chunks_of_envelope carries_wrappedLastTurnUnknown (Model.unknown "m")).2.1 hblocked⟩

/-- The usage that an event reports is not always that of the first object. -/
theorem not_reportsUsage_of_envelope :
    ¬ ∀ (event : Json) (envelope : Envelope) (model : Model), envelope.Carries event →
      ReportsUsage model (chunks event model) (firstObject? (envelope.candidates event)) := by
  intro hall
  have hnone : chunks wrappedLastTurnUnknown (Model.unknown "m") = [] := by decide
  obtain ⟨counts, -, hchunks⟩ := hall _ _ (Model.unknown "m") carries_wrappedLastTurnUnknown
  rw [hnone] at hchunks
  cases hchunks

end Event
end AgentRelay
