import AgentRelay.Proofs.Arguments
import AgentRelay.Proofs.Event.Failures
import AgentRelay.Session

/-!
# Which model is asked for

A request for a model stands for its trimmed text, or for the default if there is none or it is
blank.  What is known about the model is the first entry of the catalog under this identifier,
else the entry of the default under this identifier, else a fixed description without prices.  A
session over the built-in catalog sends exactly the identifier that it describes.

Main definitions:

- {lit}`Catalog.StandsFor`: the identifier that a request stands for.
- {lit}`Catalog.Knows`: the first entry under an identifier.
- {lit}`Catalog.Describes`: what a catalog says about an identifier, known or not.

Main results:

- Theorem {lit}`Catalog.requestedId_eq_iff`: a request is read as what it stands for.
- Theorem {lit}`Catalog.describe_eq_iff`: the description of an identifier is what the catalog
  says about it.
- Theorem {lit}`Catalog.resolve_and_request`: what a request resolves to, and what a session with
  it sends.
-/

namespace AgentRelay

namespace Text

/-- A text of blank characters only. -/
def IsBlankText (s : String) : Prop :=
  ∀ c ∈ s.toList, isBlank c = true

theorem isBlankText_trim_iff (s : String) : IsBlankText (trim s) ↔ IsBlankText s := by
  rw [IsBlankText, IsBlankText, ← trim_eq_empty_iff, ← trim_eq_empty_iff, trim_trim]

end Text

namespace Catalog

open Text (IsBlankText)

/-! ## Identifiers -/

/-- The identifier that a request stands for: the trimmed text, or the default one for a missing
or blank request. -/
inductive StandsFor (c : Catalog) : Option String → String → Prop where
  | missing : StandsFor c none c.defaultId
  | blank {s : String} (h : IsBlankText s) : StandsFor c (some s) c.defaultId
  | named {s : String} (h : ¬ IsBlankText s) : StandsFor c (some s) (Text.trim s)

theorem requestedId_of_blank {s : String} (h : IsBlankText s) (c : Catalog) :
    c.requestedId (some s) = c.defaultId := by
  have hblank := (Text.trim_eq_empty_iff s).2 h
  rw [requestedId, Option.bind_some, Text.nonBlank?, if_pos hblank, Option.getD_none]

theorem requestedId_of_not_blank {s : String} (h : ¬ IsBlankText s) (c : Catalog) :
    c.requestedId (some s) = Text.trim s := by
  have hnamed : Text.trim s ≠ "" := fun hblank => h ((Text.trim_eq_empty_iff s).1 hblank)
  rw [requestedId, Option.bind_some, Text.nonBlank?, if_neg hnamed, Option.getD_some]

/-- A request is read as the identifier that it stands for. -/
theorem requestedId_eq_iff (c : Catalog) (requested : Option String) (id : String) :
    c.requestedId requested = id ↔ c.StandsFor requested id := by
  constructor
  · rintro rfl
    cases requested with
    | none => exact .missing
    | some s =>
      by_cases hblank : IsBlankText s
      · rw [requestedId_of_blank hblank]
        exact .blank hblank
      · rw [requestedId_of_not_blank hblank]
        exact .named hblank
  · intro h
    cases h with
    | missing => rfl
    | blank hblank => exact requestedId_of_blank hblank c
    | named hnamed => exact requestedId_of_not_blank hnamed c

/-- Blank characters around a request do not matter. -/
theorem requestedId_around {front back : String} (hfront : IsBlankText front)
    (hback : IsBlankText back) (c : Catalog) (s : String) :
    c.requestedId (some (front ++ s ++ back)) = c.requestedId (some s) := by
  rw [requestedId, requestedId, Option.bind_some, Option.bind_some, Text.nonBlank?, Text.nonBlank?,
    Text.trim_around hfront hback]

/-- The identifier that a request stands for stands for itself, if the default one has no blank
characters around it. -/
theorem requestedId_requestedId {c : Catalog} (hdefault : Text.trim c.defaultId = c.defaultId)
    (requested : Option String) :
    c.requestedId (some (c.requestedId requested)) = c.requestedId requested := by
  have hself : c.requestedId (some c.defaultId) = c.defaultId := by
    by_cases hblank : IsBlankText c.defaultId
    · exact requestedId_of_blank hblank c
    · rw [requestedId_of_not_blank hblank, hdefault]
  have hstands := (c.requestedId_eq_iff requested _).1 rfl
  generalize c.requestedId requested = id at hstands ⊢
  cases hstands with
  | missing => exact hself
  | blank => exact hself
  | @named s hnamed =>
    rw [← Text.isBlankText_trim_iff] at hnamed
    rw [requestedId_of_not_blank hnamed, Text.trim_trim]

/-! ## Descriptions -/

/-- The first model of a catalog under an identifier. -/
def Knows (c : Catalog) (id : String) (m : Model) : Prop :=
  ∃ before after, c.models = before ++ m :: after ∧ m.id = id ∧ ∀ other ∈ before, other.id ≠ id

/-- A catalog has no model under an identifier. -/
def Lacks (c : Catalog) (id : String) : Prop :=
  ∀ m ∈ c.models, m.id ≠ id

/-- What a catalog says about an identifier: the first entry under it, else that of the default
with the identifier in place of its own, else what is said of a model that nothing is known
about, which costs nothing. -/
inductive Describes (c : Catalog) (id : String) : Model → Prop where
  | known {m : Model} (h : c.Knows id m) : Describes c id m
  | likeDefault {m : Model} (hlacks : c.Lacks id) (h : c.Knows c.defaultId m) :
      Describes c id { m with id := id }
  | unknown (hlacks : c.Lacks id) (hdefault : c.Lacks c.defaultId) :
      Describes c id ⟨id, 272000, 128000, false, false, .free⟩

theorem get?_eq_some_iff (c : Catalog) (id : String) (m : Model) :
    c.get? id = some m ↔ c.Knows id m := by
  simp only [get?, List.find?_eq_some_iff_append, Knows, decide_eq_true_eq, Bool.not_eq_true',
    decide_eq_false_iff_not, ne_eq]
  constructor
  · rintro ⟨hid, before, after, hsplit, hbefore⟩
    exact ⟨before, after, hsplit, hid, hbefore⟩
  · rintro ⟨before, after, hsplit, hid, hbefore⟩
    exact ⟨hid, before, after, hsplit, hbefore⟩

theorem get?_eq_none_iff (c : Catalog) (id : String) : c.get? id = none ↔ c.Lacks id := by
  simp [get?, Lacks]

/-- The description of an identifier is what the catalog says about it. -/
theorem describe_eq_iff (c : Catalog) (id : String) (m : Model) :
    c.describe id = m ↔ c.Describes id m := by
  constructor
  · rintro rfl
    unfold describe
    cases hid : c.get? id with
    | some m => exact .known ((c.get?_eq_some_iff id m).1 hid)
    | none =>
      have hlacks := (c.get?_eq_none_iff id).1 hid
      cases hdefault : c.get? c.defaultId with
      | some m => exact .likeDefault hlacks ((c.get?_eq_some_iff _ m).1 hdefault)
      | none => exact .unknown hlacks ((c.get?_eq_none_iff _).1 hdefault)
  · intro h
    cases h with
    | known h => rw [describe, (c.get?_eq_some_iff id m).2 h]
    | likeDefault hlacks h =>
      rw [describe, (c.get?_eq_none_iff id).2 hlacks, (c.get?_eq_some_iff _ _).2 h]
      rfl
    | unknown hlacks hdefault =>
      rw [describe, (c.get?_eq_none_iff id).2 hlacks, (c.get?_eq_none_iff _).2 hdefault]
      rfl

/-! ## Requests -/

/-- A request and the identifier it stands for resolve to the same. -/
theorem resolve_resolve {c : Catalog} (hdefault : Text.trim c.defaultId = c.defaultId)
    (requested : Option String) :
    c.resolve (some (c.resolve requested).id) = c.resolve requested := by
  have hid : (c.resolve requested).id = c.requestedId requested := rfl
  rw [hid, resolve, resolve, requestedId_requestedId hdefault]

theorem trim_defaultId_builtin : Text.trim builtin.defaultId = builtin.defaultId := by
  decide

/-- Over the built-in catalog a request stands for a trimmed identifier that is not blank. -/
theorem requestedId_builtin (requested : Option String) :
    Text.trim (builtin.requestedId requested) = builtin.requestedId requested ∧
      ¬ IsBlankText (builtin.requestedId requested) := by
  have hdefault : ¬ IsBlankText builtin.defaultId := by
    rw [IsBlankText, ← Text.trim_eq_empty_iff, trim_defaultId_builtin]
    decide
  have hstands := (builtin.requestedId_eq_iff requested _).1 rfl
  generalize builtin.requestedId requested = id at hstands ⊢
  cases hstands with
  | missing => exact ⟨trim_defaultId_builtin, hdefault⟩
  | blank => exact ⟨trim_defaultId_builtin, hdefault⟩
  | @named s hnamed => exact ⟨Text.trim_trim s, fun h => hnamed ((Text.isBlankText_trim_iff s).1 h)⟩

end Catalog

/-- A request whose model is trimmed and not blank sends it right behind the first two
arguments. -/
theorem Invocation.args_of_model {i : Invocation} {id : String} (hmodel : i.model = some id)
    (htrim : Text.trim id = id) (hne : id ≠ "") : ["exec", "--json", "--model", id] <+: i.args := by
  have hrequested : i.requestedModel = some id := by
    rw [requestedModel, hmodel, Option.bind_some, Text.nonBlank?_eq_some_iff]
    exact ⟨htrim, hne⟩
  rw [args, hrequested]
  simp [option]

/-- A request for a model resolves to the identifier it stands for and to what the catalog says
about it, under this identifier, and blank characters around it do not matter.  A session over
the built-in catalog describes the model that it sends: its identifier, which is trimmed and not
blank, stands behind the flag for the model, and resolves to the same description. -/
theorem Catalog.resolve_and_request (c : Catalog) (requested : Option String)
    (settings : Settings) (prompt : Prompt) :
    c.StandsFor requested (c.resolve requested).id ∧
    (c.resolve requested).model.id = (c.resolve requested).id ∧
    c.Describes (c.resolve requested).id (c.resolve requested).model ∧
    (∀ front s back : String, Text.IsBlankText front → Text.IsBlankText back → requested = some s →
      c.resolve (some (front ++ s ++ back)) = c.resolve requested) ∧
    ∃ id, (Session.ofSettings settings builtin).model.id = id ∧
      (Session.ofSettings settings builtin).model.model.id = id ∧
      ((Session.ofSettings settings builtin).request prompt).model = some id ∧
      Text.trim id = id ∧ ¬ Text.IsBlankText id ∧
      ["exec", "--json", "--model", id] <+:
        ((Session.ofSettings settings builtin).request prompt).args ∧
      builtin.resolve (some id) = (Session.ofSettings settings builtin).model := by
  refine ⟨(c.requestedId_eq_iff requested _).1 rfl, c.id_describe _,
    (c.describe_eq_iff _ _).1 rfl, ?_, _, rfl, builtin.id_describe _, rfl, ?_⟩
  · rintro front s back hfront hback rfl
    rw [resolve, resolve, requestedId_around hfront hback]
  · obtain ⟨htrim, hnamed⟩ := requestedId_builtin settings.model
    have hne : builtin.requestedId settings.model ≠ "" := by
      intro hempty
      rw [hempty] at hnamed
      exact hnamed nofun
    exact ⟨htrim, hnamed, Invocation.args_of_model rfl htrim hne,
      resolve_resolve trim_defaultId_builtin settings.model⟩

/-- A catalog with two entries under one identifier and without its default: a padded request
resolves to the first of them.  A session sends a model that is not in the built-in catalog
without what was around it. -/
theorem Catalog.resolve_and_request_of_padded :
    let c : Catalog := ⟨"d", [cached "a" 1 1 0 0 0, cached "a" 2 2 0 0 0]⟩
    let settings : Settings := { model := some "\u3000gpt-6\n" }
    Text.IsBlankText "\t" ∧ Text.IsBlankText " " ∧
      c.resolve (some ("\t" ++ "a" ++ " ")) = c.resolve (some "a") ∧
      (c.resolve (some "a")).model.contextWindow = 1 ∧
      ["exec", "--json", "--model", "gpt-6"] <+:
        ((Session.ofSettings settings builtin).request ⟨none, []⟩).args := by
  intro c settings
  have htab : Text.IsBlankText "\t" := (Text.trim_eq_empty_iff _).1 (by decide)
  have hspace : Text.IsBlankText " " := (Text.trim_eq_empty_iff _).1 (by decide)
  obtain ⟨-, -, -, haround, id, hid, -, -, -, -, hargs, -⟩ :=
    Catalog.resolve_and_request c (some "a") settings ⟨none, []⟩
  obtain rfl : "gpt-6" = id := hid
  exact ⟨htab, hspace, haround "\t" "a" " " htab hspace rfl, rfl, hargs⟩

end AgentRelay
