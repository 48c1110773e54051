import AgentRelay.Text.Blank
import AgentRelay.Model.Pricing

/-!
# Models and their catalog

A catalog describes the models it knows and names a default.  A request for no
model, or for a blank one, means the default.  A request for a model that the
catalog does not know is passed on as it is and described like the default.

Main definitions:

- {lit}`Model`: what is known about a model.
- {lit}`Catalog.get?` and {lit}`Catalog.resolve`: looking a model up.
- {lit}`Catalog.builtin`: the models that the tool accepts.
-/

namespace AgentRelay

/-- What is known about a model. -/
structure Model where
  id : String
  contextWindow : Nat
  maxOutputTokens : Nat
  supportsImages : Bool
  supportsPromptCache : Bool
  pricing : Pricing
deriving DecidableEq, Repr

/-- The models that are known, and the identifier of the default one. -/
structure Catalog where
  defaultId : String
  models : List Model
deriving Repr

/-- An identifier together with the description it resolved to. -/
structure ResolvedModel where
  id : String
  model : Model
deriving DecidableEq, Repr

/-- A description for a model that nothing is known about. -/
def Model.unknown (id : String) : Model where
  id := id
  contextWindow := 272000
  maxOutputTokens := 128000
  supportsImages := false
  supportsPromptCache := false
  pricing := .free

namespace Catalog

/-- The first model of a catalog with exactly this identifier. -/
def get? (c : Catalog) (id : String) : Option Model :=
  c.models.find? fun m => m.id = id

/-- The identifier a request stands for: trimmed, or the default one. -/
def requestedId (c : Catalog) (requested : Option String) : String :=
  (requested.bind Text.nonBlank?).getD c.defaultId

/-- The description used for an identifier: its own, or that of the default
model under this identifier. -/
def describe (c : Catalog) (id : String) : Model :=
  match c.get? id with
  | some m => m
  | none => { (c.get? c.defaultId).getD (.unknown c.defaultId) with id := id }

/-- The identifier to send to the tool together with its description. -/
def resolve (c : Catalog) (requested : Option String) : ResolvedModel where
  id := c.requestedId requested
  model := c.describe (c.requestedId requested)

/-- A model that is found has the identifier it was looked up by. -/
theorem id_of_get? {c : Catalog} {id : String} {m : Model} (h : c.get? id = some m) :
    m.id = id := by
  simpa using List.find?_some h

/-- A description always carries the identifier it was asked for. -/
@[simp]
theorem id_describe (c : Catalog) (id : String) : (c.describe id).id = id := by
  unfold describe
  split
  · next h => exact id_of_get? h
  · rfl

/-! ## The built-in catalog -/

/-- A model without image input and with a prompt cache, whose cache writes are
free. -/
def cached (id : String) (contextWindow maxOutputTokens : Nat) (input output cacheReads : Float) :
    Model where
  id := id
  contextWindow := contextWindow
  maxOutputTokens := maxOutputTokens
  supportsImages := false
  supportsPromptCache := true
  pricing := ⟨input, output, 0, cacheReads⟩

/-- The models that the tool accepts. -/
def builtin : Catalog where
  defaultId := "gpt-5.1-codex"
  models :=
    [cached "gpt-5.1-codex" 272000 128000 1.25 10 0.125,
     cached "gpt-5.1-codex-max" 272000 128000 1.25 10 0.125,
     cached "gpt-5-codex" 272000 128000 1.25 10 0.125,
     cached "gpt-5.1-codex-mini" 272000 128000 0.25 2 0.025,
     cached "gpt-5-codex-mini" 272000 128000 0.25 2 0.025,
     cached "gpt-5.1" 272000 128000 1.25 10 0.125,
     cached "gpt-5" 272000 128000 1.25 10 0.125,
     cached "codex-mini-latest" 200000 100000 1.5 6 0.375]

end Catalog
end AgentRelay
