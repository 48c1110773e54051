import AgentRelay.Chunk
import AgentRelay.Json.Fields
import AgentRelay.Settings.Basic

/-!
# Settings as JSON

Settings are read from an object in which every field may be missing, or from
an array that gives the fields in their order and may end early.  They are
written as an object with all eight fields.

Main definitions:

- {lit}`Settings.ofJson?`: the settings that a value writes.
- {lit}`Settings.toJson`: settings as a value.
-/

namespace AgentRelay

/-! ## Environments -/

/-- The environment that an object of strings writes. -/
def Environment.ofJson? (j : Json) : Option Environment := do
  let fields ← j.object?
  let entries ← fields.mapM fun (name, value) => value.string?.map fun s => (name, s)
  some ⟨entries⟩

/-- An environment as an object of strings, each variable once. -/
def Environment.toJson (env : Environment) : Json :=
  .object (Json.sortFields (env.entries.reverse.map fun (name, value) => (name, .string value)))

/-! ## Settings -/

namespace Settings

/-- The names of the fields, in order. -/
def fieldNames : List String :=
  ["binary_path", "model", "auth_mode", "api_key", "sandbox", "output_schema", "full_auto",
   "extra_env"]

/-- The settings that a value writes. -/
def ofJson? (j : Json) : Option Settings := do
  let fields ← Json.record? fieldNames j
  let field {α : Type} (name : String) (read : Json → Option α) (default : α) : Option α :=
    Json.fieldOr? fields name read default
  let binary ← field "binary_path" Json.string? ({} : Settings).binary
  let model ← field "model" (Json.nullable? Json.string?) none
  let authMode ← field "auth_mode" (Json.choice? · |>.bind AuthMode.ofName?) .chatGpt
  let apiKey ← field "api_key" (Json.nullable? Json.string?) none
  let sandbox ← field "sandbox"
    (Json.nullable? (Json.choice? · |>.bind SandboxMode.ofName?)) none
  let outputSchema ← field "output_schema" (Json.nullable? Json.string?) none
  let fullAuto ← field "full_auto" Json.bool? false
  let extraEnv ← field "extra_env" Environment.ofJson? .empty
  some { binary, model, authMode, apiKey, sandbox, outputSchema, fullAuto, extraEnv }

/-- A value that may be absent, written as null. -/
def orNull (encode : α → Json) : Option α → Json
  | some value => encode value
  | none => .null

/-- Settings as a value. -/
def toJson (s : Settings) : Json :=
  .object [("binary_path", .string s.binary), ("model", orNull .string s.model),
    ("auth_mode", .string s.authMode.name), ("api_key", orNull .string s.apiKey),
    ("sandbox", orNull (fun mode => .string mode.name) s.sandbox),
    ("output_schema", orNull .string s.outputSchema), ("full_auto", .bool s.fullAuto),
    ("extra_env", s.extraEnv.toJson)]

end Settings
end AgentRelay
