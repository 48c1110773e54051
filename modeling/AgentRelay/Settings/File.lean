import AgentRelay.Settings.Basic
import AgentRelay.Toml.Reader

/-!
# The settings file

Settings are stored in a TOML document.  Every entry may be missing, and
entries that are no settings are passed over as long as the document is well
formed.

Main definitions:

- {lit}`Settings.ofEntries?`: the settings in the entries of a document.
- {lit}`Settings.ofDocument?`: the settings that a document writes.
-/

namespace AgentRelay

/-! ## Kinds of entries -/

namespace Toml

/-- The text of a string. -/
def string? : Toml → Option String
  | .string s => some s
  | _ => none

/-- The truth value of a boolean. -/
def boolean? : Toml → Option Bool
  | .boolean b => some b
  | _ => none

/-- The name of the only entry of a date or a time that is read as a table. -/
def dateTimeName : String :=
  "$__toml_private_datetime"

/-- The entries of a table, in whichever way it came about.  A date or a time is
read as a table that holds its text. -/
def table? : Toml → Option Entries
  | .table _ entries => some entries
  | .dateTime d => some [(dateTimeName, .string d.text)]
  | _ => none

/-- A list or a table without content. -/
def isVoid : Toml → Bool
  | .array [] => true
  | .table _ [] => true
  | _ => false

/-- A name out of a fixed choice: a string, or a table whose only entry has that
name and is void. -/
def choice? : Toml → Option String
  | .string s => some s
  | .table _ [(name, value)] => if value.isVoid then some name else none
  | _ => none

/-- An entry read by {lit}`read`, or the default when it is absent. -/
def entryOr? (entries : Entries) (name : String) (read : Toml → Option α) (default : α) :
    Option α :=
  match entries.lookup name with
  | none => some default
  | some value => read value

end Toml

/-! ## Settings -/

/-- The environment in a table of strings. -/
def Environment.ofToml? (value : Toml) : Option Environment := do
  let entries ← value.table?
  let entries ← entries.mapM fun (name, value) => value.string?.map fun s => (name, s)
  some ⟨entries⟩

namespace Settings

/-- The settings in the entries of a document. -/
def ofEntries? (entries : Toml.Entries) : Option Settings := do
  let entry {α : Type} (name : String) (read : Toml → Option α) (default : α) : Option α :=
    Toml.entryOr? entries name read default
  let text (value : Toml) : Option (Option String) := value.string?.map some
  let binary ← entry "binary_path" Toml.string? ({} : Settings).binary
  let model ← entry "model" text none
  let authMode ← entry "auth_mode" (Toml.choice? · |>.bind AuthMode.ofName?) .chatGpt
  let apiKey ← entry "api_key" text none
  let sandbox ← entry "sandbox"
    (fun value => (value.choice?.bind SandboxMode.ofName?).map some) none
  let outputSchema ← entry "output_schema" text none
  let fullAuto ← entry "full_auto" Toml.boolean? false
  let extraEnv ← entry "extra_env" Environment.ofToml? .empty
  some { binary, model, authMode, apiKey, sandbox, outputSchema, fullAuto, extraEnv }

/-- The settings that a document writes. -/
def ofDocument? (s : String) : Option Settings :=
  (Toml.parse? s).bind ofEntries?

end Settings
end AgentRelay
