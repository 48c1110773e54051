import AgentRelay.Environment
import AgentRelay.Settings.Mode

/-!
# Settings

The settings say which tool is run, how it signs in and what it may do.  They
also hold variables that are set for every process of the tool; in API key mode
the key is one of them.

Main definitions:

- {lit}`Settings`: the settings with their defaults.
- {lit}`Settings.key?`: the key to sign in with.
- {lit}`Settings.toolEnv`: the variables that are set for the tool.
-/

namespace AgentRelay

/-- How the tool is run. -/
structure Settings where
  binary : String := "codex"
  model : Option String := none
  authMode : AuthMode := .chatGpt
  apiKey : Option String := none
  sandbox : Option SandboxMode := none
  outputSchema : Option String := none
  fullAuto : Bool := false
  extraEnv : Environment := .empty
deriving DecidableEq, Repr

instance : Inhabited Settings :=
  ⟨{}⟩

/-- The variable that carries the key. -/
def keyVariable : String :=
  "OPENAI_API_KEY"

namespace Settings

/-- The key to sign in with: trimmed, not blank, and only in API key mode. -/
def key? (s : Settings) : Option String :=
  match s.authMode with
  | .chatGpt => none
  | .apiKey => s.apiKey.bind Text.nonBlank?

/-- The variables that are set for the tool: the extra ones, and the key over
them when there is one. -/
def toolEnv (s : Settings) : Environment :=
  match s.key? with
  | some key => s.extraEnv.insert keyVariable key
  | none => s.extraEnv

/-- Without a key the extra variables are all there is. -/
theorem toolEnv_of_key?_eq_none {s : Settings} (h : s.key? = none) : s.toolEnv = s.extraEnv := by
  simp [toolEnv, h]

/-- The key is what its variable is set to. -/
theorem get?_toolEnv_of_key? {s : Settings} {key : String} (h : s.key? = some key) :
    s.toolEnv.get? keyVariable = some key := by
  simp [toolEnv, h]

/-- No other variable is touched. -/
theorem get?_toolEnv_of_ne (s : Settings) {name : String} (h : name ≠ keyVariable) :
    s.toolEnv.get? name = s.extraEnv.get? name := by
  unfold toolEnv
  split
  · exact Environment.get?_insert_of_ne _ h _
  · rfl

end Settings
end AgentRelay
