import AgentRelay.Text.Blank
import AgentRelay.Text.Case

/-!
# Modes

The authentication mode says how the tool signs in, the sandbox mode how much
it may do.  Each mode has one name that is always written, and some are also
understood under other names.  Names given by hand are trimmed; those of
authentication modes are taken in any case, those of sandbox modes are not.

Main definitions:

- {lit}`AuthMode.parse` and {lit}`SandboxMode.parse`: a mode given by hand.
- {lit}`AuthMode.ofName?` and {lit}`SandboxMode.ofName?`: a mode in a stored
  record.
-/

namespace AgentRelay

/-- How the tool signs in. -/
inductive AuthMode where
  | chatGpt
  | apiKey
deriving DecidableEq, Repr

/-- How much the tool may do. -/
inductive SandboxMode where
  | readOnly
  | workspaceWrite
  | fullAccess
deriving DecidableEq, Repr

/-! ## Authentication modes -/

namespace AuthMode

/-- The name of a mode. -/
def name : AuthMode → String
  | .chatGpt => "chatgpt"
  | .apiKey => "api-key"

/-- The mode with a given name in a stored record. -/
def ofName? (s : String) : Option AuthMode :=
  if s = "chatgpt" ∨ s = "session" then some .chatGpt
  else if s = "api-key" then some .apiKey
  else none

/-- The mode with a given name, or with one of the other spellings. -/
def ofSpelling? (s : String) : Option AuthMode :=
  if s ∈ ["chatgpt", "chat-gpt", "session"] then some .chatGpt
  else if s ∈ ["api-key", "apikey", "api_key"] then some .apiKey
  else none

/-- A mode given by hand: trimmed, in any case and in any spelling. -/
def parse (s : String) : Except String AuthMode :=
  let given := Text.asciiLower (Text.trim s)
  match ofSpelling? given with
  | some mode => .ok mode
  | none => .error ("unknown auth mode '" ++ given ++ "'")

end AuthMode

/-! ## Sandbox modes -/

namespace SandboxMode

/-- The name of a mode. -/
def name : SandboxMode → String
  | .readOnly => "read-only"
  | .workspaceWrite => "workspace-write"
  | .fullAccess => "danger-full-access"

/-- The mode with a given name. -/
def ofName? (s : String) : Option SandboxMode :=
  [readOnly, workspaceWrite, fullAccess].find? fun mode => mode.name = s

/-- A mode given by hand: its name, trimmed. -/
def parse (s : String) : Except String SandboxMode :=
  match ofName? (Text.trim s) with
  | some mode => .ok mode
  | none => .error ("unknown sandbox mode '" ++ Text.trim s ++ "'")

/-- A mode is read back from its name. -/
@[simp]
theorem ofName?_name (mode : SandboxMode) : ofName? mode.name = some mode := by
  cases mode <;> decide

/-- Every mode has a name of its own. -/
theorem name_injective {a b : SandboxMode} (h : a.name = b.name) : a = b := by
  have := congrArg ofName? h
  simpa using this

end SandboxMode
end AgentRelay
