import AgentRelay.CommandLine.Arguments
import AgentRelay.Settings.Basic

/-!
# Commands

A command is what the command line asks for: to stream an answer, to check the
tool, or to check the authentication.  It comes with overrides for the settings,
which count more than any other layer.

Main definitions:

- {lit}`Command` and {lit}`SettingsFlags`: what is asked for, and how.
- {lit}`CommandLine.parse`: the command line that arguments make.
- {lit}`SettingsFlags.override`: settings with overrides.
-/

namespace AgentRelay

/-! ## What is asked for -/

/-- How an answer is asked for: the prompt, unless it comes from the input, the
system prompt, and the form of the answer. -/
structure StreamOptions where
  prompt : Option String
  system : Option String
  json : Bool
  showReasoning : Bool
deriving DecidableEq, Repr

/-- What the command line asks for. -/
inductive Command where
  | stream (options : StreamOptions)
  | health (json : Bool)
  | auth (login : Bool) (json : Bool)
deriving DecidableEq, Repr

/-- Overrides for the settings, and the home directory to load them from. -/
structure SettingsFlags where
  home : Option String := none
  binary : Option String := none
  model : Option String := none
  authMode : Option AuthMode := none
  apiKey : Option String := none
  sandbox : Option SandboxMode := none
  outputSchema : Option String := none
  fullAuto : Bool := false
deriving DecidableEq, Repr

/-- A command line that was understood. -/
structure CommandLine where
  flags : SettingsFlags
  command : Command
deriving DecidableEq, Repr

/-! ## Understanding arguments -/

namespace Reading

/-- The overrides among the options. -/
def settingsFlags (r : Reading) : SettingsFlags where
  home := r.value? .home
  binary := r.value? .binary
  model := r.value? .model
  authMode := (r.value? .authMode).bind fun value => (AuthMode.parse value).toOption
  apiKey := r.value? .apiKey
  sandbox := (r.value? .sandbox).bind fun value => (SandboxMode.parse value).toOption
  outputSchema := r.value? .outputSchema
  fullAuto := (r.value? .fullAuto).isSome

/-- An option was given at the place reached. -/
def has (r : Reading) (flag : Flag) : Bool :=
  (r.given.lookup flag).isSome

/-- The command that the options belong to. -/
def command (r : Reading) : Command :=
  match r.place with
  | .top =>
    .stream ⟨r.top.lookup .prompt, r.top.lookup .system, r.has .json, r.has .showReasoning⟩
  | .health => .health (r.has .json)
  | .auth => .auth (r.has .login) (r.has .json)

end Reading

/-- The command line that arguments make. -/
def CommandLine.parse (args : List String) : Except Halt CommandLine :=
  (({} : Reading).run args).map fun r => ⟨r.settingsFlags, r.command⟩

/-! ## Overriding settings -/

/-- Settings with overrides: each setting is its override where there is one. -/
def SettingsFlags.override (f : SettingsFlags) (s : Settings) : Settings where
  binary := f.binary.getD s.binary
  model := f.model.or s.model
  authMode := f.authMode.getD s.authMode
  apiKey := f.apiKey.or s.apiKey
  sandbox := f.sandbox.or s.sandbox
  outputSchema := f.outputSchema.or s.outputSchema
  fullAuto := f.fullAuto || s.fullAuto
  extraEnv := s.extraEnv

end AgentRelay
