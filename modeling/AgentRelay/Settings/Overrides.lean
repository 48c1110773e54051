import AgentRelay.Settings.Basic

/-!
# Overrides from the environment

Seven environment variables override one setting each.  Their names share a
first part, which is chosen by the caller.  The variables are read in a fixed
order, and the first one whose value is not understood ends the reading: the
settings then keep what the variables before it changed.

Main definitions:

- {lit}`SettingsError`: why settings cannot be had.
- {lit}`Override` and {lit}`overrides`: the variables and what they change.
- {lit}`Settings.override`: the settings after all overrides.
-/

namespace AgentRelay

/-! ## What can go wrong -/

/-- Why settings cannot be had. -/
inductive SettingsError where
  | unreadable (reason : String)
  | illFormed (reason : String)
  | invalidVariable (name value expected : String)
  | noHome
deriving DecidableEq, Repr

/-- The text shown for an error. -/
def SettingsError.message : SettingsError → String
  | .unreadable reason => "I/O error loading config: " ++ reason
  | .illFormed reason => "TOML parsing error: " ++ reason
  | .invalidVariable name value expected =>
    "Invalid value for $" ++ name ++ ": '" ++ value ++ "' (expected: " ++ expected ++ ")"
  | .noHome => "Cannot determine home directory"

/-! ## The variables -/

/-- A truth value given by hand: trimmed and in any case. -/
def flag? (s : String) : Option Bool :=
  let given := Text.asciiLower (Text.trim s)
  if given ∈ ["1", "true", "yes", "on"] then some true
  else if given ∈ ["0", "false", "no", "off"] then some false
  else none

/-- A variable that overrides a setting: the last part of its name, the values
it takes, and its effect, which is nothing for a value it does not take. -/
structure Override where
  suffix : String
  expected : String
  effect? : String → Settings → Option Settings

/-- The variables that override a setting, in the order they are read. -/
def overrides : List Override :=
  [⟨"BINARY", "any text", fun value s => some { s with binary := value }⟩,
   ⟨"MODEL", "any text", fun value s => some { s with model := some value }⟩,
   ⟨"AUTH_MODE", "chatgpt | api-key", fun value s =>
      (AuthMode.parse value).toOption.map fun mode => { s with authMode := mode }⟩,
   ⟨"API_KEY", "any text", fun value s => some { s with apiKey := some value }⟩,
   ⟨"SANDBOX", "read-only | workspace-write | danger-full-access", fun value s =>
      (SandboxMode.parse value).toOption.map fun mode => { s with sandbox := some mode }⟩,
   ⟨"OUTPUT_SCHEMA", "any text", fun value s => some { s with outputSchema := some value }⟩,
   ⟨"FULL_AUTO", "true | false", fun value s =>
      (flag? value).map fun on => { s with fullAuto := on }⟩]

namespace Override

/-- The full name of a variable. -/
def variableName (o : Override) (stem : String) : String :=
  stem ++ "_" ++ o.suffix

/-- The settings after one variable was read; one that is not set changes
nothing. -/
def run (o : Override) (stem : String) (lookup : String → Option String) (s : Settings) :
    Except SettingsError Settings :=
  match lookup (o.variableName stem) with
  | none => .ok s
  | some value =>
    match o.effect? value s with
    | some s => .ok s
    | none => .error (.invalidVariable (o.variableName stem) value o.expected)

/-- The settings after several variables were read in order, up to the first
one whose value is not understood. -/
def runAll (stem : String) (lookup : String → Option String) :
    List Override → Settings → Settings × Option SettingsError
  | [], s => (s, none)
  | o :: rest, s =>
    match o.run stem lookup s with
    | .ok s => runAll stem lookup rest s
    | .error e => (s, some e)

end Override

/-- The settings after all overrides, and the error that cut them short. -/
def Settings.override (s : Settings) (stem : String) (lookup : String → Option String) :
    Settings × Option SettingsError :=
  Override.runAll stem lookup overrides s

/-- Without any of the variables the settings stay as they are. -/
theorem Settings.override_of_lookup_eq_none (s : Settings) (stem : String) :
    s.override stem (fun _ => none) = (s, none) :=
  rfl

end AgentRelay
