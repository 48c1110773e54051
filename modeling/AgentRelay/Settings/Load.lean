import AgentRelay.Settings.File
import AgentRelay.Settings.Overrides
import AgentRelay.Text.Utf8

/-!
# Loading settings

Settings come from three layers: the defaults, the settings file, which
replaces them as a whole, and the environment, whose variables override single
settings.  The file lies in a home directory: the one that is asked for, the one
named by a variable, or a fixed one below the user's own home.  A file that is
not there is no error.

Main definitions:

- {lit}`FileContent` and {lit}`Surroundings`: what loading can see.
- {lit}`LoadRequest`: where to load from, and which layers to leave out.
- {lit}`LoadRequest.load`: the settings, or why they cannot be had.
-/

namespace AgentRelay

/-! ## What loading can see -/

/-- What is found under a path. -/
inductive FileContent where
  | missing
  | unreadable (reason : String)
  | bytes (content : List UInt8)
deriving DecidableEq, Repr

/-- The environment, the files, and the home directory that the user account
has when no variable names one. -/
structure Surroundings where
  env : Environment
  fileAt : String → FileContent
  accountHome : Option String

/-- A path below a directory; the empty path stands for the current one. -/
def joinPath (dir name : String) : String :=
  if dir = "" then name
  else if dir.toList.getLast? = some '/' then dir ++ name
  else dir ++ "/" ++ name

/-- The user's home directory: the one that is set, unless it is empty, or else
the account's. -/
def Surroundings.userHome (w : Surroundings) : Option String :=
  ((w.env.get? "HOME").filter (· ≠ "")).or w.accountHome

/-! ## Loading -/

/-- Where settings are loaded from: a home directory, the first part of the
names of variables, and the layers to leave out. -/
structure LoadRequest where
  home : Option String := none
  stem : String := "CODEX_BRIDGE"
  skipFile : Bool := false
  skipEnv : Bool := false
deriving DecidableEq, Repr

namespace LoadRequest

/-- The directory of the settings file: the one asked for, the one that the home
variable names, or the fixed one below the user's home. -/
def homeDir (r : LoadRequest) (w : Surroundings) : Except SettingsError String :=
  match (r.home.or (w.env.get? (r.stem ++ "_HOME"))).or
      (w.userHome.map (joinPath · ".codex-bridge")) with
  | some dir => .ok dir
  | none => .error .noHome

/-- The settings in a file; a file that is not there holds the defaults. -/
def settingsIn : FileContent → Except SettingsError Settings
  | .missing => .ok {}
  | .unreadable reason => .error (.unreadable reason)
  | .bytes content =>
    match Text.Utf8.decode? content with
    | none => .error (.unreadable "stream did not contain valid UTF-8")
    | some text =>
      match Settings.ofDocument? text with
      | none => .error (.illFormed "the document holds no settings")
      | some s => .ok s

/-- The path of the settings file. -/
def filePath (r : LoadRequest) (w : Surroundings) : Except SettingsError String :=
  (r.homeDir w).map (joinPath · "config.toml")

/-- The settings of the file layer. -/
def fileLayer (r : LoadRequest) (w : Surroundings) : Except SettingsError Settings :=
  if r.skipFile then .ok {} else (r.filePath w).bind fun path => settingsIn (w.fileAt path)

/-- The variables that loading consults. -/
def variableNames (r : LoadRequest) : List String :=
  ["HOME", r.stem ++ "_HOME"] ++ overrides.map (·.variableName r.stem)

/-- The settings with the overrides of the environment. -/
def envLayer (r : LoadRequest) (w : Surroundings) (s : Settings) :
    Except SettingsError Settings :=
  if r.skipEnv then .ok s
  else
    match s.override r.stem w.env.get? with
    | (s, none) => .ok s
    | (_, some e) => .error e

/-- The settings of all layers. -/
def load (r : LoadRequest) (w : Surroundings) : Except SettingsError Settings :=
  (r.fileLayer w).bind (r.envLayer w)

/-- A home directory that is asked for is used whatever the surroundings. -/
theorem homeDir_of_home {r : LoadRequest} {dir : String} (h : r.home = some dir)
    (w : Surroundings) : r.homeDir w = .ok dir := by
  simp [homeDir, h]

/-- Where there is neither a file nor a variable the settings are the defaults. -/
theorem load_of_nothing {r : LoadRequest} {w : Surroundings} {dir : String}
    (hhome : r.homeDir w = .ok dir) (hfile : ∀ path, w.fileAt path = .missing)
    (henv : w.env = .empty) : r.load w = .ok {} := by
  have hlayer : r.fileLayer w = .ok {} := by
    simp [fileLayer, filePath, hhome, hfile, Except.map, Except.bind, settingsIn]
  have hnone : w.env.get? = fun _ => none := by
    rw [henv]
    rfl
  rw [load, hlayer, Except.bind, envLayer, hnone, Settings.override_of_lookup_eq_none]
  split <;> rfl

end LoadRequest
end AgentRelay
