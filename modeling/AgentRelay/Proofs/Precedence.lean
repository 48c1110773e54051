import AgentRelay.CommandLine.Execute
import Mathlib

/-!
# Which layer a setting comes from

Settings have four layers: the options of the command line, the variables of the
environment, the settings file and the defaults.  For each setting on its own the first
layer that speaks of it decides, so no layer can change a setting by what it says about
another one.  The extra variables of the tool come from the file alone.

Main definitions:

- {lit}`SettingName`: the settings that every layer may speak of, with what each layer says.
- {lit}`SettingName.chosen`: the value of the first layer that speaks of a setting.
- {lit}`Layers`: the settings file that is loaded, with variables that are understood.

Main results:

- Theorem {lit}`SettingName.get_applyAll`: variables read one after the other change their own
  settings.
- Theorem {lit}`SettingName.get_of_ofEntries?`: a file leaves what it lacks at its default.
- Theorem {lit}`CommandLine.load_eq_chosen`: every setting comes from the first layer that
  speaks of it.
-/

namespace AgentRelay

/-! ## What the layers say -/

/-- The settings that every layer may speak of. -/
inductive SettingName where
  | binary
  | model
  | authMode
  | apiKey
  | sandbox
  | outputSchema
  | fullAuto
deriving DecidableEq

namespace SettingName

/-- The values of a setting. -/
abbrev Value : SettingName → Type
  | binary => String
  | model => Option String
  | authMode => AuthMode
  | apiKey => Option String
  | sandbox => Option SandboxMode
  | outputSchema => Option String
  | fullAuto => Bool

/-- The value that settings have. -/
def get (s : Settings) : (x : SettingName) → x.Value
  | binary => s.binary
  | model => s.model
  | authMode => s.authMode
  | apiKey => s.apiKey
  | sandbox => s.sandbox
  | outputSchema => s.outputSchema
  | fullAuto => s.fullAuto

/-- Settings with another value. -/
def set (s : Settings) : (x : SettingName) → x.Value → Settings
  | binary, value => { s with binary := value }
  | model, value => { s with model := value }
  | authMode, value => { s with authMode := value }
  | apiKey, value => { s with apiKey := value }
  | sandbox, value => { s with sandbox := value }
  | outputSchema, value => { s with outputSchema := value }
  | fullAuto, value => { s with fullAuto := value }

/-- What the options of the command line say; the last one can only be switched on. -/
def inFlags? (flags : SettingsFlags) : (x : SettingName) → Option x.Value
  | binary => flags.binary
  | model => flags.model.map some
  | authMode => flags.authMode
  | apiKey => flags.apiKey.map some
  | sandbox => flags.sandbox.map some
  | outputSchema => flags.outputSchema.map some
  | fullAuto => if flags.fullAuto then some true else none

/-- The last part of the name of the variable. -/
def suffix : SettingName → String
  | binary => "BINARY"
  | model => "MODEL"
  | authMode => "AUTH_MODE"
  | apiKey => "API_KEY"
  | sandbox => "SANDBOX"
  | outputSchema => "OUTPUT_SCHEMA"
  | fullAuto => "FULL_AUTO"

/-- What the text of the variable says; three of the settings are not free texts. -/
def ofVariable? (text : String) : (x : SettingName) → Option x.Value
  | binary => some text
  | model => some (some text)
  | authMode => (AuthMode.parse text).toOption
  | apiKey => some (some text)
  | sandbox => (SandboxMode.parse text).toOption.map some
  | outputSchema => some (some text)
  | fullAuto => flag? text

/-- The texts that the variable may hold, as they are named in an error. -/
def expected : SettingName → String
  | binary => "any text"
  | model => "any text"
  | authMode => "chatgpt | api-key"
  | apiKey => "any text"
  | sandbox => "read-only | workspace-write | danger-full-access"
  | outputSchema => "any text"
  | fullAuto => "true | false"

/-- What the environment says; the empty text says something too. -/
def inEnvironment? (stem : String) (lookup : String → Option String) (x : SettingName) :
    Option x.Value :=
  (lookup (stem ++ "_" ++ x.suffix)).bind fun text => x.ofVariable? text

/-- The name of the entry in the settings file. -/
def key : SettingName → String
  | binary => "binary_path"
  | model => "model"
  | authMode => "auth_mode"
  | apiKey => "api_key"
  | sandbox => "sandbox"
  | outputSchema => "output_schema"
  | fullAuto => "full_auto"

/-- What the value of the entry says. -/
def ofEntry? (value : Toml) : (x : SettingName) → Option x.Value
  | binary => value.string?
  | model => value.string?.map some
  | authMode => value.choice?.bind AuthMode.ofName?
  | apiKey => value.string?.map some
  | sandbox => (value.choice?.bind SandboxMode.ofName?).map some
  | outputSchema => value.string?.map some
  | fullAuto => value.boolean?

/-- What the settings file says. -/
def inFile? (entries : Toml.Entries) (x : SettingName) : Option x.Value :=
  (entries.lookup x.key).bind fun value => x.ofEntry? value

/-- The value of the first layer that speaks of a setting. -/
def chosen (flags : SettingsFlags) (stem : String) (env : Environment) (entries : Toml.Entries)
    (x : SettingName) : x.Value :=
  (((x.inFlags? flags).or (x.inEnvironment? stem env.get?)).or (x.inFile? entries)).getD (x.get {})

/-- The settings in the order in which their variables are read. -/
def all : List SettingName :=
  [binary, model, authMode, apiKey, sandbox, outputSchema, fullAuto]

/-! ## One setting at a time -/

@[simp]
theorem get_set_self (x : SettingName) (s : Settings) (value : x.Value) :
    x.get (x.set s value) = value := by
  cases x <;> rfl

/-- Changing one setting leaves the others alone. -/
theorem get_set_of_ne {x y : SettingName} (h : y ≠ x) (s : Settings) (value : x.Value) :
    y.get (x.set s value) = y.get s := by
  cases x <;> cases y <;> simp [get, set] at h ⊢

@[simp]
theorem extraEnv_set (x : SettingName) (s : Settings) (value : x.Value) :
    (x.set s value).extraEnv = s.extraEnv := by
  cases x <;> rfl

/-! ## Options of the command line -/

/-- Every setting is what the options say, or else what it was. -/
theorem get_override (x : SettingName) (flags : SettingsFlags) (s : Settings) :
    x.get (flags.override s) = (x.inFlags? flags).getD (x.get s) := by
  cases x with
  | binary => rfl
  | authMode => rfl
  | fullAuto => cases hflag : flags.fullAuto <;> simp [get, inFlags?, SettingsFlags.override, hflag]
  | model => cases hflag : flags.model <;> simp [get, inFlags?, SettingsFlags.override, hflag]
  | apiKey => cases hflag : flags.apiKey <;> simp [get, inFlags?, SettingsFlags.override, hflag]
  | sandbox => cases hflag : flags.sandbox <;> simp [get, inFlags?, SettingsFlags.override, hflag]
  | outputSchema =>
    cases hflag : flags.outputSchema <;> simp [get, inFlags?, SettingsFlags.override, hflag]

/-! ## Variables of the environment -/

section Variables

variable (stem : String) (lookup : String → Option String)

/-- The variable of a setting as one of the overrides. -/
def toOverride (x : SettingName) : Override :=
  ⟨x.suffix, x.expected, fun text s => (x.ofVariable? text).map (x.set s)⟩

/-- The overrides are the variables of the settings, in order. -/
theorem overrides_eq_map_toOverride : overrides = all.map toOverride := by
  have hsandbox : (fun text s => (ofVariable? text sandbox).map (set s sandbox)) =
      fun text (s : Settings) =>
        (SandboxMode.parse text).toOption.map fun mode => { s with sandbox := some mode } := by
    funext text s
    simp [ofVariable?, set, Function.comp_def]
  simp only [all, List.map_cons, List.map_nil, toOverride, hsandbox]
  rfl

/-- Settings after one variable was read. -/
def apply (s : Settings) (x : SettingName) : Settings :=
  match x.inEnvironment? stem lookup with
  | some value => x.set s value
  | none => s

/-- The variable of a setting is not set, or it is set to a text that is understood. -/
def Understood (x : SettingName) : Prop :=
  ∀ text, lookup (stem ++ "_" ++ x.suffix) = some text → (x.ofVariable? text).isSome

variable {stem lookup}

/-- A variable that is understood is applied. -/
theorem run_toOverride {x : SettingName} (h : x.Understood stem lookup) (s : Settings) :
    x.toOverride.run stem lookup s = .ok (apply stem lookup s x) := by
  have hname : x.toOverride.variableName stem = stem ++ "_" ++ x.suffix := rfl
  unfold Override.run
  rw [hname]
  cases hset : lookup (stem ++ "_" ++ x.suffix) with
  | none => simp [apply, inEnvironment?, hset]
  | some text =>
    obtain ⟨value, hvalue⟩ := Option.isSome_iff_exists.1 (h text hset)
    simp [toOverride, apply, inEnvironment?, hset, hvalue]

/-- Variables that are understood are applied one after the other, before those behind them are
read. -/
theorem runAll_map_append {xs : List SettingName} (h : ∀ x ∈ xs, x.Understood stem lookup)
    (rest : List SettingName) (s : Settings) :
    Override.runAll stem lookup ((xs ++ rest).map toOverride) s =
      Override.runAll stem lookup (rest.map toOverride) (xs.foldl (apply stem lookup) s) := by
  induction xs generalizing s with
  | nil => rfl
  | cons x xs ih =>
    rw [List.forall_mem_cons] at h
    rw [List.cons_append, List.map_cons, Override.runAll, run_toOverride h.1]
    exact ih h.2 _

theorem mem_all (x : SettingName) : x ∈ all := by
  cases x <;> decide

/-- Where all variables are understood they are all applied. -/
theorem override_of_understood (h : ∀ x : SettingName, x.Understood stem lookup) (s : Settings) :
    s.override stem lookup = (all.foldl (apply stem lookup) s, none) := by
  have hrun := runAll_map_append (fun x (_ : x ∈ all) => h x) [] s
  rw [List.append_nil] at hrun
  rw [Settings.override, overrides_eq_map_toOverride, hrun]
  rfl

/-- A variable decides its own setting, where it is set. -/
theorem get_apply_self (x : SettingName) (s : Settings) :
    x.get (apply stem lookup s x) = (x.inEnvironment? stem lookup).getD (x.get s) := by
  unfold apply
  cases x.inEnvironment? stem lookup with
  | none => rfl
  | some value => exact get_set_self x s value

theorem get_apply_of_ne {x y : SettingName} (h : y ≠ x) (s : Settings) :
    y.get (apply stem lookup s x) = y.get s := by
  unfold apply
  cases x.inEnvironment? stem lookup with
  | none => rfl
  | some value => exact get_set_of_ne h s value

/-- Variables read one after the other decide their own settings, whatever the order. -/
theorem get_applyAll (xs : List SettingName) (y : SettingName) (s : Settings) :
    y.get (xs.foldl (apply stem lookup) s) =
      if y ∈ xs then (y.inEnvironment? stem lookup).getD (y.get s) else y.get s := by
  induction xs generalizing s with
  | nil => rfl
  | cons x xs ih =>
    rw [List.foldl_cons, ih]
    by_cases hxy : y = x
    · subst hxy
      rw [get_apply_self]
      cases y.inEnvironment? stem lookup <;> simp
    · rw [get_apply_of_ne hxy]
      simp [hxy]

theorem extraEnv_applyAll (xs : List SettingName) (s : Settings) :
    (xs.foldl (apply stem lookup) s).extraEnv = s.extraEnv := by
  induction xs generalizing s with
  | nil => rfl
  | cons x xs ih =>
    rw [List.foldl_cons, ih]
    unfold apply
    cases x.inEnvironment? stem lookup with
    | none => rfl
    | some value => exact extraEnv_set x s value

end Variables

/-! ## Entries of the settings file -/

/-- An entry that was read is what the file says, or else the default. -/
theorem eq_getD_of_entryOr? {α : Type} {entries : Toml.Entries} {name : String}
    {read : Toml → Option α} {default value : α}
    (h : Toml.entryOr? entries name read default = some value) :
    value = ((entries.lookup name).bind read).getD default := by
  unfold Toml.entryOr? at h
  split at h
  · next hlookup =>
    cases h
    simp [hlookup]
  · next entry hlookup => simp [hlookup, h]

/-- The extra variables that a settings file sets. -/
def extraEnvIn (entries : Toml.Entries) : Environment :=
  ((entries.lookup "extra_env").bind Environment.ofToml?).getD .empty

/-- Settings in a file are what it says, and their defaults where it says nothing. -/
theorem get_of_ofEntries? {entries : Toml.Entries} {s : Settings}
    (h : Settings.ofEntries? entries = some s) :
    (∀ x : SettingName, x.get s = (x.inFile? entries).getD (x.get {})) ∧
      s.extraEnv = extraEnvIn entries := by
  simp only [Settings.ofEntries?, Option.bind_eq_bind, Option.bind_eq_some_iff] at h
  obtain ⟨binary, hbinary, model, hmodel, authMode, hauthMode, apiKey, hapiKey, sandbox, hsandbox,
    outputSchema, houtputSchema, fullAuto, hfullAuto, extraEnv, hextraEnv, hs⟩ := h
  cases hs
  refine ⟨?_, eq_getD_of_entryOr? hextraEnv⟩
  intro x
  cases x with
  | binary => exact eq_getD_of_entryOr? hbinary
  | model => exact eq_getD_of_entryOr? hmodel
  | authMode => exact eq_getD_of_entryOr? hauthMode
  | apiKey => exact eq_getD_of_entryOr? hapiKey
  | sandbox => exact eq_getD_of_entryOr? hsandbox
  | outputSchema => exact eq_getD_of_entryOr? houtputSchema
  | fullAuto => exact eq_getD_of_entryOr? hfullAuto

end SettingName

/-! ## All layers -/

/-- The entries of a settings file; a file that is not there has none. -/
def FileContent.entries? : FileContent → Option Toml.Entries
  | .missing => some []
  | .unreadable _ => none
  | .bytes content => (Text.Utf8.decode? content).bind Toml.parse?

/-- The settings that are loaded from a file are those in its entries. -/
theorem LoadRequest.settingsIn_eq_ok {content : FileContent} {entries : Toml.Entries}
    {s : Settings} (hentries : content.entries? = some entries)
    (hs : Settings.ofEntries? entries = some s) : LoadRequest.settingsIn content = .ok s := by
  cases content with
  | missing =>
    cases hentries
    cases hs
    rfl
  | unreadable reason => cases hentries
  | bytes bytes =>
    obtain ⟨text, htext, hparse⟩ := Option.bind_eq_some_iff.1 hentries
    simp [settingsIn, htext, Settings.ofDocument?, hparse, hs]

/-- What loading finds: a home directory, which is the one asked for, else the one that the
variable names, else the fixed one below the user's home; in it a settings file with settings,
or none; and variables that are understood, where only three take more than free texts. -/
structure Layers (r : LoadRequest) (w : Surroundings) (dir : String)
    (entries : Toml.Entries) : Prop where
  home : (r.home.or (w.env.get? (r.stem ++ "_HOME"))).or
    (w.userHome.map (joinPath · ".codex-bridge")) = some dir
  file : (w.fileAt (joinPath dir "config.toml")).entries? = some entries
  settings : (Settings.ofEntries? entries).isSome
  authMode : ∀ text, w.env.get? (r.stem ++ "_AUTH_MODE") = some text →
    (AuthMode.parse text).toOption.isSome
  sandbox : ∀ text, w.env.get? (r.stem ++ "_SANDBOX") = some text →
    (SandboxMode.parse text).toOption.isSome
  fullAuto : ∀ text, w.env.get? (r.stem ++ "_FULL_AUTO") = some text → (flag? text).isSome

section Layers

variable {r : LoadRequest} {w : Surroundings} {dir : String} {entries : Toml.Entries}

/-- Every variable is understood, the free texts included. -/
theorem Layers.understood (h : Layers r w dir entries) (x : SettingName) :
    x.Understood r.stem w.env.get? := by
  intro text hset
  have hname : ∀ suffix : String, r.stem ++ "_" ++ suffix = r.stem ++ ("_" ++ suffix) :=
    fun suffix => String.append_assoc
  rw [hname] at hset
  cases x with
  | binary => rfl
  | model => rfl
  | authMode => exact h.authMode text hset
  | apiKey => rfl
  | sandbox =>
    rw [SettingName.ofVariable?, Option.isSome_map]
    exact h.sandbox text hset
  | outputSchema => rfl
  | fullAuto => exact h.fullAuto text hset

/-- The file layer is the settings in the file of the home directory. -/
theorem Layers.fileLayer_eq (h : Layers r w dir entries) (hfile : r.skipFile = false)
    {s : Settings} (hs : Settings.ofEntries? entries = some s) : r.fileLayer w = .ok s := by
  have hpath : r.filePath w = .ok (joinPath dir "config.toml") := by
    simp [LoadRequest.filePath, LoadRequest.homeDir, h.home, Except.map]
  have hsettings := LoadRequest.settingsIn_eq_ok h.file hs
  simp [LoadRequest.fileLayer, hfile, hpath, Except.bind, hsettings]

/-- The environment layer applies all variables. -/
theorem Layers.envLayer_eq (h : Layers r w dir entries) (henv : r.skipEnv = false)
    (s : Settings) :
    r.envLayer w s =
      .ok (SettingName.all.foldl (SettingName.apply r.stem w.env.get?) s) := by
  simp [LoadRequest.envLayer, henv, SettingName.override_of_understood h.understood]

end Layers

/-- The settings that a command line loads are those that the layers choose. -/
theorem Layers.exists_load {c : CommandLine} {w : Surroundings} {dir : String}
    {entries : Toml.Entries} (h : Layers c.loadRequest w dir entries) :
    ∃ s, c.load w = .ok s ∧
      (∀ x : SettingName, x.get s = x.chosen c.flags "CODEX_BRIDGE" w.env entries) ∧
        s.extraEnv = SettingName.extraEnvIn entries := by
  obtain ⟨stored, hstored⟩ := Option.isSome_iff_exists.1 h.settings
  obtain ⟨hvalues, hextraEnv⟩ := SettingName.get_of_ofEntries? hstored
  have hload : c.loadRequest.load w =
      .ok (SettingName.all.foldl (SettingName.apply "CODEX_BRIDGE" w.env.get?) stored) := by
    unfold LoadRequest.load
    rw [h.fileLayer_eq rfl hstored]
    exact h.envLayer_eq rfl stored
  refine ⟨_, by rw [CommandLine.load, hload]; rfl, ?_, ?_⟩
  · intro x
    rw [SettingName.get_override, SettingName.get_applyAll, if_pos x.mem_all, hvalues x]
    unfold SettingName.chosen
    cases x.inFlags? c.flags <;> cases x.inEnvironment? "CODEX_BRIDGE" w.env.get? <;> rfl
  · have hflags : ∀ s : Settings, (c.flags.override s).extraEnv = s.extraEnv := fun _ => rfl
    rw [hflags, SettingName.extraEnv_applyAll, hextraEnv]

/-- Two command lines, environments and settings files say the same about a setting. -/
structure SettingName.SaidAlike (x : SettingName) (flags flags' : SettingsFlags)
    (env env' : Environment) (entries entries' : Toml.Entries) : Prop where
  inFlags : x.inFlags? flags = x.inFlags? flags'
  inEnvironment : x.inEnvironment? "CODEX_BRIDGE" env.get? =
    x.inEnvironment? "CODEX_BRIDGE" env'.get?
  inFile : x.inFile? entries = x.inFile? entries'

/-- Settings are loaded whatever the options say, and each one is what the first layer says
that speaks of it: the options, the environment, the file of the home directory, the defaults.
The extra variables come from the file.  So whatever else is said in any layer, a setting of
which all layers say the same stays the same. -/
theorem CommandLine.load_eq_chosen {c : CommandLine} {w : Surroundings} {dir : String}
    {entries : Toml.Entries} (h : Layers c.loadRequest w dir entries) :
    ∃ s, c.load w = .ok s ∧
      (∀ x : SettingName, x.get s = x.chosen c.flags "CODEX_BRIDGE" w.env entries) ∧
      s.extraEnv = SettingName.extraEnvIn entries ∧
      ∀ (c' : CommandLine) (w' : Surroundings) (dir' : String) (entries' : Toml.Entries)
        (s' : Settings), Layers c'.loadRequest w' dir' entries' → c'.load w' = .ok s' →
        (∀ x : SettingName, x.SaidAlike c.flags c'.flags w.env w'.env entries entries' →
          x.get s' = x.get s) ∧
        (entries.lookup "extra_env" = entries'.lookup "extra_env" →
          s'.extraEnv = s.extraEnv) := by
  obtain ⟨s, hload, hvalues, hextraEnv⟩ := h.exists_load
  refine ⟨s, hload, hvalues, hextraEnv, ?_⟩
  intro c' w' dir' entries' s' h' hload'
  obtain ⟨t, hload'', hvalues', hextraEnv'⟩ := h'.exists_load
  obtain rfl : t = s' := by
    rw [hload'] at hload''
    exact (Except.ok.inj hload'').symm
  constructor
  · intro x halike
    rw [hvalues x, hvalues' x]
    unfold SettingName.chosen
    rw [halike.inFlags, halike.inEnvironment, halike.inFile]
  · intro hentry
    rw [hextraEnv, hextraEnv', SettingName.extraEnvIn, SettingName.extraEnvIn, hentry]

/-! ### Four layers at once -/

/-- A settings file that names the model and the sandbox mode, and sets one variable. -/
def sampleDocument : String :=
  "model = \"m\"\nsandbox = \"read-only\"\n[extra_env]\nA = \"1\"\n"

/-- The entries of the sample file. -/
def sampleEntries : Toml.Entries :=
  [("model", .string "m"), ("sandbox", .string "read-only"),
    ("extra_env", .table .header [("A", .string "1")])]

/-- The sample file below a directory that a variable names, with an empty key and a mode that
needs trimming among the variables. -/
def sampleSurroundings : Surroundings where
  env := ⟨[("CODEX_BRIDGE_HOME", "h"), ("CODEX_BRIDGE_MODEL", "n"), ("CODEX_BRIDGE_API_KEY", ""),
    ("CODEX_BRIDGE_AUTH_MODE", " API-KEY ")]⟩
  fileAt path := if path = "h/config.toml" then .bytes (Text.Utf8.encode sampleDocument)
    else .missing
  accountHome := none

/-- A command line that names another model and gives the tool its head. -/
def sampleLine : CommandLine where
  flags := { model := some "o", fullAuto := true }
  command := .health false

/-- The model comes from the options, the empty key and the mode from the environment, the
sandbox mode and the extra variable from the file, and the binary is the default. -/
theorem CommandLine.load_of_four_layers :
    Layers sampleLine.loadRequest sampleSurroundings "h" sampleEntries ∧
      ∃ s, sampleLine.load sampleSurroundings = .ok s ∧
        s.model = some "o" ∧ s.fullAuto = true ∧ s.apiKey = some "" ∧ s.authMode = .apiKey ∧
        s.sandbox = some .readOnly ∧ s.binary = "codex" ∧ s.extraEnv = ⟨[("A", "1")]⟩ := by
  have layers : Layers sampleLine.loadRequest sampleSurroundings "h" sampleEntries := {
    home := rfl
    file := by cbv
    settings := rfl
    authMode := by
      intro text hset
      cases hset
      rfl
    sandbox := by
      intro text hset
      cases hset
    fullAuto := by
      intro text hset
      cases hset }
  refine ⟨layers, ?_⟩
  obtain ⟨s, hload, hvalues, hextraEnv, -⟩ := CommandLine.load_eq_chosen layers
  exact ⟨s, hload, hvalues .model, hvalues .fullAuto, hvalues .apiKey, hvalues .authMode,
    hvalues .sandbox, hvalues .binary, hextraEnv⟩

end AgentRelay
