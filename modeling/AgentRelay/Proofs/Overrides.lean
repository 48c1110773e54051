import AgentRelay.Proofs.Precedence

/-!
# Variables that cut the overrides short

The variables that override settings are read in order.  Three of them take certain words only,
and the first one that holds another text ends the reading: the error names it with the text as
it stands, the settings before it are overridden, and its own and all later ones are as they
were.  Without such a variable every setting is what its variable says, and reading the
variables once more changes nothing.

Main definitions:

- {lit}`SettingName.Rejects`: the texts that a setting does not take.
- {lit}`SettingName.FirstRejected`: the first variable with such a text.
- {lit}`SettingName.Overridden`: a setting is what its variable says, if that is set.

Main results:

- Theorem {lit}`SettingName.rejects_iff`: exactly these texts are not understood.
- Theorem {lit}`SettingName.override_of_firstRejected`: the settings and the error when the
  reading is cut short.
- Theorem {lit}`Settings.override_up_to_firstRejected`: when the reading is cut short, and what
  it leaves behind in either case.
-/

namespace AgentRelay

namespace SettingName

/-! ## Texts that a setting does not take -/

/-- The full name of the variable of a setting. -/
abbrev variableName (x : SettingName) (stem : String) : String :=
  stem ++ "_" ++ x.suffix

/-- The texts that a setting does not take: all but certain words, which may have blank
characters around them.  The letters of sandbox modes have to be small. -/
inductive Rejects : SettingName → String → Prop where
  | authMode {text : String} (h : Text.asciiLower (Text.trim text) ∉
      ["chatgpt", "chat-gpt", "session", "api-key", "apikey", "api_key"]) : Rejects authMode text
  | sandbox {text : String} (h : Text.trim text ∉
      ["read-only", "workspace-write", "danger-full-access"]) : Rejects sandbox text
  | fullAuto {text : String} (h : Text.asciiLower (Text.trim text) ∉
      ["1", "true", "yes", "on", "0", "false", "no", "off"]) : Rejects fullAuto text

/-- A choice between two lists of words is left open by all other words. -/
theorem chosen_eq_none_iff (a b : α) (word : String) (words words' : List String) :
    (if word ∈ words then some a else if word ∈ words' then some b else none) = none ↔
      word ∉ words ++ words' := by
  by_cases h : word ∈ words
  · simp [h]
  · by_cases h' : word ∈ words' <;> simp [h, h']

theorem rejects_authMode_iff (text : String) :
    Rejects authMode text ↔ AuthMode.ofSpelling? (Text.asciiLower (Text.trim text)) = none := by
  rw [AuthMode.ofSpelling?, chosen_eq_none_iff]
  constructor
  · rintro (h | _ | _)
    exact h
  · exact .authMode

theorem rejects_sandbox_iff (text : String) :
    Rejects sandbox text ↔ SandboxMode.ofName? (Text.trim text) = none := by
  have hwords : SandboxMode.ofName? (Text.trim text) = none ↔
      Text.trim text ∉ ["read-only", "workspace-write", "danger-full-access"] := by
    simp only [SandboxMode.ofName?, List.find?_eq_none, decide_eq_true_eq]
    simp [SandboxMode.name, eq_comm]
  rw [hwords]
  constructor
  · rintro (_ | h | _)
    exact h
  · exact .sandbox

theorem rejects_fullAuto_iff (text : String) : Rejects fullAuto text ↔ flag? text = none := by
  have hflag : flag? text = if Text.asciiLower (Text.trim text) ∈ ["1", "true", "yes", "on"]
      then some true else if Text.asciiLower (Text.trim text) ∈ ["0", "false", "no", "off"]
      then some false else none := rfl
  rw [hflag, chosen_eq_none_iff]
  constructor
  · rintro (_ | _ | h)
    exact h
  · exact .fullAuto

/-- A setting does not take a text exactly if it is not understood. -/
theorem rejects_iff (x : SettingName) (text : String) :
    x.Rejects text ↔ x.ofVariable? text = none := by
  cases x with
  | binary => exact ⟨nofun, nofun⟩
  | model => exact ⟨nofun, nofun⟩
  | apiKey => exact ⟨nofun, nofun⟩
  | outputSchema => exact ⟨nofun, nofun⟩
  | authMode =>
    rw [rejects_authMode_iff, ofVariable?, AuthMode.parse]
    cases AuthMode.ofSpelling? (Text.asciiLower (Text.trim text)) <;> simp [Except.toOption]
  | sandbox =>
    rw [rejects_sandbox_iff, ofVariable?, SandboxMode.parse]
    cases SandboxMode.ofName? (Text.trim text) <;> simp [Except.toOption]
  | fullAuto => exact rejects_fullAuto_iff text

/-! ## The first variable with such a text -/

section Variables

variable {stem : String} {lookup : String → Option String}

theorem understood_iff (x : SettingName) : x.Understood stem lookup ↔
    ∀ text, lookup (x.variableName stem) = some text → ¬ x.Rejects text := by
  simp only [Understood, rejects_iff, Option.isSome_iff_ne_none, ne_eq]

/-- The first variable, in the order of reading, that holds a text which its setting does not
take. -/
structure FirstRejected (stem : String) (lookup : String → Option String)
    (before : List SettingName) (x : SettingName) (after : List SettingName) (text : String) :
    Prop where
  order : all = before ++ x :: after
  holds : lookup (x.variableName stem) = some text
  rejects : x.Rejects text
  earlier : ∀ y ∈ before, ∀ text, lookup (y.variableName stem) = some text → ¬ y.Rejects text

/-- A setting is what its variable says, and what it was if the variable is not set. -/
structure Overridden (stem : String) (lookup : String → Option String) (s t : Settings)
    (x : SettingName) : Prop where
  of_set : ∀ text, lookup (x.variableName stem) = some text →
    x.ofVariable? text = some (x.get t)
  of_unset : lookup (x.variableName stem) = none → x.get t = x.get s

/-- A variable that is understood and has been read decides its setting. -/
theorem overridden_applyAll {x : SettingName} {xs : List SettingName} (hmem : x ∈ xs)
    (h : x.Understood stem lookup) (s : Settings) :
    x.Overridden stem lookup s (xs.foldl (apply stem lookup) s) where
  of_set := by
    intro text hset
    obtain ⟨value, hvalue⟩ := Option.isSome_iff_exists.1 (h text hset)
    rw [get_applyAll, if_pos hmem, inEnvironment?, hset, Option.bind_some, hvalue,
      Option.getD_some]
  of_unset := by
    intro hunset
    rw [get_applyAll, if_pos hmem, inEnvironment?, hunset, Option.bind_none, Option.getD_none]

/-- Among settings in order there is none with a text that it does not take, or a first one. -/
theorem forall_understood_or_exists_first (xs : List SettingName) :
    (∀ x ∈ xs, x.Understood stem lookup) ∨
      ∃ before x after text, xs = before ++ x :: after ∧
        lookup (x.variableName stem) = some text ∧ x.Rejects text ∧
        ∀ y ∈ before, y.Understood stem lookup := by
  induction xs with
  | nil => exact .inl nofun
  | cons x xs ih =>
    by_cases hx : x.Understood stem lookup
    · rcases ih with hall | ⟨before, y, after, text, rfl, hset, hrejects, hbefore⟩
      · exact .inl (List.forall_mem_cons.2 ⟨hx, hall⟩)
      · exact .inr ⟨x :: before, y, after, text, rfl, hset, hrejects,
          List.forall_mem_cons.2 ⟨hx, hbefore⟩⟩
    · simp only [understood_iff, not_forall, not_not] at hx
      obtain ⟨text, hset, hrejects⟩ := hx
      exact .inr ⟨[], x, xs, text, rfl, hset, hrejects, nofun⟩

theorem FirstRejected.understood {before after : List SettingName} {x : SettingName}
    {text : String} (h : FirstRejected stem lookup before x after text) :
    ∀ y ∈ before, y.Understood stem lookup :=
  fun y hy => (understood_iff y).2 (h.earlier y hy)

/-! ## Reading the variables -/

/-- The first text that is not taken ends the reading: the variables before it are applied, and
the error names the variable with its text. -/
theorem override_of_firstRejected {before after : List SettingName} {x : SettingName}
    {text : String} (h : FirstRejected stem lookup before x after text) (s : Settings) :
    s.override stem lookup = (before.foldl (apply stem lookup) s,
      some (.invalidVariable (x.variableName stem) text x.expected)) := by
  have hrun : ∀ s, x.toOverride.run stem lookup s =
      .error (.invalidVariable (x.variableName stem) text x.expected) := by
    intro s
    have hset : lookup (x.toOverride.variableName stem) = some text := h.holds
    have heffect : x.toOverride.effect? text s = (x.ofVariable? text).map (x.set s) := rfl
    rw [(x.rejects_iff text).1 h.rejects, Option.map_none] at heffect
    simp only [Override.run, hset, heffect]
    rfl
  rw [Settings.override, overrides_eq_map_toOverride, h.order, runAll_map_append h.understood,
    List.map_cons, Override.runAll, hrun]

end Variables

/-- Where two environments agree on the variables that are read, the outcome is the same. -/
theorem override_congr {stem : String} {lookup lookup' : String → Option String}
    (h : ∀ x : SettingName, lookup' (x.variableName stem) = lookup (x.variableName stem))
    (s : Settings) : s.override stem lookup' = s.override stem lookup := by
  have hrun : ∀ (x : SettingName) (s : Settings),
      x.toOverride.run stem lookup' s = x.toOverride.run stem lookup s := by
    intro x s
    have hname : lookup' (x.toOverride.variableName stem) =
        lookup (x.toOverride.variableName stem) := h x
    rw [Override.run, Override.run, hname]
  rw [Settings.override, Settings.override, overrides_eq_map_toOverride]
  generalize all = xs
  induction xs generalizing s with
  | nil => rfl
  | cons x xs ih =>
    rw [List.map_cons, Override.runAll, Override.runAll, hrun]
    cases x.toOverride.run stem lookup s with
    | ok s => exact ih s
    | error e => rfl

/-- Settings with the same values and the same extra variables are the same. -/
theorem eq_of_get_eq {s t : Settings} (h : ∀ x : SettingName, x.get s = x.get t)
    (henv : s.extraEnv = t.extraEnv) : s = t := by
  obtain ⟨_, _, _, _, _, _, _, _⟩ := s
  obtain ⟨_, _, _, _, _, _, _, _⟩ := t
  cases h .binary
  cases h .model
  cases h .authMode
  cases h .apiKey
  cases h .sandbox
  cases h .outputSchema
  cases h .fullAuto
  cases henv
  rfl

/-- Variables that have been applied change nothing when they are applied again. -/
theorem applyAll_applyAll (stem : String) (lookup : String → Option String)
    (xs : List SettingName) (s : Settings) :
    xs.foldl (apply stem lookup) (xs.foldl (apply stem lookup) s) =
      xs.foldl (apply stem lookup) s := by
  apply eq_of_get_eq
  · intro x
    rw [get_applyAll, get_applyAll]
    by_cases hx : x ∈ xs
    · cases x.inEnvironment? stem lookup <;> simp [hx]
    · simp [hx]
  · exact extraEnv_applyAll xs _

theorem nodup_all : all.Nodup := by
  decide

/-! ## What reading leaves behind -/

section Outcome

variable {stem : String} {lookup : String → Option String}

/-- All variables are understood, or there is a first one that is not. -/
theorem firstRejected_cases (stem : String) (lookup : String → Option String) :
    (∀ x : SettingName, x.Understood stem lookup) ∨
      ∃ before x after text, FirstRejected stem lookup before x after text := by
  rcases forall_understood_or_exists_first all with
    hall | ⟨before, x, after, text, horder, hset, hrejects, hbefore⟩
  · exact .inl fun x => hall x (mem_all x)
  · exact .inr ⟨before, x, after, text, horder, hset, hrejects,
      fun y hy => (understood_iff y).1 (hbefore y hy)⟩

/-- Reading fails exactly if a variable holds a text that its setting does not take. -/
theorem error_override_ne_none_iff (s : Settings) :
    (s.override stem lookup).2 ≠ none ↔ ∃ (x : SettingName) (text : String),
      lookup (x.variableName stem) = some text ∧ x.Rejects text := by
  rcases firstRejected_cases stem lookup with hall | ⟨before, x, after, text, hfirst⟩
  · rw [override_of_understood hall]
    constructor
    · exact fun hne => absurd rfl hne
    · rintro ⟨x, text, hset, hrejects⟩
      exact absurd hrejects ((understood_iff x).1 (hall x) text hset)
  · rw [override_of_firstRejected hfirst]
    constructor
    · exact fun _ => ⟨x, text, hfirst.holds, hfirst.rejects⟩
    · exact fun _ => Option.some_ne_none _

/-- The error names the first variable that is not understood. -/
theorem error_override_eq_some_iff (s : Settings) (e : SettingsError) :
    (s.override stem lookup).2 = some e ↔ ∃ before x after text,
      FirstRejected stem lookup before x after text ∧
        e = .invalidVariable (x.variableName stem) text x.expected := by
  constructor
  · intro he
    rcases firstRejected_cases stem lookup with hall | ⟨before, x, after, text, hfirst⟩
    · rw [override_of_understood hall] at he
      cases he
    · rw [override_of_firstRejected hfirst] at he
      cases he
      exact ⟨before, x, after, text, hfirst, rfl⟩
  · rintro ⟨before, x, after, text, hfirst, rfl⟩
    rw [override_of_firstRejected hfirst]

/-- Before the first variable that is not understood all settings are overridden, and from it on
they are as they were. -/
theorem get_override_of_firstRejected {before after : List SettingName} {x : SettingName}
    {text : String} (h : FirstRejected stem lookup before x after text) (s : Settings) :
    (∀ y ∈ before, y.Overridden stem lookup s (s.override stem lookup).1) ∧
      ∀ y ∈ x :: after, y.get (s.override stem lookup).1 = y.get s := by
  rw [override_of_firstRejected h]
  constructor
  · intro y hy
    exact overridden_applyAll hy (h.understood y hy) s
  · intro y hy
    have hnodup := nodup_all
    rw [h.order, List.nodup_append] at hnodup
    have hnotMem : y ∉ before := fun hbefore => hnodup.2.2 y hbefore y hy rfl
    rw [get_applyAll, if_neg hnotMem]

/-- Without an error all settings are overridden, for good. -/
theorem overridden_of_no_error {s : Settings} (h : (s.override stem lookup).2 = none) :
    (∀ x : SettingName, x.Overridden stem lookup s (s.override stem lookup).1) ∧
      (s.override stem lookup).1.override stem lookup = s.override stem lookup := by
  rcases firstRejected_cases stem lookup with hall | ⟨before, x, after, text, hfirst⟩
  · simp only [override_of_understood hall, applyAll_applyAll, and_true]
    exact fun x => overridden_applyAll (mem_all x) (hall x) s
  · rw [override_of_firstRejected hfirst] at h
    cases h

theorem extraEnv_override (s : Settings) : (s.override stem lookup).1.extraEnv = s.extraEnv := by
  rcases firstRejected_cases stem lookup with hall | ⟨before, x, after, text, hfirst⟩
  · rw [override_of_understood hall, extraEnv_applyAll]
  · rw [override_of_firstRejected hfirst, extraEnv_applyAll]

end Outcome

end SettingName

/-- The variables are read in order up to the first one with a text that its setting does not
take, and nothing but these seven variables counts.  Reading fails exactly if there is such a
variable.  The error then names it with its text, the settings before it are overridden, and it
and the later ones are as they were.  Otherwise every setting is overridden, and reading once
more changes nothing.  The extra variables always stay. -/
theorem Settings.override_up_to_firstRejected (s : Settings) (stem : String)
    (lookup : String → Option String) :
    (∀ lookup' : String → Option String,
      (∀ x : SettingName, lookup' (x.variableName stem) = lookup (x.variableName stem)) →
        s.override stem lookup' = s.override stem lookup) ∧
    ((s.override stem lookup).2 ≠ none ↔ ∃ (x : SettingName) (text : String),
      lookup (x.variableName stem) = some text ∧ x.Rejects text) ∧
    (∀ e, (s.override stem lookup).2 = some e ↔ ∃ before x after text,
      SettingName.FirstRejected stem lookup before x after text ∧
        e = .invalidVariable (x.variableName stem) text x.expected) ∧
    (∀ before x after text, SettingName.FirstRejected stem lookup before x after text →
      (∀ y ∈ before, y.Overridden stem lookup s (s.override stem lookup).1) ∧
      ∀ y ∈ x :: after, y.get (s.override stem lookup).1 = y.get s) ∧
    ((s.override stem lookup).2 = none →
      (∀ x : SettingName, x.Overridden stem lookup s (s.override stem lookup).1) ∧
      (s.override stem lookup).1.override stem lookup = s.override stem lookup) ∧
    (s.override stem lookup).1.extraEnv = s.extraEnv := by
  exact ⟨fun _ h => SettingName.override_congr h s, SettingName.error_override_ne_none_iff s,
    SettingName.error_override_eq_some_iff s,
    fun _ _ _ _ h => SettingName.get_override_of_firstRejected h s,
    SettingName.overridden_of_no_error, SettingName.extraEnv_override s⟩

/-- A mode in capitals is not understood for the sandbox: the empty binary and the other mode
before it are taken, what stands behind it is not read, and what is no setting does not count.
With a truth value alone the reading goes through. -/
theorem Settings.override_up_to_misspelt_mode :
    let s : Settings := { sandbox := some .workspaceWrite }
    let misspelt := [("T_BINARY", ""), ("T_AUTH_MODE", " Api_Key "), ("T_SANDBOX", "Read-Only"),
      ("T_FULL_AUTO", "maybe")]
    let valid := [("T_FULL_AUTO", "YES")]
    (s.override "T" fun name => (("T_HOME", "h") :: misspelt).lookup name) =
        (s.override "T" fun name => misspelt.lookup name) ∧
      (s.override "T" fun name => misspelt.lookup name).2 = some (.invalidVariable "T_SANDBOX"
        "Read-Only" "read-only | workspace-write | danger-full-access") ∧
      (s.override "T" fun name => misspelt.lookup name).1.binary = "" ∧
      (s.override "T" fun name => misspelt.lookup name).1.authMode = .apiKey ∧
      (s.override "T" fun name => misspelt.lookup name).1.sandbox = some .workspaceWrite ∧
      (s.override "T" fun name => valid.lookup name).1.fullAuto = true ∧
      (s.override "T" fun name => valid.lookup name).1.override "T"
        (fun name => valid.lookup name) = (s.override "T" fun name => valid.lookup name) := by
  intro s misspelt valid
  have hfirst : SettingName.FirstRejected "T" (fun name => misspelt.lookup name)
      [.binary, .model, .authMode, .apiKey] .sandbox [.outputSchema, .fullAuto] "Read-Only" := {
    order := rfl
    holds := rfl
    rejects := .sandbox (by decide)
    earlier := by
      intro y hy text hset hrejects
      cases hrejects with
      | authMode h =>
        cases hset
        exact absurd h (by decide)
      | sandbox h => simp at hy
      | fullAuto h => simp at hy }
  have hunread : ∀ x : SettingName, (("T_HOME", "h") :: misspelt).lookup (x.variableName "T") =
      misspelt.lookup (x.variableName "T") := by
    intro x
    cases x <;> rfl
  obtain ⟨hcongr, -, herror, hfields, -, -⟩ :=
    s.override_up_to_firstRejected "T" fun name => misspelt.lookup name
  obtain ⟨-, -, -, -, hagain, -⟩ := s.override_up_to_firstRejected "T" fun name => valid.lookup name
  obtain ⟨hbefore, hafter⟩ := hfields _ _ _ _ hfirst
  obtain ⟨hvalid, htwice⟩ := hagain rfl
  have hbinary := (hbefore .binary (by decide)).of_set "" rfl
  have hauthMode := (hbefore .authMode (by decide)).of_set " Api_Key " rfl
  have hfullAuto := (hvalid .fullAuto).of_set "YES" rfl
  refine ⟨hcongr _ hunread, (herror _).2 ⟨_, _, _, _, hfirst, rfl⟩, ?_, ?_,
    hafter .sandbox (by decide), ?_, htwice⟩
  · exact (Option.some.inj hbinary).symm
  · exact (Option.some.inj hauthMode).symm
  · exact (Option.some.inj hfullAuto).symm

end AgentRelay
