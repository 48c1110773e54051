import AgentRelay.Proofs.Event.Failures
import AgentRelay.Proofs.ExitCodes
import AgentRelay.Proofs.Stream

/-!
# The variable of the key

In API key mode the key is set for the tool in a variable of its own, trimmed, unless it is blank.
It takes the place of an extra variable of that name, and of the inherited one; all other variables
are the extra ones.  Whether there is a key is asked in two places, where the variables are set and
where the check of the authentication reports on it, and both give the same answer: the report and
its exit code say that there is a key exactly when the variable is taken from it in the run that
sends a prompt.

Main definitions:

- {lit}`Settings.SetsKey`: the key that settings set for the tool.
- {lit}`Settings.KeyDecides`: the key decides about its variable, whatever the extra ones are.
- {lit}`ReportsKey`: a report says whether there is a key.

Main results:

- Theorem {lit}`Settings.toolEnv_cases`: the variables that are set for the tool.
- Theorem {lit}`Environment.received?_of_plainNames`: a variable is received as it is set.
- Theorem {lit}`key_in_report_and_variables`: the report and the variables agree.
-/

namespace AgentRelay

/-! ## Variables as they are received -/

namespace Environment

/-- What stands before the first equals sign of a text is known from the text. -/
theorem takeWhile_assignment {name : List Char} (h : '=' ∉ name) (value : List Char) :
    (name ++ '=' :: value).takeWhile (fun c => c ≠ '=') = name := by
  have hname : ∀ c ∈ name, decide (c ≠ '=') = true := by
    intro c hc
    rw [decide_eq_true_eq]
    rintro rfl
    exact h hc
  rw [List.takeWhile_append_of_pos hname, List.takeWhile_cons_of_neg (by simp), List.append_nil]

/-- A name without an equals sign sets no variable but its own. -/
theorem assigned?_of_plainName {key name : String} (hkey : '=' ∉ key.toList)
    (hname : '=' ∉ name.toList) (hne : name ≠ key) (value : String) :
    assigned? key name value = none := by
  unfold assigned?
  rw [if_neg]
  intro hprefix
  obtain ⟨rest, hrest⟩ := List.isPrefixOf_iff_prefix.1 hprefix
  have htext : key.toList ++ '=' :: rest = name.toList ++ '=' :: value.toList := by
    simpa [String.toList_append] using hrest
  have hbefore := congrArg (List.takeWhile fun c => c ≠ '=') htext
  rw [takeWhile_assignment hkey, takeWhile_assignment hname] at hbefore
  exact hne (String.toList_inj.1 hbefore.symm)

/-- No name of an environment holds an equals sign. -/
def PlainNames (env : Environment) : Prop :=
  ∀ entry ∈ env.entries, '=' ∉ entry.1.toList

instance (env : Environment) : Decidable env.PlainNames :=
  inferInstanceAs (Decidable (∀ entry ∈ env.entries, '=' ∉ entry.1.toList))

/-- Among names without an equals sign a variable is received as it is set. -/
theorem received?_of_plainNames {env : Environment} {key : String} (hkey : '=' ∉ key.toList)
    (h : env.PlainNames) : env.received? key = env.get? key := by
  apply received?_of_forall
  intro entry hentry hne
  exact assigned?_of_plainName hkey (h entry hentry) hne entry.2

/-- The entries of an environment that are not under a given name. -/
def entriesBeside (env : Environment) (name : String) : List (String × String) :=
  env.entries.filter fun entry => entry.1 ≠ name

/-- Setting a variable leaves the entries under other names alone. -/
theorem entriesBeside_insert (env : Environment) (name value : String) :
    (env.insert name value).entriesBeside name = env.entriesBeside name := by
  simp [entriesBeside, insert]

theorem PlainNames.insert {env : Environment} {name : String} (h : env.PlainNames)
    (hname : '=' ∉ name.toList) (value : String) : (env.insert name value).PlainNames := by
  intro entry hentry
  rcases List.mem_cons.1 hentry with rfl | hentry
  · exact hname
  · exact h entry (List.mem_of_mem_filter hentry)

theorem PlainNames.laidOver {upper lower : Environment} (hupper : upper.PlainNames)
    (hlower : lower.PlainNames) : (upper.laidOver lower).PlainNames := by
  intro entry hentry
  rcases List.mem_append.1 hentry with hentry | hentry
  · exact hupper entry hentry
  · exact hlower entry hentry

end Environment

/-! ## Variables that are set for the tool -/

namespace Settings

variable {s : Settings}

/-- The key that settings set for the tool: in API key mode, what is left of the given key once it
is trimmed, unless that is nothing. -/
structure SetsKey (s : Settings) (key : String) : Prop where
  mode : s.authMode = .apiKey
  trimmed : ∃ given, s.apiKey = some given ∧ Text.trim given = key
  ne_empty : key ≠ ""

theorem key?_eq_some_iff (s : Settings) (key : String) : s.key? = some key ↔ s.SetsKey key := by
  constructor
  · intro h
    cases hmode : s.authMode with
    | chatGpt => simp [key?, hmode] at h
    | apiKey =>
      simp only [key?, hmode, Option.bind_eq_some_iff, Text.nonBlank?_eq_some_iff] at h
      obtain ⟨given, hgiven, htrim, hne⟩ := h
      exact ⟨hmode, ⟨given, hgiven, htrim⟩, hne⟩
  · rintro ⟨hmode, ⟨given, hgiven, htrim⟩, hne⟩
    simp only [key?, hmode, Option.bind_eq_some_iff, Text.nonBlank?_eq_some_iff]
    exact ⟨given, hgiven, htrim, hne⟩

theorem key?_eq_none_iff (s : Settings) : s.key? = none ↔ ∀ key, ¬ s.SetsKey key := by
  simp only [← key?_eq_some_iff, Option.eq_none_iff_forall_ne_some, ne_eq]

/-- The variables that are set for the tool: the key over the extra ones, or the extra ones
alone. -/
theorem toolEnv_cases (s : Settings) :
    (∃ key, s.SetsKey key ∧ s.toolEnv = s.extraEnv.insert keyVariable key) ∨
      ((∀ key, ¬ s.SetsKey key) ∧ s.toolEnv = s.extraEnv) := by
  cases hkey : s.key? with
  | some key => exact .inl ⟨key, (s.key?_eq_some_iff key).1 hkey, by rw [toolEnv, hkey]⟩
  | none => exact .inr ⟨s.key?_eq_none_iff.1 hkey, toolEnv_of_key?_eq_none hkey⟩

/-- The key decides about its variable: the variable has one value whatever the extra variables
are. -/
def KeyDecides (s : Settings) : Prop :=
  ∃ value, ∀ env, { s with extraEnv := env }.toolEnv.get? keyVariable = some value

/-- The key decides exactly when one is set. -/
theorem keyDecides_iff (s : Settings) : s.KeyDecides ↔ ∃ key, s.SetsKey key := by
  constructor
  · rintro ⟨value, hvalue⟩
    -- Without extra variables only the key can be the reason that its variable is set.
    have hempty := hvalue .empty
    rcases toolEnv_cases { s with extraEnv := .empty } with ⟨key, hkey, -⟩ | ⟨-, henv⟩
    · exact ⟨key, hkey.mode, hkey.trimmed, hkey.ne_empty⟩
    · rw [henv] at hempty
      cases hempty
  · rintro ⟨key, hkey⟩
    refine ⟨key, fun env => ?_⟩
    apply get?_toolEnv_of_key?
    rw [key?_eq_some_iff]
    exact ⟨hkey.mode, hkey.trimmed, hkey.ne_empty⟩

/-- The two tests for a key agree: in API key mode the check of the authentication finds one exactly
when one is set for the tool. -/
theorem hasKey_iff_setsKey (hmode : s.authMode = .apiKey) :
    s.hasKey = true ↔ ∃ key, s.SetsKey key := by
  rw [hasKey_iff]
  constructor
  · rintro ⟨given, hgiven, hne⟩
    exact ⟨Text.trim given, hmode, ⟨given, hgiven, rfl⟩, hne⟩
  · rintro ⟨key, -, ⟨given, hgiven, rfl⟩, hne⟩
    exact ⟨given, hgiven, hne⟩

/-- In API key mode one is set exactly when the given key has a character that is not blank. -/
theorem exists_setsKey_iff (hmode : s.authMode = .apiKey) :
    (∃ key, s.SetsKey key) ↔
      ∃ given, s.apiKey = some given ∧ ∃ c ∈ given.toList, Text.isBlank c = false := by
  have hblank (given : String) :
      Text.trim given ≠ "" ↔ ∃ c ∈ given.toList, Text.isBlank c = false := by
    rw [Ne, Text.trim_eq_empty_iff]
    simp
  rw [← hasKey_iff_setsKey hmode, hasKey_iff]
  simp only [hblank]

/-- The name of the key's variable is plain, so it makes no difference to the others. -/
theorem plainNames_toolEnv (h : s.extraEnv.PlainNames) : s.toolEnv.PlainNames := by
  rcases s.toolEnv_cases with ⟨key, -, henv⟩ | ⟨-, henv⟩
  · rw [henv]
    exact h.insert (by decide) key
  · rw [henv]
    exact h

end Settings

/-! ## The report -/

/-- A report says whether there is a key: in JSON, or in a line of text. -/
def ReportsKey (json configured : Bool) (stdout : String) : Prop :=
  if json then Reports stdout "api_key_set" configured
  else stdout = asLine ("auth mode api-key, key " ++ if configured then "configured" else "missing")

theorem reportsKey_keyScreen (json hasKey : Bool) :
    ReportsKey json hasKey (keyScreen json hasKey).stdout := by
  cases json with
  | true => exact reports_keyScreen hasKey
  | false => rfl

/-- A report does not say both. -/
theorem ReportsKey.inj {json a b : Bool} {stdout : String} (ha : ReportsKey json a stdout)
    (hb : ReportsKey json b stdout) : a = b := by
  cases json with
  | true =>
    obtain ⟨fields, hread, hflag⟩ : Reports stdout "api_key_set" a := ha
    obtain ⟨fields', hread', hflag'⟩ : Reports stdout "api_key_set" b := hb
    rw [hread] at hread'
    cases hread'
    rw [hflag] at hflag'
    cases hflag'
    rfl
  | false =>
    have heq : asLine ("auth mode api-key, key " ++ if a then "configured" else "missing") =
        asLine ("auth mode api-key, key " ++ if b then "configured" else "missing") :=
      ha.symm.trans hb
    revert heq
    cases a <;> cases b <;> decide

theorem reportsKey_keyScreen_iff (json hasKey configured : Bool) :
    ReportsKey json configured (keyScreen json hasKey).stdout ↔ hasKey = configured := by
  constructor
  · exact (reportsKey_keyScreen json hasKey).inj
  · rintro rfl
    exact reportsKey_keyScreen json hasKey

/-- What a command line comes to tells whether there is a key: its report and its exit code do, and
nothing is launched. -/
structure TellsKey (json : Bool) (configured : Prop) (shown : Screen × List Run) : Prop where
  runs : shown.2 = []
  configured_iff : ReportsKey json true shown.1.stdout ↔ configured
  missing_iff : ReportsKey json false shown.1.stdout ↔ ¬ configured
  code_eq_zero_iff : shown.1.code = 0 ↔ configured

/-- In API key mode a check of the authentication tells whether a key is set for the tool. -/
theorem tellsKey_execute {args : List String} {line : CommandLine} {w : World} {s : Settings}
    {login json : Bool} (hparse : CommandLine.parse args = .ok line)
    (hload : line.load w.surroundings = .ok s) (hcommand : line.command = .auth login json)
    (hmode : s.authMode = .apiKey) :
    TellsKey json (∃ key, s.SetsKey key) (execute args w) := by
  rw [execute_auth_of_apiKey hparse hload hcommand hmode, ← Settings.hasKey_iff_setsKey hmode]
  constructor
  · rfl
  · rw [reportsKey_keyScreen_iff]
  · rw [reportsKey_keyScreen_iff, Bool.not_eq_true]
  · rw [code_keyScreen, exitCode_eq_zero_iff]

/-! ## The main run -/

/-- In API key mode a session with a prompt makes its main run and no other, with the variables that
are set for the tool. -/
theorem Session.exists_run_of_apiKey {s : Settings} (hmode : s.authMode = .apiKey)
    {system : String} {messages : List Message} {prompt : Prompt}
    (hprompt : Prompt.build system messages = .ok prompt) (catalog : Catalog)
    (course : Output → Course) (tool : Tool) (history : List Run) :
    ∃ r : Run, ((ofSettings s catalog).streamAlong course tool system messages history).2 =
        history ++ [r] ∧ r.request = .exec ∧ r.launch.env = s.toolEnv := by
  have hauth : (ofSettings s catalog).authorize tool history = (.ok (), history) := by
    have hsettings : (ofSettings s catalog).settings.authMode = .apiKey := hmode
    unfold authorize
    rw [hsettings]
    rfl
  have hok : ((ofSettings s catalog).authorize tool history).1 = .ok () := by
    rw [hauth]
  refine ⟨tool.answer history ((ofSettings s catalog).request prompt).launch, ?_,
    Invocation.ofArgs_launch _, rfl⟩
  rw [streamAlong_of_build_ok hok hprompt course, hauth]
  rfl

/-! ## Both together -/

/-- The key in the report and in the variables.  Of the variables that are set for the tool the one
of the key has the trimmed key, when one is set, and all others, or without a key all of them, are
as in the extra ones; no entry under another name is added, removed or changed.  The key decides
about its variable exactly when one is set, and in API key mode that is when the given key has a
character that is not blank.  Then the check of the authentication, with or without signing in,
tells in its report and in its exit code that there is a key, and otherwise that there is none; and
the run that sends a prompt has the same variables, which it receives over the inherited ones. -/
theorem key_in_report_and_variables (s : Settings) :
    (∀ key, s.SetsKey key → s.toolEnv.get? keyVariable = some key) ∧
    (∀ name, (name = keyVariable → ∀ key, ¬ s.SetsKey key) →
      s.toolEnv.get? name = s.extraEnv.get? name) ∧
    s.toolEnv.entriesBeside keyVariable = s.extraEnv.entriesBeside keyVariable ∧
    (s.KeyDecides ↔ ∃ key, s.SetsKey key) ∧
    (s.authMode = .apiKey →
      (s.KeyDecides ↔
        ∃ given, s.apiKey = some given ∧ ∃ c ∈ given.toList, Text.isBlank c = false) ∧
      (∀ (args : List String) (line : CommandLine) (w : World) (login json : Bool),
        CommandLine.parse args = .ok line → line.load w.surroundings = .ok s →
        line.command = .auth login json → TellsKey json s.KeyDecides (execute args w)) ∧
      (∀ (catalog : Catalog) (course : Output → Course) (tool : Tool) (system : String)
        (messages : List Message) (prompt : Prompt) (history : List Run),
        Prompt.build system messages = .ok prompt →
        ∃ r : Run, ((Session.ofSettings s catalog).streamAlong course tool system messages
            history).2 = history ++ [r] ∧ r.request = .exec ∧ r.launch.env = s.toolEnv ∧
          ∀ inherited : Environment, s.extraEnv.PlainNames → inherited.PlainNames →
            ∀ name : String, '=' ∉ name.toList →
              (r.launch.env.laidOver inherited).received? name =
                (s.toolEnv.get? name).or (inherited.get? name))) := by
  refine ⟨?_, ?_, ?_, s.keyDecides_iff, ?_⟩
  · intro key hkey
    exact Settings.get?_toolEnv_of_key? ((s.key?_eq_some_iff key).2 hkey)
  · intro name hname
    by_cases heq : name = keyVariable
    · rw [Settings.toolEnv_of_key?_eq_none (s.key?_eq_none_iff.2 (hname heq))]
    · exact s.get?_toolEnv_of_ne heq
  · rcases s.toolEnv_cases with ⟨key, -, henv⟩ | ⟨-, henv⟩
    · rw [henv, Environment.entriesBeside_insert]
    · rw [henv]
  · intro hmode
    refine ⟨?_, ?_, ?_⟩
    · rw [s.keyDecides_iff, Settings.exists_setsKey_iff hmode]
    · intro args line w login json hparse hload hcommand
      rw [s.keyDecides_iff]
      exact tellsKey_execute hparse hload hcommand hmode
    · intro catalog course tool system messages prompt history hprompt
      obtain ⟨r, hruns, hrequest, henv⟩ :=
        Session.exists_run_of_apiKey hmode hprompt catalog course tool history
      refine ⟨r, hruns, hrequest, henv, ?_⟩
      intro inherited hextra hinherited name hname
      have hplain := (Settings.plainNames_toolEnv hextra).laidOver hinherited
      rw [henv, Environment.received?_of_plainNames hname hplain, Environment.get?_laidOver]

/-- A key between an ideographic space and a space that does not break: the check tells that there
is one, and the main run receives what is left of it, over an extra variable and an inherited
one. -/
theorem key_in_report_and_variables_of_wide_blanks :
    let key := "\u3000k\u00a0"
    let plain : Settings := { authMode := .apiKey, apiKey := some key }
    let s : Settings := { plain with extraEnv := ⟨[("A", "b"), (keyVariable, "stale")]⟩ }
    let inherited : Environment := ⟨[(keyVariable, "inherited")]⟩
    let w : World :=
      { surroundings := ⟨.empty, fun _ => .missing, none⟩
        canLaunch := fun _ => true
        stdin := []
        tool := fun _ _ => .failed .notFound }
    let args := ["--home", "h", "--auth-mode", "api-key", "--api-key", key, "auth"]
    ReportsKey false true (execute args w).1.stdout ∧ (execute args w).1.code = 0 ∧
      s.toolEnv.get? "A" = some "b" ∧
      ∃ r, ((Session.ofSettings s w.catalog).streamAlong w.course w.tool "" [] []).2 = [r] ∧
        (r.launch.env.laidOver inherited).received? keyVariable = some "k" := by
  intro key plain s inherited w args
  have htrim : Text.trim key = "k" := by cbv
  have hsets : s.SetsKey "k" := ⟨rfl, ⟨key, rfl, htrim⟩, by decide⟩
  have hplain : plain.SetsKey "k" := ⟨rfl, ⟨key, rfl, htrim⟩, by decide⟩
  let line : CommandLine :=
    ⟨{ home := some "h", authMode := some .apiKey, apiKey := some key }, .auth false false⟩
  have hparse : CommandLine.parse args = .ok line := by cbv
  have hload : line.load w.surroundings = .ok plain :=
    CommandLine.load_of_nothing rfl (fun _ => rfl) rfl
  obtain ⟨-, -, -, hdecides, hmode⟩ := key_in_report_and_variables plain
  have htells := (hmode rfl).2.1 args line w false false hparse hload rfl
  have hconfigured : plain.KeyDecides := hdecides.2 ⟨"k", hplain⟩
  refine ⟨htells.configured_iff.2 hconfigured, htells.code_eq_zero_iff.2 hconfigured, ?_⟩
  obtain ⟨hkey, hother, -, -, hrun⟩ := key_in_report_and_variables s
  obtain ⟨prompt, hprompt⟩ : ∃ prompt, Prompt.build "" [] = .ok prompt := ⟨_, rfl⟩
  obtain ⟨r, hruns, -, -, hreceived⟩ :=
    (hrun rfl).2.2 w.catalog w.course w.tool "" [] prompt [] hprompt
  refine ⟨hother "A" (fun hname => absurd hname (by decide)), r, hruns, ?_⟩
  rw [hreceived inherited (by decide) (by decide) keyVariable (by decide), hkey "k" hsets,
    Option.some_or]

end AgentRelay
