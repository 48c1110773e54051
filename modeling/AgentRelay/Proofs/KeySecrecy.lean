import AgentRelay.CommandLine.Execute
import Mathlib

/-!
# The key of settings that need none

Settings that sign in through the tool may hold a key, but it has no effect.  Two settings that
differ in nothing else make the same launches, with the same arguments, variables and inputs,
and come to the same results, whatever is asked of them and however the tool behaves.  The
variables that are set for the tool are the extra ones, so the key is among them only if it was
put there.

The two runs are compared step by step: a computation ignores the key when each of its launches
does, and what it does next depends on the settings only through what the key has no part in.

Main definitions:

- {lit}`LaunchesOnly`: a computation makes only launches with a property.
- {lit}`Settings.SameApartFromKey`: settings that differ at most in the key they do not need.
- {lit}`IgnoresKey`: a computation that the key has no effect on.

Main results:

- Theorem {lit}`IgnoresKey.bind`: one computation after another ignores the key if both do.
- Theorem {lit}`ignoresKey_streamAlong`: sessions ignore the key.
- Theorem {lit}`key_has_no_effect`: so does everything else that is done with settings.
-/

namespace AgentRelay

/-! ## Launches of a computation -/

/-- A computation makes only launches with a property, whatever was launched before. -/
def LaunchesOnly (P : Launch → Prop) (m : Runs α) : Prop :=
  ∀ history, ∃ runs, (m history).2 = history ++ runs ∧ ∀ r ∈ runs, P r.launch

namespace LaunchesOnly

variable {P : Launch → Prop} {m : Runs α} {f : α → Runs β}

theorem pure (a : α) : LaunchesOnly P (Pure.pure a : Runs α) := by
  intro history
  refine ⟨[], ?_, by simp⟩
  rw [List.append_nil]
  rfl

theorem bind (h : LaunchesOnly P m) (hf : ∀ a, LaunchesOnly P (f a)) :
    LaunchesOnly P (m >>= f) := by
  intro history
  have hbind : (m >>= f) history = f (m history).1 (m history).2 := rfl
  obtain ⟨runs, hruns, hP⟩ := h history
  obtain ⟨later, hlater, hPlater⟩ := hf (m history).1 (m history).2
  refine ⟨runs ++ later, ?_, ?_⟩
  · rw [hbind, hlater, hruns, List.append_assoc]
  · intro r hr
    rcases List.mem_append.1 hr with hr | hr
    · exact hP r hr
    · exact hPlater r hr

theorem run (tool : Tool) {launch : Launch} (h : P launch) :
    LaunchesOnly P (tool.run launch) := by
  intro history
  refine ⟨[⟨launch, tool history launch⟩], rfl, ?_⟩
  intro r hr
  rw [List.mem_singleton.1 hr]
  exact h

theorem capture (tool : Tool) {launch : Launch} (h : P launch) :
    LaunchesOnly P (tool.capture launch) := by
  apply (run tool h).bind
  intro reply
  cases reply with
  | failed failure => exact .pure _
  | ran output => exact .pure _

end LaunchesOnly

/-! ## Settings that differ in their key -/

namespace Settings

/-- Settings that sign in through the tool and differ at most in their key. -/
structure SameApartFromKey (s s' : Settings) : Prop where
  chatGpt : s.authMode = .chatGpt
  eq : ∃ key, s' = { s with apiKey := key }

/-- Settings that sign in through the tool set the extra variables for it, and no others. -/
theorem toolEnv_of_chatGpt {s : Settings} (h : s.authMode = .chatGpt) : s.toolEnv = s.extraEnv := by
  apply toolEnv_of_key?_eq_none
  rw [key?, h]

namespace SameApartFromKey

variable {s s' : Settings}

theorem chatGpt' (h : s.SameApartFromKey s') : s'.authMode = .chatGpt := by
  obtain ⟨hmode, key, rfl⟩ := h
  exact hmode

theorem toolEnv_eq (h : s.SameApartFromKey s') : s'.toolEnv = s.toolEnv := by
  rw [toolEnv_of_chatGpt h.chatGpt, toolEnv_of_chatGpt h.chatGpt']
  obtain ⟨-, key, rfl⟩ := h
  rfl

/-- What is made of settings without their key and their variables is the same. -/
theorem congr {f : Settings → α} (h : s.SameApartFromKey s')
    (hf : ∀ key, f { s with apiKey := key } = f s) : f s' = f s := by
  obtain ⟨-, key, rfl⟩ := h
  exact hf key

end SameApartFromKey
end Settings

/-! ## Computations that ignore the key -/

/-- A computation that depends on settings ignores the key that they do not need: it is the same
for settings that differ in nothing else, and sets only the extra variables of the settings. -/
structure IgnoresKey (m : Settings → Runs α) : Prop where
  same : ∀ s s' : Settings, s.SameApartFromKey s' → m s' = m s
  extraEnv : ∀ s : Settings, s.authMode = .chatGpt →
    LaunchesOnly (fun launch => launch.env = s.extraEnv) (m s)

namespace IgnoresKey

variable {m m' : Settings → Runs α} {f : Settings → α → Runs β}

theorem pure {a : Settings → α} (h : ∀ s s' : Settings, s.SameApartFromKey s' → a s' = a s) :
    IgnoresKey fun s => (Pure.pure (a s) : Runs α) where
  same s s' hs := by rw [h s s' hs]
  extraEnv _ _ := .pure _

/-- A result without settings ignores the key. -/
theorem result (a : α) : IgnoresKey fun _ => (Pure.pure a : Runs α) :=
  .pure fun _ _ _ => rfl

/-- One computation after another ignores the key if both do. -/
theorem bind (h : IgnoresKey m) (hf : ∀ a, IgnoresKey fun s => f s a) :
    IgnoresKey fun s => m s >>= f s where
  same s s' hs := by
    have hnext : f s' = f s := funext fun a => (hf a).same s s' hs
    rw [h.same s s' hs, hnext]
  extraEnv s hmode := (h.extraEnv s hmode).bind fun a => (hf a).extraEnv s hmode

/-- Only settings that sign in through the tool matter. -/
theorem congr (h : IgnoresKey m') (heq : ∀ s : Settings, s.authMode = .chatGpt → m s = m' s) :
    IgnoresKey m where
  same s s' hs := by rw [heq s hs.chatGpt, heq s' hs.chatGpt', h.same s s' hs]
  extraEnv s hmode := by
    rw [heq s hmode]
    exact h.extraEnv s hmode

end IgnoresKey

/-- A launch that settings ask for ignores their key. -/
structure LaunchIgnoresKey (launch : Settings → Launch) : Prop where
  same : ∀ s s' : Settings, s.SameApartFromKey s' → launch s' = launch s
  extraEnv : ∀ s : Settings, s.authMode = .chatGpt → (launch s).env = s.extraEnv

section Launches

variable {launch : Settings → Launch}

theorem LaunchIgnoresKey.run (h : LaunchIgnoresKey launch) (tool : Tool) :
    IgnoresKey fun s => tool.run (launch s) where
  same s s' hs := by rw [h.same s s' hs]
  extraEnv s hmode := .run tool (h.extraEnv s hmode)

theorem LaunchIgnoresKey.capture (h : LaunchIgnoresKey launch) (tool : Tool) :
    IgnoresKey fun s => tool.capture (launch s) where
  same s s' hs := by rw [h.same s s' hs]
  extraEnv s hmode := .capture tool (h.extraEnv s hmode)

/-- A launch of the program of the settings with their variables ignores the key. -/
theorem launchIgnoresKey_of_args (args : List String) (channel : Channel) :
    LaunchIgnoresKey fun s => ⟨s.binary, args, s.toolEnv, channel⟩ where
  same s s' hs := by
    have hbinary : s'.binary = s.binary := hs.congr fun _ => rfl
    rw [hs.toolEnv_eq, hbinary]
  extraEnv s hmode := Settings.toolEnv_of_chatGpt hmode

end Launches

/-! ## Signing in -/

theorem ignoresKey_authStatus (tool : Tool) :
    IgnoresKey fun s => tool.authStatus s.binary s.toolEnv := by
  simp only [Tool.authStatus_eq]
  apply ((launchIgnoresKey_of_args _ _).capture tool).bind
  intro answer
  cases AuthStatus.ofAnswer? answer with
  | some status => exact .result _
  | none => exact ((launchIgnoresKey_of_args _ _).capture tool).bind fun _ => .result _

theorem ignoresKey_signIn (tool : Tool) :
    IgnoresKey fun s => tool.signIn s.binary s.toolEnv := by
  unfold Tool.signIn
  apply ((launchIgnoresKey_of_args _ _).capture tool).bind
  intro reply
  cases reply with
  | error e => exact .result _
  | ok output => exact .result _

theorem ignoresKey_ensureSignedIn (tool : Tool) :
    IgnoresKey fun s => tool.ensureSignedIn s.binary s.toolEnv := by
  unfold Tool.ensureSignedIn
  apply (ignoresKey_authStatus tool).bind
  intro status
  by_cases hauth : status.authenticated = true
  · simp only [hauth, if_true]
    exact .result _
  · simp only [hauth]
    exact ignoresKey_signIn tool

theorem ignoresKey_authorize (tool : Tool) (catalog : Catalog) :
    IgnoresKey fun s => (Session.ofSettings s catalog).authorize tool := by
  apply (ignoresKey_ensureSignedIn tool).congr
  intro s hmode
  simp only [Session.authorize, Session.ofSettings, hmode]

/-! ## Sessions -/

/-- The launch that sends a prompt ignores the key. -/
theorem launchIgnoresKey_request (catalog : Catalog) (prompt : Prompt) :
    LaunchIgnoresKey fun s => ((Session.ofSettings s catalog).request prompt).launch where
  same s s' hs := by
    have henv := hs.toolEnv_eq
    obtain ⟨-, key, rfl⟩ := hs
    simp only [Invocation.launch, Session.request, Session.ofSettings, henv]
  extraEnv s hmode := Settings.toolEnv_of_chatGpt hmode

/-- Sessions ignore the key, whatever is reported about their runs. -/
theorem ignoresKey_streamAlong (tool : Tool) (catalog : Catalog) (course : Output → Course)
    (system : String) (messages : List Message) :
    IgnoresKey fun s =>
      (Session.ofSettings s catalog).streamAlong course tool system messages := by
  unfold Session.streamAlong
  apply (ignoresKey_authorize tool catalog).bind
  intro entry
  cases entry with
  | error e => exact .result _
  | ok _ =>
    cases Prompt.build system messages with
    | error e => exact .result _
    | ok prompt =>
      apply ((launchIgnoresKey_request catalog prompt).run tool).bind
      intro reply
      apply IgnoresKey.pure
      intro s s' hs
      have hmodel : (Session.ofSettings s' catalog).model = (Session.ofSettings s catalog).model :=
        hs.congr (f := fun s => (Session.ofSettings s catalog).model) fun _ => rfl
      rw [hmodel, (launchIgnoresKey_request catalog prompt).same s s' hs]

theorem ignoresKey_streamTake (tool : Tool) (catalog : Catalog) (system : String)
    (messages : List Message) (n : Nat) :
    IgnoresKey fun s => (Session.ofSettings s catalog).streamTake tool system messages n := by
  unfold Session.streamTake
  by_cases hn : n = 0
  · simp only [hn, if_true]
    exact .result _
  · simp only [hn, if_false]
    exact (ignoresKey_streamAlong tool catalog Output.calm system messages).bind
      fun _ => .result _

theorem ignoresKey_health (tool : Tool) (catalog : Catalog) :
    IgnoresKey fun s => (Session.ofSettings s catalog).health tool := by
  unfold Session.health
  apply ((launchIgnoresKey_of_args ["--version"] .closed).capture tool).bind
  intro reply
  cases reply with
  | error e => exact .result _
  | ok output =>
    by_cases hsucceeded : output.succeeded = true
    · simp only [hsucceeded, if_true]
      exact .result _
    · simp only [hsucceeded]
      exact .result _

/-! ## Commands -/

theorem ignoresKey_entryReport (tool : Tool) (json : Bool) (entry : Except ToolError Unit) :
    IgnoresKey fun s => entryReport s tool json entry := by
  cases entry with
  | error e => exact .result _
  | ok _ => exact (ignoresKey_authStatus tool).bind fun _ => .result _

theorem ignoresKey_authCheck (tool : Tool) (login json : Bool) :
    IgnoresKey fun s => authCheck s tool login json := by
  cases login with
  | false =>
    apply (ignoresKey_entryReport tool json (.ok ())).congr
    intro s hmode
    exact authCheck_of_no_login hmode tool json
  | true =>
    have hlogin := (ignoresKey_ensureSignedIn tool).bind (ignoresKey_entryReport tool json)
    apply hlogin.congr
    intro s hmode
    exact authCheck_of_login hmode tool json

/-- The work of every command ignores the key. -/
theorem ignoresKey_execute (w : World) (command : Command) :
    IgnoresKey fun s => command.execute s w := by
  cases command with
  | stream options =>
    cases hprompt : options.readPrompt w.stdin with
    | error screen =>
      simp only [Command.execute, hprompt]
      exact .result _
    | ok prompt =>
      simp only [Command.execute, hprompt]
      exact (ignoresKey_streamAlong w.tool w.catalog w.course _ _).bind fun _ => .result _
  | health json =>
    simp only [Command.execute]
    apply (ignoresKey_health w.tool w.catalog).bind
    intro result
    apply IgnoresKey.pure
    intro s s' hs
    exact hs.congr (f := fun s => healthScreen json (w.canLaunch s.binary) s.binary
      (Session.ofSettings s w.catalog).model.id result) fun _ => rfl
  | auth login json => exact ignoresKey_authCheck w.tool login json

/-- Two command lines that ask for the same, with settings that differ at most in their key, show
the same and launch the same. -/
theorem execute_eq_of_sameApartFromKey {args args' : List String} {line line' : CommandLine}
    {w : World} {surroundings : Surroundings} {s s' : Settings}
    (hparse : CommandLine.parse args = .ok line) (hparse' : CommandLine.parse args' = .ok line')
    (hcommand : line'.command = line.command) (hload : line.load w.surroundings = .ok s)
    (hload' : line'.load surroundings = .ok s') (h : s.SameApartFromKey s') :
    execute args' { w with surroundings := surroundings } = execute args w := by
  have hwork : line.command.execute s' { w with surroundings := surroundings } =
      line.command.execute s w := by
    -- The work of a command does not look at the surroundings again.
    have hworld : line.command.execute s' { w with surroundings := surroundings } =
        line.command.execute s' w := by
      cases line.command <;> rfl
    rw [hworld, (ignoresKey_execute w line.command).same s s' h]
  simp only [execute, hparse, hparse', hload, hload', hcommand, hwork]

/-- A command line with settings that sign in through the tool sets only the extra variables. -/
theorem env_of_mem_execute {args : List String} {line : CommandLine} {w : World} {s : Settings}
    (hparse : CommandLine.parse args = .ok line) (hload : line.load w.surroundings = .ok s)
    (hmode : s.authMode = .chatGpt) : ∀ r ∈ (execute args w).2, r.launch.env = s.extraEnv := by
  obtain ⟨runs, hruns, henv⟩ := (ignoresKey_execute w line.command).extraEnv s hmode []
  have hmade : (execute args w).2 = runs := by
    simp only [execute, hparse, hload]
    exact hruns
  rw [hmade]
  exact henv

/-- The key of settings that sign in through the tool has no effect.  Sessions, the requests for
a status and for signing in, the health check and the check of the authentication ignore it:
with settings that differ in nothing else they are the same computation, so whatever the tool
answers they make the same launches and come to the same results, and every launch sets the
extra variables and no others.  So a whole command line shows the same, with the same exit
code, whether the settings hold one key, another or none. -/
theorem key_has_no_effect (tool : Tool) :
    (∀ (catalog : Catalog) (course : Output → Course) (system : String)
      (messages : List Message),
      IgnoresKey fun s =>
        (Session.ofSettings s catalog).streamAlong course tool system messages) ∧
    (∀ (catalog : Catalog) (system : String) (messages : List Message) (n : Nat),
      IgnoresKey fun s =>
        (Session.ofSettings s catalog).streamTake tool system messages n) ∧
    (IgnoresKey fun s => tool.authStatus s.binary s.toolEnv) ∧
    (IgnoresKey fun s => tool.signIn s.binary s.toolEnv) ∧
    (IgnoresKey fun s => tool.ensureSignedIn s.binary s.toolEnv) ∧
    (∀ catalog : Catalog, IgnoresKey fun s => (Session.ofSettings s catalog).health tool) ∧
    (∀ login json : Bool, IgnoresKey fun s => authCheck s tool login json) ∧
    (∀ (args args' : List String) (line line' : CommandLine) (w : World)
      (surroundings : Surroundings) (s s' : Settings),
      CommandLine.parse args = .ok line → CommandLine.parse args' = .ok line' →
      line'.command = line.command → w.tool = tool →
      line.load w.surroundings = .ok s → line'.load surroundings = .ok s' →
      s.SameApartFromKey s' →
      execute args' { w with surroundings := surroundings } = execute args w ∧
        ∀ r ∈ (execute args w).2, r.launch.env = s.extraEnv) := by
  refine ⟨fun catalog course system messages => ignoresKey_streamAlong tool catalog course _ _,
    fun catalog system messages n => ignoresKey_streamTake tool catalog _ _ n,
    ignoresKey_authStatus tool, ignoresKey_signIn tool, ignoresKey_ensureSignedIn tool,
    fun catalog => ignoresKey_health tool catalog,
    fun login json => ignoresKey_authCheck tool login json, ?_⟩
  intro args args' line line' w surroundings s s' hparse hparse' hcommand _ hload hload' hs
  exact ⟨execute_eq_of_sameApartFromKey hparse hparse' hcommand hload hload' hs,
    env_of_mem_execute hparse hload hs.chatGpt⟩

/-- A key on the command line and none, where the tool is missing: both command lines show the
same, and neither the request for a report nor the attempt to sign in carries the key. -/
theorem key_has_no_effect_of_missing_tool :
    let w : World :=
      { surroundings := ⟨.empty, fun _ => .missing, none⟩
        canLaunch := fun _ => false
        stdin := []
        tool := fun _ _ => .failed .notFound }
    let args := ["--home", "h", "--api-key", "k", "auth", "--login"]
    execute ["--home", "h", "auth", "--login"] w = execute args w ∧
      (∀ r ∈ (execute args w).2, r.launch.env = .empty) ∧
      (execute args w).2.map (fun r => r.launch.args) =
        [["login", "status", "--json"], ["login"]] := by
  intro w args
  obtain ⟨-, -, -, -, -, -, -, hexecute⟩ := key_has_no_effect w.tool
  let line : CommandLine := ⟨{ home := some "h", apiKey := some "k" }, .auth true false⟩
  let line' : CommandLine := ⟨{ home := some "h" }, .auth true false⟩
  have hparse : CommandLine.parse args = .ok line := by cbv
  have hparse' : CommandLine.parse ["--home", "h", "auth", "--login"] = .ok line' := by cbv
  have hload : line.load w.surroundings = .ok { apiKey := some "k" } :=
    CommandLine.load_of_nothing rfl (fun _ => rfl) rfl
  have hload' : line'.load w.surroundings = .ok {} :=
    CommandLine.load_of_nothing rfl (fun _ => rfl) rfl
  have hsame : Settings.SameApartFromKey { apiKey := some "k" } {} := ⟨rfl, none, rfl⟩
  obtain ⟨heq, henv⟩ := hexecute args _ line line' w w.surroundings _ _ hparse hparse' rfl rfl hload
    hload' hsame
  refine ⟨heq, henv, ?_⟩
  simp only [execute, hparse, hload]
  rfl

end AgentRelay
