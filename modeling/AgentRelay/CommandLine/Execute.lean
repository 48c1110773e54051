import AgentRelay.CommandLine.Check
import AgentRelay.CommandLine.Command
import AgentRelay.Settings.Load
import AgentRelay.Workspace

/-!
# Executing a command line

A command line is executed in three steps.  Its arguments are understood, the
settings are loaded and overridden, and the command does its work.  Nothing is
launched before the first two steps have succeeded, and no answer is asked for
without a prompt.

Main definitions:

- {lit}`World`: what a command line is executed in.
- {lit}`CommandLine.load`: the settings for a command line.
- {lit}`Command.execute`: does the work of a command.
- {lit}`execute`: executes a command line.
-/

namespace AgentRelay

/-- What a command line is executed in: the surroundings that settings are
loaded from, the binaries that can be launched, the input, the tool with the
models it knows, and what is observed while one of its runs is read.  The log is
off in it: warnings about failed requests for a status and about failed runs,
which would otherwise go to the diagnostics as they arise, are no part of what
is shown. -/
structure World where
  surroundings : Surroundings
  canLaunch : String → Bool
  stdin : List UInt8
  tool : Tool
  catalog : Catalog := .builtin
  course : Output → Course := Output.calm

/-! ## The steps -/

/-- The name and version of this program. -/
def versionText : String :=
  "codex-bridge 0.0.0"

/-- What is shown for arguments that end the reading. -/
def Halt.screen : Halt → Screen
  | .misuse reason =>
    ⟨"", asLine ("error: " ++ reason ++ "\n\nFor more information, try '--help'."),
      ExitCode.refused⟩
  | .help => ⟨asLine "Usage: codex-bridge [OPTIONS] [COMMAND]", "", ExitCode.success⟩
  | .version => ⟨asLine versionText, "", ExitCode.success⟩

/-- Where the settings for a command line are loaded from. -/
def CommandLine.loadRequest (c : CommandLine) : LoadRequest :=
  { home := c.flags.home }

/-- The settings for a command line: loaded, then overridden by its options. -/
def CommandLine.load (c : CommandLine) (w : Surroundings) : Except SettingsError Settings :=
  (c.loadRequest.load w).map c.flags.override

/-- Where there is neither a file nor a variable only the options count. -/
theorem CommandLine.load_of_nothing {c : CommandLine} {w : Surroundings} {dir : String}
    (hhome : c.flags.home = some dir) (hfile : ∀ path, w.fileAt path = .missing)
    (henv : w.env = .empty) : c.load w = .ok (c.flags.override {}) := by
  have hdir : c.loadRequest.homeDir w = .ok dir := LoadRequest.homeDir_of_home hhome w
  rw [load, LoadRequest.load_of_nothing hdir hfile henv]
  rfl

/-- What is shown when the settings cannot be had. -/
def SettingsError.screen (e : SettingsError) : Screen :=
  ⟨"", errorLine ("failed to load configuration: " ++ e.message), ExitCode.refused⟩

/-- What is shown when the input is no text. -/
def unreadablePromptScreen : Screen :=
  ⟨"", asLine ("Error: failed to read prompt from stdin\n\nCaused by:\n" ++
    "    stream did not contain valid UTF-8"), ExitCode.failure⟩

/-- What is shown for a blank prompt. -/
def blankPromptScreen : Screen :=
  ⟨"", errorLine "empty prompt (pass --prompt or pipe text on stdin)", ExitCode.refused⟩

/-- The prompt of an answer: the one that is given, or the whole input.  A blank
one is refused. -/
def StreamOptions.readPrompt (o : StreamOptions) (stdin : List UInt8) : Except Screen String :=
  match o.prompt.or (Text.Utf8.decode? stdin) with
  | none => .error unreadablePromptScreen
  | some prompt => if (Text.nonBlank? prompt).isSome then .ok prompt else .error blankPromptScreen

/-- The command takes its prompt from the input. -/
def Command.readsInput : Command → Bool
  | .stream options => options.prompt.isNone
  | _ => false

/-- Does the work of a command. -/
def Command.execute (settings : Settings) (w : World) : Command → Runs Screen
  | .stream options =>
    match options.readPrompt w.stdin with
    | .error screen => return screen
    | .ok prompt => do
      let session := Session.ofSettings settings w.catalog
      let items ← session.streamAlong w.course w.tool (options.system.getD "")
        [⟨.user, .text prompt⟩]
      return streamScreen options.json options.showReasoning none items
  | .health json => do
    let session := Session.ofSettings settings w.catalog
    let result ← session.health w.tool
    return healthScreen json (w.canLaunch settings.binary) settings.binary session.model.id result
  | .auth login json => authCheck settings w.tool login json

/-- What the tool itself showed during runs that share the output. -/
def sharedOutput (runs : List Run) : String :=
  String.join (runs.map fun run =>
    match run.launch.channel, run.reply with
    | .shared, .ran output => Text.Utf8.decodeLossy output.stdout
    | _, _ => "")

/-- A screen with what the tool itself showed in front. -/
def Screen.after (s : Screen) (runs : List Run) : Screen :=
  { s with stdout := sharedOutput runs ++ s.stdout }

/-- Executes a command line: what is shown while the log is off, and the launches
that were made. -/
def execute (args : List String) (w : World) : Screen × List Run :=
  match CommandLine.parse args with
  | .error halt => (halt.screen, [])
  | .ok line =>
    match line.load w.surroundings with
    | .error e => (e.screen, [])
    | .ok settings =>
      let (screen, runs) := (line.command.execute settings w).run []
      (screen.after runs, runs)

end AgentRelay
