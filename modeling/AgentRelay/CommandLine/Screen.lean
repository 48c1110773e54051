import AgentRelay.Decimal.Fixed
import AgentRelay.Json.Writer
import AgentRelay.Session

/-!
# What a command shows

A command writes to its output and to its diagnostics, and ends with an exit
code: zero for success, one for a failure, two for a command that could not even
begin.

Main definitions:

- {lit}`Screen`: everything a command shows, apart from its log.
- {lit}`usageLine`: the line that sums up the usage of an answer.
- {lit}`streamScreen`: what the items of an answer show.
-/

namespace AgentRelay

/-! ## Screens -/

/-- Everything that a command shows, apart from its log. -/
structure Screen where
  stdout : String
  stderr : String
  code : Nat
deriving DecidableEq, Repr

namespace ExitCode

/-- The exit code for success. -/
def success : Nat := 0

/-- The exit code for a failure. -/
def failure : Nat := 1

/-- The exit code for a command that could not begin. -/
def refused : Nat := 2

end ExitCode

/-- The exit code of a check. -/
def exitCode (passed : Bool) : Nat :=
  if passed then ExitCode.success else ExitCode.failure

/-- A text on a line of its own. -/
def asLine (text : String) : String :=
  text ++ "\n"

/-! ## Errors -/

/-- How to install the tool. -/
def installAdvice : String :=
  "Install the Codex CLI:\n  npm install -g @openai/codex\nor\n  brew install --cask codex\n" ++
    "Then set binary_path (or CODEX_BRIDGE_BINARY) if codex is not on PATH."

/-- How to sign in. -/
def signInAdvice : String :=
  "Authenticate the Codex CLI with one of:\n" ++
    "  codex login            (ChatGPT account, auth_mode = \"chatgpt\")\n" ++
    "  auth_mode = \"api-key\"  (set api_key or CODEX_BRIDGE_API_KEY; passed as OPENAI_API_KEY)"

/-- What there is to do about an error. -/
def ToolError.advice? : ToolError → Option String
  | .binaryNotFound _ _ => some installAdvice
  | .loginFailed _ => some signInAdvice
  | _ => none

/-- An error as it is shown. -/
def errorLine (text : String) : String :=
  asLine ("error: " ++ text)

/-- Instructions as they are shown, with a blank line before them. -/
def adviceLines (text : String) : String :=
  "\n" ++ asLine text

/-- An error with what there is to do about it. -/
def errorReport (e : ToolError) : String :=
  errorLine e.message ++ (e.advice?.map adviceLines).getD ""

/-! ## Answers -/

/-- The line that sums up the usage of an answer. -/
def usageLine (u : UsageSummary) : String :=
  let part (label : String) (count : Option Nat) : String :=
    (count.map fun n => ", " ++ toString n ++ " " ++ label).getD ""
  "tokens: " ++ toString u.inputTokens ++ " in, " ++ toString u.outputTokens ++ " out" ++
    part "cached" u.cacheReadTokens ++ part "cache writes" u.cacheWriteTokens ++
    part "reasoning" u.reasoningTokens ++ " | cost $" ++ Decimal.fixed 6 u.totalCost

/-- What a chunk adds to the output: a line in JSON, or its text. -/
def Chunk.shown (json : Bool) (c : Chunk) : String :=
  if json then asLine c.toJson.render
  else
    match c with
    | .text s => s
    | _ => ""

/-- What a chunk adds to the diagnostics: its reasoning, when that is wanted. -/
def Chunk.aside (json showReasoning : Bool) : Chunk → String
  | .reasoning s => if !json && showReasoning then s else ""
  | _ => ""

/-- The usage that a chunk reports, or else the one reported before it. -/
def Chunk.usageAfter (before : Option UsageSummary) : Chunk → Option UsageSummary
  | .usage summary => some summary
  | _ => before

/-- What the items of an answer show, given the usage reported before them. -/
def streamScreen (json showReasoning : Bool) (usage : Option UsageSummary) : List Item → Screen
  | [] =>
    { stdout := if json then "" else "\n"
      stderr := (usage.map fun u => asLine (usageLine u)).getD ""
      code := ExitCode.success }
  | .error e :: _ =>
    { stdout := if json then "" else "\n", stderr := errorReport e, code := ExitCode.failure }
  | .ok chunk :: rest =>
    let later := streamScreen json showReasoning (chunk.usageAfter usage) rest
    { stdout := chunk.shown json ++ later.stdout
      stderr := chunk.aside json showReasoning ++ later.stderr
      code := later.code }

end AgentRelay
