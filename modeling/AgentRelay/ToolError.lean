import AgentRelay.Text.Blank

/-!
# What can go wrong with the tool

Every failure of a run is one of seven causes.  {lit}`ToolError.message` is the
text shown for it.
-/

namespace AgentRelay

/-- The causes for which a run fails. -/
inductive ToolError where
  | binaryNotFound (binary : String) (missingBinaryAdvice : String)
  | processError (message : String)
  | processExit (code : Int) (stderr : String)
  | reported (message : String)
  | loginFailed (detail : String)
  | malformedMessage (details : String)
  | internal (message : String)
deriving DecidableEq, Repr

/-- Advice that goes with a missing binary. -/
def missingBinaryAdvice : String :=
  "Install the Codex CLI with `npm install -g @openai/codex` " ++
    "or point binary_path at the codex executable."

namespace ToolError

/-- The diagnostic output of a failed run, set off from what precedes it; blank
output is left out. -/
def diagnostics (stderr : String) : String :=
  match Text.nonBlank? stderr with
  | some text => ": " ++ text
  | none => ""

/-- The text shown for a failure. -/
def message : ToolError → String
  | .binaryNotFound binary hint => "Codex CLI binary not found: " ++ binary ++ ". " ++ hint
  | .processError message => "Codex CLI process error: " ++ message
  | .processExit code stderr =>
    "Codex CLI process exited with code " ++ toString code ++ diagnostics stderr
  | .reported message => message
  | .loginFailed detail => "Codex CLI login failed: " ++ detail
  | .malformedMessage details => "Malformed message: " ++ details
  | .internal message => "Internal error: " ++ message

end ToolError
end AgentRelay
