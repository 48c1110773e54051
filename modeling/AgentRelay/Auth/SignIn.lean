import AgentRelay.Auth.Status
import AgentRelay.Tool.Launch

/-!
# Signing in

The tool is asked for a report on its authentication.  A version that does not
know the request is tried out with a trivial prompt instead, and counts as
signed in if that run succeeds.  Signing in itself is left to the tool, which
talks to the user directly.

Main definitions:

- {lit}`Tool.authStatus`: the authentication status of a tool.
- {lit}`Tool.signIn`: signs in.
- {lit}`Tool.ensureSignedIn`: signs in unless that is done already.
-/

namespace AgentRelay

/-! ## Launches -/

/-- The launch that asks for a report. -/
def statusLaunch (binary : String) (env : Environment) : Launch :=
  ⟨binary, ["login", "status", "--json"], env, .closed⟩

/-- The prompt of a trial run. -/
def trialPrompt : String :=
  "Reply with the single word OK."

/-- The launch of a trial run. -/
def trialLaunch (binary : String) (env : Environment) : Launch :=
  ⟨binary, ["exec", "--json", trialPrompt], env, .closed⟩

/-- The launch that signs in. -/
def signInLaunch (binary : String) (env : Environment) : Launch :=
  ⟨binary, ["login"], env, .shared⟩

/-! ## Answers -/

/-- The status that a trial run shows. -/
def AuthStatus.ofTrial : Except ToolError Output → AuthStatus
  | .error e => signedOut .heuristic e.message
  | .ok output =>
    if output.succeeded then signedIn .heuristic else signedOut .heuristic output.complaint

/-- The status that an answer to the request for a report tells; the refusal of the request
tells none. -/
def AuthStatus.ofAnswer? : Except ToolError Output → Option AuthStatus
  | .error e => some (signedOut .structured e.message)
  | .ok output =>
    if output.succeeded then some (ofReport (Text.Utf8.decodeLossy output.stdout))
    else if isUnsupported output.complaint then none
    else some (signedOut .structured output.complaint)

/-- A failed run to sign in.  Its output went to the user, so only its
diagnostics and its ending can be told. -/
def Output.signInError (o : Output) : ToolError :=
  .loginFailed { o with stdout := [] }.complaint

namespace Tool

/-- Asks a tool for its authentication status. -/
def authStatus (tool : Tool) (binary : String) (env : Environment) : Runs AuthStatus := do
  match ← tool.capture (statusLaunch binary env) with
  | .error e => return .signedOut .structured e.message
  | .ok output =>
    if output.succeeded then return .ofReport (Text.Utf8.decodeLossy output.stdout)
    else if isUnsupported output.complaint then
      return .ofTrial (← tool.capture (trialLaunch binary env))
    else return .signedOut .structured output.complaint

/-- The answer to the request for a report tells the status, or else a trial run does. -/
theorem authStatus_eq (tool : Tool) (binary : String) (env : Environment) :
    tool.authStatus binary env =
      tool.capture (statusLaunch binary env) >>= fun answer =>
        match AuthStatus.ofAnswer? answer with
        | some status => pure status
        | none => tool.capture (trialLaunch binary env) >>= fun trial => pure (.ofTrial trial) := by
  unfold authStatus
  congr 1
  funext answer
  cases answer with
  | error e => rfl
  | ok output =>
    by_cases hsucceeded : output.succeeded = true
    · simp [AuthStatus.ofAnswer?, hsucceeded]
    · by_cases hunsupported : isUnsupported output.complaint = true
      · simp [AuthStatus.ofAnswer?, hsucceeded, hunsupported]
      · simp [AuthStatus.ofAnswer?, hsucceeded, hunsupported]

/-- Signs in. -/
def signIn (tool : Tool) (binary : String) (env : Environment) : Runs (Except ToolError Unit) := do
  match ← tool.capture (signInLaunch binary env) with
  | .error e => return .error e
  | .ok output => return if output.succeeded then .ok () else .error output.signInError

/-- Signs in unless that is done already. -/
def ensureSignedIn (tool : Tool) (binary : String) (env : Environment) :
    Runs (Except ToolError Unit) := do
  let status ← tool.authStatus binary env
  if status.authenticated then return .ok () else tool.signIn binary env

end Tool
end AgentRelay
