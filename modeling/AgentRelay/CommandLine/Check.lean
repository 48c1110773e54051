import AgentRelay.CommandLine.Screen

/-!
# Checks

Two commands check the tool without asking it for an answer: whether it can be
launched, and whether it is signed in.  Both report in a line of text or in
JSON, and their exit code tells the result.

Main definitions:

- {lit}`healthScreen`: the report on launching the tool.
- {lit}`keyScreen` and {lit}`statusScreen`: the reports on signing in.
- {lit}`Settings.hasKey`: whether there is a key to report on.
- {lit}`authCheck`: the whole check of the authentication.
- {lit}`entryReport`: its report after an attempt to sign in.
-/

namespace AgentRelay

/-- A report in JSON. -/
def reportLine (report : Json) : String :=
  asLine report.renderIndented

/-! ## Health -/

/-- The report on launching the tool in JSON, its fields sorted. -/
def healthReport (available : Bool) (binary model : String) :
    Except ToolError String → Json
  | .ok version =>
    .object [("available", .bool available), ("binary", .string binary), ("healthy", .bool true),
      ("model", .string model), ("version", .string version)]
  | .error e =>
    .object [("available", .bool available), ("binary", .string binary),
      ("error", .string e.message), ("healthy", .bool false), ("model", .string model)]

/-- What a failed health check shows. -/
def healthFailure (available : Bool) (binary : String) (e : ToolError) : String :=
  let hint := if available then ""
    else asLine (binary ++ " is not an executable path and was not found on PATH")
  let advice := match e with
    | .binaryNotFound _ _ => adviceLines installAdvice
    | _ => ""
  hint ++ errorLine e.message ++ advice

/-- The report on launching the tool. -/
def healthScreen (json available : Bool) (binary model : String)
    (result : Except ToolError String) : Screen :=
  if json then
    ⟨reportLine (healthReport available binary model result), "", exitCode result.isOk⟩
  else
    match result with
    | .ok version =>
      ⟨asLine (binary ++ ": " ++ version ++ " (model " ++ model ++ ")"), "", ExitCode.success⟩
    | .error e => ⟨"", healthFailure available binary e, ExitCode.failure⟩

/-! ## Authentication -/

/-- The report in API key mode, where all that counts is whether there is a
key. -/
def keyScreen (json hasKey : Bool) : Screen :=
  { stdout :=
      if json then
        reportLine (.object [("api_key_set", .bool hasKey), ("auth_mode", .string "api-key")])
      else asLine ("auth mode api-key, key " ++ (if hasKey then "configured" else "missing"))
    stderr := ""
    code := exitCode hasKey }

/-- A status in one line. -/
def statusLine (s : AuthStatus) : String :=
  let state := if s.authenticated then "authenticated" else "not authenticated"
  asLine (state ++ " (" ++ s.source.title ++ ")" ++
    (s.detail.map fun detail => ": " ++ detail).getD "")

/-- The report on a status. -/
def statusScreen (json : Bool) (s : AuthStatus) : Screen :=
  { stdout := if json then reportLine s.toJson else statusLine s
    stderr := if json || s.authenticated then "" else adviceLines signInAdvice
    code := exitCode s.authenticated }

/-- What a failed attempt to sign in shows. -/
def signInFailureScreen (e : ToolError) : Screen :=
  ⟨"", errorLine e.message ++ adviceLines signInAdvice, ExitCode.failure⟩

/-- Whether settings hold a key that is not blank. -/
def Settings.hasKey (s : Settings) : Bool :=
  s.apiKey.any fun key => Text.trim key ≠ ""

/-- Checks the authentication, after signing in if that is asked for.  In API
key mode nothing is launched. -/
def authCheck (settings : Settings) (tool : Tool) (login json : Bool) : Runs Screen :=
  match settings.authMode with
  | .apiKey => return keyScreen json settings.hasKey
  | .chatGpt => do
    let entry ← if login then tool.ensureSignedIn settings.binary settings.toolEnv
      else pure (.ok ())
    match entry with
    | .error e => return signInFailureScreen e
    | .ok () => return statusScreen json (← tool.authStatus settings.binary settings.toolEnv)

/-- The report after an attempt to sign in: its failure, or else the status that is found
then. -/
def entryReport (settings : Settings) (tool : Tool) (json : Bool) :
    Except ToolError Unit → Runs Screen
  | .error e => return signInFailureScreen e
  | .ok () => return statusScreen json (← tool.authStatus settings.binary settings.toolEnv)

/-- With a key only the key is reported. -/
theorem authCheck_of_apiKey {settings : Settings} (h : settings.authMode = .apiKey) (tool : Tool)
    (login json : Bool) :
    authCheck settings tool login json = return keyScreen json settings.hasKey := by
  simp only [authCheck, h]

/-- When signing in is asked for, it comes before the report. -/
theorem authCheck_of_login {settings : Settings} (h : settings.authMode = .chatGpt) (tool : Tool)
    (json : Bool) :
    authCheck settings tool true json =
      tool.ensureSignedIn settings.binary settings.toolEnv >>= entryReport settings tool json := by
  simp only [authCheck, h]
  rfl

/-- Otherwise only the status is reported. -/
theorem authCheck_of_no_login {settings : Settings} (h : settings.authMode = .chatGpt)
    (tool : Tool) (json : Bool) :
    authCheck settings tool false json = entryReport settings tool json (.ok ()) := by
  simp only [authCheck, h]
  rfl

end AgentRelay
