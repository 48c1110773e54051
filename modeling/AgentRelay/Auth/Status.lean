import AgentRelay.Chunk
import AgentRelay.Json.Reader
import AgentRelay.Text.Case

/-!
# Authentication status

The tool reports its authentication status as a JSON object whose fields differ
from one version to the next.  A truth value decides; without one, a text that
mentions a known marker does.  A report that says nothing counts as signed in,
because the tool would have failed otherwise.

Main definitions:

- {lit}`AuthStatus`: what is known about the authentication.
- {lit}`AuthStatus.ofReport`: the status that a report tells.
- {lit}`isUnsupported`: an output that refuses the request for a report.
-/

namespace AgentRelay

/-- Where a status comes from: a report of the tool, or a trial run. -/
inductive AuthSource where
  | structured
  | heuristic
deriving DecidableEq, Repr

/-- What is known about the authentication of the tool. -/
structure AuthStatus where
  authenticated : Bool
  source : AuthSource
  detail : Option String
deriving DecidableEq, Repr

namespace AuthSource

/-- The name of a source in a record. -/
def name : AuthSource → String
  | .structured => "structured-probe"
  | .heuristic => "heuristic-probe"

/-- The name of a source in a sentence. -/
def title : AuthSource → String
  | .structured => "structured probe"
  | .heuristic => "heuristic probe"

end AuthSource

namespace AuthStatus

/-- A status without problems. -/
def signedIn (source : AuthSource) : AuthStatus :=
  ⟨true, source, none⟩

/-- A status with a problem. -/
def signedOut (source : AuthSource) (detail : String) : AuthStatus :=
  ⟨false, source, some detail⟩

/-- A status as a JSON object; an absent detail is left out. -/
def toJson (s : AuthStatus) : Json :=
  .object ([("authenticated", .bool s.authenticated), ("source", .string s.source.name)] ++
    optionalField "detail" .string s.detail)

/-! ## Reports -/

/-- Fields that may hold the truth value. -/
def flagNames : List String :=
  ["authenticated", "logged_in", "loggedIn", "isAuthenticated", "is_authenticated"]

/-- Fields that may hold the text. -/
def textNames : List String :=
  ["status", "state", "auth_status", "authStatus"]

/-- What a text says when nobody is signed in. -/
def signedOutMarkers : List String :=
  ["unauth", "signed-out", "signed out", "logged out", "not logged"]

/-- What a text says when somebody is signed in. -/
def signedInMarkers : List String :=
  ["auth", "signed-in", "signed in", "logged in"]

/-- The truth value of a report. -/
def flag? (report : Json) : Option Bool :=
  flagNames.findSome? fun name => (report.get? name).bind Json.bool?

/-- The text of a report. -/
def text? (report : Json) : Option String :=
  report.firstString? textNames

/-- The status that a text tells. -/
def ofText (text : String) : AuthStatus :=
  if Text.mentions signedOutMarkers text then signedOut .structured text
  else if Text.mentions signedInMarkers text then ⟨true, .structured, some text⟩
  else signedIn .structured

/-- The status that a report in JSON tells. -/
def ofJson (report : Json) : AuthStatus :=
  match flag? report with
  | some flag => ⟨flag, .structured, text? report⟩
  | none => (text? report).elim (signedIn .structured) ofText

/-- The status that a report tells; one that is no JSON says nothing. -/
def ofReport (report : String) : AuthStatus :=
  match Json.parseChars? (Text.trimChars report.toList) with
  | some json => ofJson json
  | none => signedIn .structured

/-- A report never tells of a trial run. -/
theorem ofJson_source (report : Json) : (ofJson report).source = .structured := by
  unfold ofJson
  split
  · rfl
  · cases text? report with
    | none => rfl
    | some text =>
      simp only [Option.elim_some, ofText]
      split
      · rfl
      · split <;> rfl

end AuthStatus

/-! ## Refused requests -/

/-- What a tool says that does not know a request. -/
def unsupportedMarkers : List String :=
  ["unknown command", "unrecognized command", "unknown subcommand", "unrecognized subcommand",
   "invalid choice", "unexpected argument"]

/-- The output says that the tool does not know a request. -/
def isUnsupported (output : String) : Bool :=
  Text.mentions unsupportedMarkers output

end AgentRelay
