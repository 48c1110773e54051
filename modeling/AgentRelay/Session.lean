import AgentRelay.Auth.SignIn
import AgentRelay.Event.Line
import AgentRelay.Event.Rules
import AgentRelay.Tool.Invocation
import AgentRelay.Tool.Reader

/-!
# Sessions

A session answers conversations with the tool.  It signs in if it has to, builds
the prompt, runs the tool and turns the lines of its output into chunks.  The
first error ends the stream of chunks.

Main definitions:

- {lit}`Session`: settings with their model.
- {lit}`Item`: a chunk, or the error that ends the stream.
- {lit}`itemsOfReader`: the items of a run that is read line by line.
- {lit}`Session.stream`: the items that answer a conversation.
- {lit}`Session.health`: the version that the tool reports.
-/

namespace AgentRelay

/-- Settings with the model they stand for. -/
structure Session where
  settings : Settings
  model : ResolvedModel

/-- A chunk, or the error that ends the stream. -/
abbrev Item :=
  Except ToolError Chunk

/-! ## Items -/

/-- The items of a run that is read line by line, given what is observed at each
read.  Noise is passed over, and the first error ends the stream. -/
def itemsOfReader (model : Model) (seen : Course) (r : Reader) : List Item :=
  match _h : r.next (seen 0) with
  | (.error e, _) => [.error e]
  | (.ok none, _) => []
  | (.ok (some line), rest) =>
    match Event.ofLine? line with
    | none => itemsOfReader model seen.later rest
    | some event =>
      match Event.check event with
      | .error e => [.error e]
      | .ok () => (Event.chunks event model).map .ok ++ itemsOfReader model seen.later rest
termination_by r.segments.length
decreasing_by all_goals exact Reader.length_lt_of_next ‹_›

/-- The items of an answer to a launch. -/
def itemsOfReply (model : Model) (launch : Launch) (course : Output → Course) :
    Reply → List Item
  | .failed failure => [.error (failure.toError launch)]
  | .ran output => itemsOfReader model (course output) output.reader

/-- An error of a read ends the stream. -/
theorem itemsOfReader_of_next_error {seen : Course} {r r' : Reader} {e : ToolError}
    (h : r.next (seen 0) = (.error e, r')) (model : Model) :
    itemsOfReader model seen r = [.error e] := by
  rw [itemsOfReader]
  split <;> simp_all

/-- The end of a run ends the stream. -/
theorem itemsOfReader_of_next_none {seen : Course} {r r' : Reader}
    (h : r.next (seen 0) = (.ok none, r')) (model : Model) :
    itemsOfReader model seen r = [] := by
  rw [itemsOfReader]
  split <;> simp_all

/-- A line that is noise changes nothing. -/
theorem itemsOfReader_of_noise {seen : Course} {r r' : Reader} {line : String}
    (h : r.next (seen 0) = (.ok (some line), r')) (hline : Event.ofLine? line = none)
    (model : Model) : itemsOfReader model seen r = itemsOfReader model seen.later r' := by
  rw [itemsOfReader]
  split <;> simp_all

/-- An event that reports a failure ends the stream. -/
theorem itemsOfReader_of_check_error {seen : Course} {r r' : Reader} {line : String}
    {event : Json} {e : ToolError} (h : r.next (seen 0) = (.ok (some line), r'))
    (hline : Event.ofLine? line = some event) (he : Event.check event = .error e)
    (model : Model) : itemsOfReader model seen r = [.error e] := by
  rw [itemsOfReader]
  split <;> simp_all

/-- The chunks of an accepted event come before everything later. -/
theorem itemsOfReader_of_check_ok {seen : Course} {r r' : Reader} {line : String}
    {event : Json} (h : r.next (seen 0) = (.ok (some line), r'))
    (hline : Event.ofLine? line = some event) (he : Event.check event = .ok ())
    (model : Model) :
    itemsOfReader model seen r =
      (Event.chunks event model).map .ok ++ itemsOfReader model seen.later r' := by
  rw [itemsOfReader]
  split <;> simp_all

namespace Session

/-! ## Streams -/

/-- A session with settings over a catalog of models. -/
def ofSettings (settings : Settings) (catalog : Catalog) : Session :=
  ⟨settings, catalog.resolve settings.model⟩

/-- The request that sends a prompt. -/
def request (s : Session) (prompt : Prompt) : Invocation where
  prompt := prompt
  binary := s.settings.binary
  model := some s.model.id
  outputSchema := s.settings.outputSchema
  sandbox := s.settings.sandbox
  fullAuto := s.settings.fullAuto
  env := s.settings.toolEnv

/-- Signs in when the session signs in through the tool. -/
def authorize (s : Session) (tool : Tool) : Runs (Except ToolError Unit) :=
  match s.settings.authMode with
  | .chatGpt => tool.ensureSignedIn s.settings.binary s.settings.toolEnv
  | .apiKey => return .ok ()

/-- The items that answer a conversation when runs take a given course. -/
def streamAlong (s : Session) (course : Output → Course) (tool : Tool) (system : String)
    (messages : List Message) : Runs (List Item) := do
  match ← s.authorize tool with
  | .error e => return [.error e]
  | .ok () =>
    match Prompt.build system messages with
    | .error e => return [.error e]
    | .ok prompt =>
      let launch := (s.request prompt).launch
      let reply ← tool.run launch
      return itemsOfReply s.model.model launch course reply

/-- The items that answer a conversation when nothing is reported about a run but
its exit. -/
def stream (s : Session) (tool : Tool) (system : String) (messages : List Message) :
    Runs (List Item) :=
  s.streamAlong Output.calm tool system messages

/-- The first items that answer a conversation.  A stream is lazy: nothing is
done before its first item is asked for, so nothing is launched for no items.
From then on the runs are those of the whole stream, since the main run is
started before its first item is there. -/
def streamTake (s : Session) (tool : Tool) (system : String) (messages : List Message)
    (n : Nat) : Runs (List Item) :=
  if n = 0 then return [] else return (← s.stream tool system messages).take n

/-! ## Health -/

/-- The launch that asks for the version. -/
def versionLaunch (s : Session) : Launch :=
  ⟨s.settings.binary, ["--version"], s.settings.toolEnv, .closed⟩

/-- The version that the tool reports. -/
def health (s : Session) (tool : Tool) : Runs (Except ToolError String) := do
  match ← tool.capture s.versionLaunch with
  | .error e => return .error e
  | .ok output =>
    if output.succeeded then
      return .ok (Text.trim (Text.Utf8.decodeLossy output.stdout))
    else
      return .error (.processExit output.ending.code (Text.Utf8.decodeLossy output.stderr))

end Session
end AgentRelay
