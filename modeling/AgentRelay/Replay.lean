import AgentRelay.Auth.SignIn
import AgentRelay.Text.Lines
import AgentRelay.Workspace

/-!
# Replaying a tool

The behaviour of a tool can be kept in files.  A launch is one of five requests,
told apart by its arguments, and each request has files for what it prints, what
it complains about and how it ends.  A replayed tool notes what it was asked
for, and what its last main run was given.

Main definitions:

- {lit}`Request.ofArgs`: the request that arguments make.
- {lit}`Script`: the behaviour of a tool, kept in files.
- {lit}`Script.tool`: the tool that behaves like that.
- {lit}`Script.notes`: what a replayed tool notes.
-/

namespace AgentRelay

/-! ## Requests -/

/-- What a tool can be asked for. -/
inductive Request where
  | version
  | status
  | probe
  | login
  | exec
deriving DecidableEq, Repr

namespace Request

/-- The name of a request. -/
def name : Request → String
  | .version => "version"
  | .status => "status"
  | .probe => "probe"
  | .login => "login"
  | .exec => "exec"

/-- The request that arguments make. -/
def ofArgs : List String → Request
  | "--version" :: _ => .version
  | "login" :: "status" :: _ => .status
  | "login" :: _ => .login
  | _ :: _ :: third :: _ => if third = trialPrompt then .probe else .exec
  | _ => .exec

end Request

/-! ## The tool -/

/-- The behaviour of a tool, kept in files: which launches cannot be started,
and the content of the files that belong to a request. -/
structure Script where
  startFailure? : Launch → Option LaunchFailure
  file? : Request → String → Option (List UInt8)

/-- The path of a file that belongs to a request. -/
def Request.path (request : Request) (folder part : String) : String :=
  joinPath folder (request.name ++ "." ++ part)

/-- The behaviour that is kept in a folder of a workspace, under inherited
variables. -/
def Script.ofWorkspace (w : Workspace) (inherited : Environment) (folder : String) : Script where
  startFailure? := w.startFailure? inherited
  file? request part :=
    match w.fileAt (request.path folder part) with
    | .bytes content => some content
    | _ => none

/-- The content of a file that belongs to a request, empty without the file. -/
def Script.content (s : Script) (request : Request) (part : String) : List UInt8 :=
  (s.file? request part).getD []

/-- The ending that a text tells: killed, hanging, or an exit code, of which the
last eight bits count.  Without a text the exit code is zero. -/
def Ending.ofText (text : String) : Ending :=
  let word := Text.trim text
  if word = "kill" then .signalled
  else if word = "hang" then .lingering
  else .exited ((word.toInt?.getD 0) % 256)

/-- What a request gives. -/
def Script.output (s : Script) (request : Request) : Output where
  stdout := s.content request "out"
  stderr := s.content request "err"
  ending := .ofText (Text.Utf8.decodeLossy (s.content request "exit"))

/-- The tool that behaves as its files say. -/
def Script.tool (s : Script) : Tool := fun _ launch =>
  match s.startFailure? launch with
  | some failure => .failed failure
  | none => .ran (s.output (.ofArgs launch.args))

/-- The main run leaves its input unread. -/
def Script.isDeaf (s : Script) : Bool :=
  (s.file? .exec "nostdin").isSome

/-! ## Notes -/

/-- What a replayed tool notes: a line for each request, and the arguments, some
variables and the input of the last main run.  Nothing is noted before the first
run of a kind. -/
structure Notes where
  calls : Option (List String)
  args : Option (List String)
  env : Option (List String)
  stdin : Option String
deriving DecidableEq, Repr

/-- A run that was started. -/
def Run.started (r : Run) : Bool :=
  match r.reply with
  | .ran _ => true
  | .failed (.unwaited _) => true
  | .failed _ => false

/-- The line that notes a request. -/
def Launch.note (l : Launch) : String :=
  " ".intercalate ((Request.ofArgs l.args).name :: l.args)

/-- Texts, each followed by a line break, as lines. -/
def noteLines (texts : List String) : List String :=
  Text.textLines (String.join (texts.map fun text => text ++ "\n"))

/-- The input that a launch gives. -/
def Channel.input : Channel → String
  | .text input => input
  | .closed => ""
  | .shared => ""

/-- What a replayed tool notes about its runs, given the variables it inherits
and the names of those it notes. -/
def Script.notes (s : Script) (inherited : Environment) (names : List String) (runs : List Run) :
    Notes :=
  let launches := (runs.filter Run.started).map Run.launch
  let main := (launches.filter fun l => Request.ofArgs l.args = .exec).getLast?
  { calls := if launches.isEmpty then none else some (noteLines (launches.map Launch.note))
    args := main.map fun l => noteLines l.args
    env := main.map fun l =>
      noteLines (names.map fun name => ((l.env.laidOver inherited).received? name).getD "<unset>")
    stdin := if s.isDeaf then none else main.map fun l => l.channel.input }

end AgentRelay
