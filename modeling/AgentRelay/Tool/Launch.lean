import AgentRelay.Environment
import AgentRelay.Text.Blank
import AgentRelay.Text.Utf8
import AgentRelay.ToolError

/-!
# Launching the tool

Whatever is asked of the tool is one launch after another.  A tool is anything
that answers launches, and it may answer differently depending on the launches
before.  The launches that were made are kept in order together with their
answers.

Main definitions:

- {lit}`Launch`, {lit}`Reply` and {lit}`Output`: one launch and its answer.
- {lit}`Tool` and {lit}`Runs`: the behaviour of a tool, and computations that
  launch it.
- {lit}`Tool.run` and {lit}`Tool.capture`: making a launch.
- {lit}`Output.complaint`: what a failed run has to say.
-/

namespace AgentRelay

/-! ## One launch -/

/-- What a launched process reads and where its output goes: nothing to read
and its output captured, a text to read and its output captured, or input and
output shared with the caller. -/
inductive Channel where
  | closed
  | text (input : String)
  | shared
deriving DecidableEq, Repr

/-- A launch: the program, its arguments, the variables set for it over the
inherited ones, and its channel. -/
structure Launch where
  binary : String
  args : List String
  env : Environment
  channel : Channel
deriving DecidableEq, Repr

/-- How a process ends.  A lingering one runs until it is killed. -/
inductive Ending where
  | exited (code : Int)
  | signalled
  | lingering
deriving DecidableEq, Repr

/-- What comes out of a process. -/
structure Output where
  stdout : List UInt8
  stderr : List UInt8
  ending : Ending
deriving DecidableEq, Repr

/-- Why nothing came out of a launch: the program was not found, it could not be
started for another reason, or it was started and could not be waited for. -/
inductive LaunchFailure where
  | notFound
  | other (reason : String)
  | unwaited (reason : String)
deriving DecidableEq, Repr

/-- The answer to a launch. -/
inductive Reply where
  | failed (failure : LaunchFailure)
  | ran (output : Output)
deriving DecidableEq, Repr

/-- A launch with its answer. -/
structure Run where
  launch : Launch
  reply : Reply
deriving DecidableEq, Repr

/-! ## Tools -/

/-- The behaviour of a tool: the answer to a launch, given the launches made
before. -/
abbrev Tool :=
  List Run → Launch → Reply

/-- A computation that launches a tool and keeps what it launched. -/
abbrev Runs :=
  StateM (List Run)

/-- Launches a tool once. -/
def Tool.run (tool : Tool) (launch : Launch) : Runs Reply := fun history =>
  let reply := tool history launch
  (reply, history ++ [⟨launch, reply⟩])

/-- The error that a launch ends with when nothing comes out of it: advice is
given when the program is missing.  Waiting is told apart from starting only
where the two are separate steps, which they are not for a run that is captured
as a whole. -/
def LaunchFailure.toError (l : Launch) : LaunchFailure → ToolError
  | .notFound => .binaryNotFound l.binary missingBinaryAdvice
  | .other reason => .internal ("Failed to spawn " ++ l.binary ++ ": " ++ reason)
  | .unwaited reason =>
    match l.channel with
    | .closed => .internal ("Failed to spawn " ++ l.binary ++ ": " ++ reason)
    | .text _ => .processError ("Failed to wait for Codex CLI process: " ++ reason)
    | .shared => .internal ("Failed to wait for codex login: " ++ reason)

/-- Launches a tool once and gives what came out of it. -/
def Tool.capture (tool : Tool) (launch : Launch) : Runs (Except ToolError Output) := do
  match ← tool.run launch with
  | .failed failure => return .error (failure.toError launch)
  | .ran output => return .ok output

/-! ## Output -/

/-- The exit code of a process that was not ended by a signal. -/
def Ending.code? : Ending → Option Int
  | .exited code => some code
  | .signalled => none
  | .lingering => none

/-- The exit code of a process, or {lit}`-1` when a signal ended it. -/
def Ending.code (e : Ending) : Int :=
  e.code?.getD (-1)

namespace Output

/-- The process exited with code zero. -/
def succeeded (o : Output) : Bool :=
  o.ending = .exited 0

/-- What is said about the ending of a failed run. -/
def endingText (o : Output) : String :=
  match o.ending.code? with
  | some code => "exited with code " ++ toString code
  | none => "terminated by signal"

/-- What a failed run has to say: its diagnostics, its output, or its ending,
whichever is the first that is not blank. -/
def complaint (o : Output) : String :=
  ([o.stderr, o.stdout].findSome? fun bytes => Text.nonBlank? (Text.Utf8.decodeLossy bytes)).getD
    o.endingText

end Output

/-- A text that is not blank is not empty once it is trimmed. -/
theorem Text.ne_empty_of_nonBlank? {s t : String} (h : Text.nonBlank? s = some t) : t ≠ "" := by
  unfold Text.nonBlank? at h
  split at h
  · cases h
  · next hs => simpa using (Option.some.inj h) ▸ hs

/-- A failed run always has something to say. -/
theorem Output.complaint_ne_empty (o : Output) : o.complaint ≠ "" := by
  unfold complaint
  cases h : [o.stderr, o.stdout].findSome?
      fun bytes => Text.nonBlank? (Text.Utf8.decodeLossy bytes) with
  | some text =>
    obtain ⟨bytes, _, hb⟩ := List.exists_of_findSome?_eq_some h
    exact Text.ne_empty_of_nonBlank? hb
  | none =>
    simp only [Option.getD_none, endingText]
    split <;> simp [String.ext_iff]

end AgentRelay
