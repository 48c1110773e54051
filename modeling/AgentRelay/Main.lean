import AgentRelay.CommandLine.Execute
import AgentRelay.Replay

/-!
# The program

The program reads its surroundings, executes its arguments and shows the result.
Everything it decides is decided by {lit}`execute`; what stands here only reads
and writes.  The tool behaves as the files in the folder {lit}`replay` say.
-/

namespace AgentRelay
namespace Main

/-- The folder that keeps the behaviour of the tool. -/
def replayFolder : String :=
  "replay"

/-- The content of a file. -/
def contentOf (path : String) : IO FileContent := do
  try
    return .bytes (← IO.FS.readBinFile path).toList
  catch
    | .noFileOrDirectory .. => return .missing
    | e => return .unreadable e.toString

/-- The values of variables, as far as they are set. -/
def readVariables (names : List String) : IO Environment := do
  let values ← names.mapM fun name => return (← IO.getEnv name).map (name, ·)
  return ⟨values.filterMap id⟩

/-- The files of every request, as far as they are there. -/
def readScript : IO (List (String × List UInt8)) := do
  let requests := [Request.version, .status, .probe, .login, .exec]
  let paths := requests.flatMap fun r => ["out", "err", "exit"].map (r.path replayFolder ·)
  let files ← paths.mapM fun path => return (path, ← contentOf path)
  return files.filterMap fun (path, content) =>
    match content with
    | .bytes bytes => some (path, bytes)
    | _ => none

/-- The whole input. -/
partial def readInput (input : IO.FS.Stream) (seen : List UInt8) : IO (List UInt8) := do
  let bytes ← input.read 4096
  if bytes.isEmpty then return seen else readInput input (seen ++ bytes.toList)

/-- The script in which a launch starts if its binary is there. -/
def scriptOf (binary : String) (isThere : Bool) (files : List (String × List UInt8)) : Script where
  startFailure? launch :=
    if isThere && launch.binary = binary then none else some .notFound
  file? request part := files.lookup (request.path replayFolder part)

/-- Reads the world in which a command line is executed. -/
def readWorld (line : CommandLine) : IO World := do
  let env ← readVariables line.loadRequest.variableNames
  let blind : Surroundings := ⟨env, fun _ => .missing, none⟩
  let content ← match line.loadRequest.filePath blind with
    | .ok path => contentOf path
    | .error _ => pure .missing
  let surroundings : Surroundings := { blind with fileAt := fun _ => content }
  let binary := ((line.load surroundings).toOption.getD {}).binary
  let isThere := match ← contentOf binary with
    | .bytes _ => true
    | _ => false
  let stdin ← if line.command.readsInput then readInput (← IO.getStdin) [] else pure []
  return {
    surroundings := surroundings
    canLaunch := fun name => isThere && name = binary
    stdin := stdin
    tool := (scriptOf binary isThere (← readScript)).tool }

/-- Shows a screen and gives its exit code. -/
def showScreen (screen : Screen) : IO UInt32 := do
  IO.print screen.stdout
  IO.eprint screen.stderr
  return UInt32.ofNat screen.code

end Main
end AgentRelay

/-- Executes the command line that the arguments make. -/
def main (args : List String) : IO UInt32 := do
  match AgentRelay.CommandLine.parse args with
  | .error halt => AgentRelay.Main.showScreen halt.screen
  | .ok line =>
    let world ← AgentRelay.Main.readWorld line
    AgentRelay.Main.showScreen (AgentRelay.execute args world).1
