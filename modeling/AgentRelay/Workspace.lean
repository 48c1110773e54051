import AgentRelay.Settings.Load
import AgentRelay.Tool.Launch

/-!
# Workspaces

A workspace is a tree of files that a run can see, some of them programs, and
the folder of the tree that relative paths start from.  A program is given by a
path, or by a name that is looked for in the folders of a search path.

Main definitions:

- {lit}`Workspace`: files, folders and programs.
- {lit}`Workspace.find`: what a path leads to.
- {lit}`Workspace.fileAt`: the content that reading a path gives.
- {lit}`Workspace.start`: what comes of starting a program.
- {lit}`Workspace.startFailure?`: why a launch cannot be started.
-/

namespace AgentRelay

/-- Files with their content, folders, which of the files are programs, and the
current folder.  A place is given by the names on the way to it from the root. -/
structure Workspace where
  files : List (List String × List UInt8)
  folders : List (List String)
  programs : List (List String)
  current : List String
deriving Repr, Inhabited

/-- What a path leads to. -/
inductive Entry where
  | folder
  | file (isProgram : Bool) (content : List UInt8)
deriving DecidableEq, Repr

/-- Why the system refuses to find, read or start something. -/
inductive Refusal where
  | missing
  | notAFolder
  | isAFolder
  | nameTooLong
  | noPermission
  | unknownFormat
  | argumentsTooLong
deriving DecidableEq, Repr

/-- The text that the system has for a refusal. -/
def Refusal.reason : Refusal → String
  | .missing => "No such file or directory (os error 2)"
  | .notAFolder => "Not a directory (os error 20)"
  | .isAFolder => "Is a directory (os error 21)"
  | .nameTooLong => "File name too long (os error 36)"
  | .noPermission => "Permission denied (os error 13)"
  | .unknownFormat => "Exec format error (os error 8)"
  | .argumentsTooLong => "Argument list too long (os error 7)"

/-- A refusal as the failure of a launch. -/
def Refusal.toLaunchFailure : Refusal → LaunchFailure
  | .missing => .notFound
  | r => .other r.reason

namespace Workspace

/-! ## Finding -/

/-- The parts of a text between separators. -/
def partsAt (separator : Char) : List Char → List (List Char)
  | [] => [[]]
  | c :: cs =>
    if c = separator then [] :: partsAt separator cs
    else
      match partsAt separator cs with
      | [] => [[c]]
      | part :: rest => (c :: part) :: rest

/-- The names on the way that a path describes. -/
def pathNames (path : String) : List String :=
  (partsAt '/' path.toList).map String.ofList

/-- The places of everything that is known to be there. -/
def places (w : Workspace) : List (List String) :=
  w.current :: w.folders ++ w.files.map Prod.fst

/-- What is at a place.  The way to whatever is there leads through folders. -/
def entryAt (w : Workspace) (place : List String) : Except Refusal Entry :=
  match w.files.lookup place with
  | some content => .ok (.file (w.programs.contains place) content)
  | none => if place.isEmpty ∨ w.places.any place.isPrefixOf then .ok .folder else .error .missing

/-- The longest name that a file may have, in bytes. -/
def nameLimit : Nat :=
  255

/-- The first length of a path that is too long, in bytes. -/
def pathLimit : Nat :=
  4096

/-- What a way leads to that goes on from a place.  Above the root there is the
root again. -/
def walk (w : Workspace) (place : List String) : List String → Except Refusal Entry
  | [] => w.entryAt place
  | name :: rest =>
    match w.entryAt place with
    | .error refusal => .error refusal
    | .ok (.file _ _) => .error .notAFolder
    | .ok .folder =>
      if name = "" ∨ name = "." then w.walk place rest
      else if name = ".." then w.walk place.dropLast rest
      else if nameLimit < name.utf8ByteSize then .error .nameTooLong
      else w.walk (place ++ [name]) rest

/-- A path starts from the root. -/
def isAbsolute (path : String) : Bool :=
  path.toList.head? = some '/'

/-- What a path leads to. -/
def find (w : Workspace) (path : String) : Except Refusal Entry :=
  if path = "" then .error .missing
  else if pathLimit ≤ path.utf8ByteSize then .error .nameTooLong
  else w.walk (if isAbsolute path then [] else w.current) (pathNames path)

/-- The place of a path whose folders are all made on the way. -/
def placeOf (w : Workspace) (path : String) : List String :=
  w.current ++ (pathNames path).filter fun name => name ≠ "" ∧ name ≠ "."

/-- A workspace with one file written. -/
def write (w : Workspace) (path : String) (content : List UInt8) : Workspace :=
  { w with files := (w.placeOf path, content) :: w.files }

/-! ## Reading -/

/-- A text holds the character that no name can hold. -/
def hasNul (s : String) : Bool :=
  s.toList.contains '\x00'

/-- The content that reading a path gives. -/
def fileAt (w : Workspace) (path : String) : FileContent :=
  if hasNul path then .unreadable "file name contained an unexpected NUL byte"
  else
    match w.find path with
    | .error .missing => .missing
    | .error refusal => .unreadable refusal.reason
    | .ok .folder => .unreadable Refusal.isAFolder.reason
    | .ok (.file _ content) => .bytes content

/-- The surroundings in which the files of a workspace are seen. -/
def surroundings (w : Workspace) (env : Environment) (accountHome : Option String) :
    Surroundings where
  env := env
  fileAt := w.fileAt
  accountHome := accountHome

/-! ## Starting programs -/

/-- The first two bytes of a script. -/
def scriptMark : List UInt8 :=
  "#!".toUTF8.toList

/-- What comes of starting what a path leads to.  Programs are scripts. -/
def startAt (w : Workspace) (path : String) : Except Refusal Unit :=
  match w.find path with
  | .error refusal => .error refusal
  | .ok .folder => .error .noPermission
  | .ok (.file isProgram content) =>
    if ¬ isProgram then .error .noPermission
    else if scriptMark.isPrefixOf content then .ok ()
    else .error .unknownFormat

/-- What comes of starting the first of several paths that leads to a program.
One without permission or without a program is passed over, but a missing
permission outweighs the refusals that come after it. -/
def startFirst (w : Workspace) (refusal : Refusal) : List String → Except Refusal Unit
  | [] => .error refusal
  | path :: rest =>
    match w.startAt path with
    | .ok () => .ok ()
    | .error .noPermission => w.startFirst .noPermission rest
    | .error .missing => w.startFirst (if refusal = .noPermission then refusal else .missing) rest
    | .error .notAFolder =>
      w.startFirst (if refusal = .noPermission then refusal else .notAFolder) rest
    | .error other => .error other

/-- The folders in which names are looked for when no variable names them. -/
def standardSearch : String :=
  "/bin:/usr/bin"

/-- The folders in which names are looked for: those that the environment
names. -/
def searchFolders (env : Environment) : List String :=
  (partsAt ':' ((env.get? "PATH").getD standardSearch).toList).map String.ofList

/-- What comes of starting a program that is given by a path or by a name. -/
def start (w : Workspace) (env : Environment) (binary : String) : Except Refusal Unit :=
  if binary = "" then .error .missing
  else if binary.toList.contains '/' then w.startAt binary
  else if nameLimit < binary.utf8ByteSize then .error .nameTooLong
  else w.startFirst .missing ((searchFolders env).map (joinPath · binary))

/-- The longest argument or variable that a program can be given, in bytes. -/
def argumentLimit : Nat :=
  131071

/-- All that a launch hands over to a program. -/
def handedOver (l : Launch) : List String :=
  l.binary :: l.args ++ l.env.entries.map fun (name, value) => name ++ "=" ++ value

/-- Why a launch cannot be started under inherited variables, if it cannot. -/
def startFailure? (w : Workspace) (inherited : Environment) (l : Launch) : Option LaunchFailure :=
  if (handedOver l).any hasNul then some (.other "nul byte found in provided data")
  else
    match w.start (l.env.laidOver inherited) l.binary with
    | .error refusal => some refusal.toLaunchFailure
    | .ok () =>
      if (handedOver l).any (argumentLimit < ·.utf8ByteSize) then
        some Refusal.argumentsTooLong.toLaunchFailure
      else none

/-- A path leads to a program. -/
def isProgram (w : Workspace) (path : String) : Bool :=
  match w.find path with
  | .ok (.file isProgram _) => isProgram
  | _ => false

/-- A folder in which a tilde as the first name stands for the user's home. -/
def expandTilde (home folder : String) : String :=
  match pathNames folder with
  | "~" :: rest => joinPath home ("/".intercalate (rest.dropWhile (· = "")))
  | _ => folder

/-- A binary can be launched: it is given by the path of a program, or by a name
under which a program is found.  This look-up knows the tilde, while starting a
program takes the folders as they are written. -/
def canLaunch (w : Workspace) (s : Surroundings) (binary : String) : Bool :=
  !hasNul binary &&
    (if binary.toList.contains '/' then w.isProgram binary
      else (searchFolders s.env).any fun folder =>
        w.isProgram (joinPath (expandTilde (s.userHome.getD "") folder) binary))

end Workspace
end AgentRelay
