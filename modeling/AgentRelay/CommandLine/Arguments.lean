import AgentRelay.Settings.Mode

/-!
# Arguments

The command line is a list of options and at most one subcommand.  Options that
override a setting are understood before and after the subcommand, and the later
place wins; the others belong to one place.  Arguments are read from left to
right, and the first that is not understood, or that asks for help or for the
version, ends the reading.

Main definitions:

- {lit}`Flag`: the options.
- {lit}`Reading.run`: reads arguments from left to right.
- {lit}`Reading.value?`: the value given for an option.
-/

namespace AgentRelay

/-! ## Options -/

/-- The options. -/
inductive Flag where
  | home
  | binary
  | model
  | authMode
  | apiKey
  | sandbox
  | outputSchema
  | fullAuto
  | prompt
  | system
  | json
  | showReasoning
  | login
  | help
  | version
deriving DecidableEq, Repr

namespace Flag

/-- The name of an option after two dashes. -/
def name : Flag → String
  | .home => "home"
  | .binary => "binary"
  | .model => "model"
  | .authMode => "auth-mode"
  | .apiKey => "api-key"
  | .sandbox => "sandbox"
  | .outputSchema => "output-schema"
  | .fullAuto => "full-auto"
  | .prompt => "prompt"
  | .system => "system"
  | .json => "json"
  | .showReasoning => "show-reasoning"
  | .login => "login"
  | .help => "help"
  | .version => "version"

/-- The letter of an option after one dash. -/
def letter? : Flag → Option Char
  | .model => some 'm'
  | .prompt => some 'p'
  | .system => some 's'
  | .help => some 'h'
  | .version => some 'V'
  | _ => none

/-- The options that stand alone; all others take a value. -/
def standsAlone : Flag → Bool
  | .fullAuto | .json | .showReasoning | .login | .help | .version => true
  | _ => false

/-- The values an option takes: modes have to be known, and paths not empty. -/
def accepts : Flag → String → Bool
  | .authMode, value => (AuthMode.parse value).isOk
  | .sandbox, value => (SandboxMode.parse value).isOk
  | .home, value => value ≠ ""
  | .outputSchema, value => value ≠ ""
  | _, _ => true

/-- The options that override a setting. -/
def shared : List Flag :=
  [.home, .binary, .model, .authMode, .apiKey, .sandbox, .outputSchema, .fullAuto]

end Flag

/-- The places for options: before a subcommand, or after one. -/
inductive Place where
  | top
  | health
  | auth
deriving DecidableEq, Repr

namespace Place

/-- The options that are understood at a place. -/
def flags : Place → List Flag
  | .top => Flag.shared ++ [.prompt, .system, .json, .showReasoning, .help, .version]
  | .health => Flag.shared ++ [.json, .help]
  | .auth => Flag.shared ++ [.login, .json, .help]

/-- The place after a subcommand. -/
def ofCommand? (name : String) : Option Place :=
  if name = "health" then some .health
  else if name = "auth" then some .auth
  else none

/-- The option with a given name at a place. -/
def flag? (place : Place) (name : String) : Option Flag :=
  place.flags.find? fun flag => flag.name = name

/-- The option with a given letter at a place. -/
def flagOfLetter? (place : Place) (letter : Char) : Option Flag :=
  place.flags.find? fun flag => flag.letter? = some letter

end Place

/-! ## Reading -/

/-- Why reading ends before the last argument. -/
inductive Halt where
  | misuse (reason : String)
  | help
  | version
deriving DecidableEq, Repr

/-- What was read so far: the options at the top, the place reached, and the
options there if that is behind a subcommand. -/
structure Reading where
  place : Place := .top
  top : List (Flag × String) := []
  sub : List (Flag × String) := []
deriving DecidableEq, Repr

namespace Reading

/-- The options given at the place reached. -/
def given (r : Reading) : List (Flag × String) :=
  match r.place with
  | .top => r.top
  | _ => r.sub

/-- Takes an option with its value.  At one place every option is given once. -/
def record (r : Reading) (flag : Flag) (value : String) : Except Halt Reading :=
  if (r.given.lookup flag).isSome then
    .error (.misuse ("the argument '--" ++ flag.name ++ "' cannot be used multiple times"))
  else if flag.accepts value then
    match r.place with
    | .top => .ok { r with top := r.top ++ [(flag, value)] }
    | _ => .ok { r with sub := r.sub ++ [(flag, value)] }
  else .error (.misuse ("invalid value '" ++ value ++ "' for '--" ++ flag.name ++ "'"))

/-- Takes an option that stands alone. -/
def recordAlone (r : Reading) (flag : Flag) : Except Halt Reading :=
  match flag with
  | .help => .error .help
  | .version => .error .version
  | flag => r.record flag ""

/-- Nothing is understood by this argument. -/
def unexpected (arg : String) : Halt :=
  .misuse ("unexpected argument '" ++ arg ++ "' found")

/-- An option lacks its value. -/
def lacksValue (flag : Flag) : Halt :=
  .misuse ("a value is required for '--" ++ flag.name ++ "' but none was supplied")

/-- An argument begins like an option; a single dash does not. -/
def isDashed (arg : String) : Bool :=
  match arg.toList with
  | '-' :: _ :: _ => true
  | _ => false

/-- An option as it is written: the option itself, and the value attached to
it. -/
structure Written where
  flag : Flag
  attached : Option String

/-- The option that an argument writes, if it is understood at a place. -/
def written? (place : Place) (arg : String) : Option Written :=
  match arg.toList with
  | '-' :: '-' :: cs =>
    let name := cs.takeWhile (· ≠ '=')
    let attached := match cs.drop name.length with
      | _ :: value => some (String.ofList value)
      | [] => none
    (place.flag? (String.ofList name)).map fun flag => ⟨flag, attached⟩
  | '-' :: letter :: cs =>
    let attached := match cs with
      | [] => none
      | '=' :: value => some (String.ofList value)
      | value => some (String.ofList value)
    (place.flagOfLetter? letter).map fun flag => ⟨flag, attached⟩
  | _ => none

/-- An option that stands alone takes no attached value, except that the
letters for help and for the version are obeyed at once. -/
def isBare (arg : String) (w : Written) : Bool :=
  w.attached.isNone || !("--".toList.isPrefixOf arg.toList)

/-- What a request for help comes to: it may name a subcommand. -/
def helpWith : List String → Halt
  | [] => .help
  | [name] =>
    if (Place.ofCommand? name).isSome ∨ name = "help" then .help else unexpected name
  | _ :: extra :: _ => unexpected extra

/-- Reads arguments from left to right. -/
def run (r : Reading) : List String → Except Halt Reading
  | [] => .ok r
  | arg :: rest =>
    if arg = "--" then
      match rest with
      | [] => .ok r
      | extra :: _ => .error (unexpected extra)
    else if isDashed arg then
      match written? r.place arg with
      | none => .error (unexpected arg)
      | some w =>
        if w.flag.standsAlone then
          if isBare arg w then
            match r.recordAlone w.flag with
            | .ok r => r.run rest
            | .error halt => .error halt
          else .error (unexpected arg)
        else
          match w.attached, rest with
          | some value, rest =>
            match r.record w.flag value with
            | .ok r => r.run rest
            | .error halt => .error halt
          | none, [] => .error (lacksValue w.flag)
          | none, value :: rest =>
            if isDashed value then .error (lacksValue w.flag)
            else
              match r.record w.flag value with
              | .ok r => r.run rest
              | .error halt => .error halt
    else if r.place = .top ∧ arg = "help" then .error (helpWith rest)
    else
      match (if r.place = .top then Place.ofCommand? arg else none) with
      | some place => { r with place := place }.run rest
      | none => .error (unexpected arg)

/-- The value of an option: the one behind the subcommand, or else the one before
it. -/
def value? (r : Reading) (flag : Flag) : Option String :=
  (r.sub.lookup flag).or (r.top.lookup flag)

end Reading
end AgentRelay
