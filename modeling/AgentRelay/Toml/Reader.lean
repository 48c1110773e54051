import AgentRelay.Toml.Text
import AgentRelay.Toml.Value

/-!
# Reading TOML

A document is read line by line.  Only the values inside brackets or between
three quotes go over several lines; lists and inline tables may hold comments
and line ends between any two of their parts, and may end in a comma.

Main definitions:

- {lit}`Toml.readValue`: the value at the front of a text.
- {lit}`Toml.readStatements`: the lines of a document.
- {lit}`Toml.parse?`: the entries that a document writes.
-/

namespace AgentRelay
namespace Toml

/-! ## Values -/

/-- How deep lists and inline tables may be nested. -/
def nestingLimit : Nat :=
  80

/-- A character that ends a word. -/
def endsWord (c : Char) : Bool :=
  isGap c || c ∈ ['\n', '\r', ',', ']', '}', '#']

/-- The word at the front of a text; a date and a time of day are one word. -/
def word (cs : List Char) : List Char :=
  let first := cs.takeWhile fun c => !endsWord c
  match cs.drop first.length with
  | ' ' :: c :: rest =>
    if isDate first ∧ c.isDigit then
      first ++ ' ' :: (c :: rest).takeWhile fun c => !endsWord c
    else first
  | _ => first

/-- The value that a word writes. -/
def ofWord? (w : List Char) : Option Toml :=
  if w = "true".toList then some (.boolean true)
  else if w = "false".toList then some (.boolean false)
  else if isInteger w ∨ isDecimal w then some .number
  else (DateTime.ofChars? w).map .dateTime

/-- The text after an equals sign at its front. -/
def afterEquals? : List Char → Option (List Char)
  | '=' :: rest => some rest
  | _ => none

/-- The key at the front of a text, and the text after the equals sign behind
it.  What may stand around the sign is skipped. -/
def readKeyEquals (skip : List Char → List Char) (cs : List Char) :
    Option (List String × List Char) := do
  let (path, rest) ← readPath cs
  let rest ← afterEquals? (skip rest)
  some (path, skip rest)

mutual

/-- The value at the front of a text, with at most {lit}`depth` levels of lists
and inline tables.  The fuel bounds the number of steps. -/
def readValue : (fuel depth : Nat) → List Char → Option (Toml × List Char)
  | 0, _, _ => none
  | fuel + 1, depth, cs =>
    match cs with
    | '[' :: rest =>
      match depth with
      | 0 => none
      | depth + 1 => (readItems fuel depth rest).map fun (items, r) => (.array items, r)
    | '{' :: rest =>
      match depth with
      | 0 => none
      | depth + 1 => do
        let (entries, rest) ← readEntries fuel depth rest
        let table ← inlineTable? entries
        some (table, rest)
    | c :: _ =>
      if c = '"' ∨ c = '\'' then
        (readString cs).map fun (s, r) => (.string (String.ofList s), r)
      else (ofWord? (word cs)).map fun value => (value, cs.drop (word cs).length)
    | [] => none

/-- The items of a list up to its closing bracket. -/
def readItems : (fuel depth : Nat) → List Char → Option (List Toml × List Char)
  | 0, _, _ => none
  | fuel + 1, depth, cs =>
    match skipTrivia false cs with
    | ']' :: rest => some ([], rest)
    | cs =>
      match readValue fuel depth cs with
      | none => none
      | some (item, rest) =>
        match skipTrivia false rest with
        | ']' :: rest => some ([item], rest)
        | ',' :: rest => (readItems fuel depth rest).map fun (items, r) => (item :: items, r)
        | _ => none

/-- The entries of an inline table up to its closing brace. -/
def readEntries : (fuel depth : Nat) → List Char →
    Option (List (List String × Toml) × List Char)
  | 0, _, _ => none
  | fuel + 1, depth, cs =>
    match skipTrivia false cs with
    | '}' :: rest => some ([], rest)
    | cs =>
      match readKeyEquals (skipTrivia false) cs with
      | none => none
      | some (path, rest) =>
        match readValue fuel depth rest with
        | none => none
        | some (value, rest) =>
          match skipTrivia false rest with
          | '}' :: rest => some ([(path, value)], rest)
          | ',' :: rest =>
            (readEntries fuel depth rest).map fun (entries, r) => ((path, value) :: entries, r)
          | _ => none

end

/-! ## Lines -/

/-- The statement at the front of a text that does not begin with a gap. -/
def readStatement (cs : List Char) : Option (Statement × List Char) :=
  match cs with
  | '[' :: '[' :: rest =>
    match readPath (skipGap rest) with
    | some (path, ']' :: ']' :: rest) => some (.listHeader path, rest)
    | _ => none
  | '[' :: rest =>
    match readPath (skipGap rest) with
    | some (path, ']' :: rest) => some (.header path, rest)
    | _ => none
  | _ => do
    let (path, rest) ← readKeyEquals skipGap cs
    let (value, rest) ← readValue (2 * rest.length + 2) nestingLimit rest
    some (.entry path value, rest)

/-- The statements of a document, one a line at most.  The fuel bounds the
number of lines. -/
def readStatements : (fuel : Nat) → List Char → Option (List Statement)
  | 0, _ => none
  | fuel + 1, cs =>
    match skipGap cs with
    | [] => some []
    | c :: rest =>
      if c = '#' ∨ c = '\n' ∨ c = '\r' then
        (endOfLine? (c :: rest)).bind (readStatements fuel)
      else do
        let (statement, rest) ← readStatement (c :: rest)
        let rest ← endOfLine? rest
        let statements ← readStatements fuel rest
        some (statement :: statements)

/-- The entries that a document writes.  A byte order mark at its front is
passed over. -/
def parse? (s : String) : Option Entries :=
  let cs := match s.toList with
    | '\uFEFF' :: rest => rest
    | cs => cs
  (readStatements (cs.length + 1) cs).bind ofStatements?

end Toml
end AgentRelay
