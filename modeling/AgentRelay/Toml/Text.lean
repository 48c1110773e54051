import AgentRelay.Json.Reader

/-!
# The words of a TOML document

Strings are written on one line between single quotes, or over several lines
between three quotes; with double quotes the backslash escapes.  Lines end in a
newline, with or without a carriage return before it.  Control characters other
than the tab are refused everywhere.

Main definitions:

- {lit}`Toml.skipTrivia`: what may stand between the items of an array.
- {lit}`Toml.readBasic` and {lit}`Toml.readLiteral`: strings on one line.
- {lit}`Toml.readBasicLines` and {lit}`Toml.readLiteralLines`: strings over
  several lines.
- {lit}`Toml.readPath`: the dotted name of an entry.
-/

namespace AgentRelay
namespace Toml

/-! ## Blanks, comments and line ends -/

/-- A character that may stand between the words of a line. -/
def isGap (c : Char) : Bool :=
  c = ' ' || c = '\t'

/-- A character that may stand in a comment or a string. -/
def isPrintable (c : Char) : Bool :=
  c = '\t' || (0x20 ≤ c.toNat && c.toNat ≠ 0x7F)

/-- A text from its first character that is no gap. -/
def skipGap (cs : List Char) : List Char :=
  cs.dropWhile isGap

/-- A text without the comment at its front. -/
def skipComment : List Char → List Char
  | '#' :: rest => rest.dropWhile isPrintable
  | cs => cs

/-- A text after the line end at its front. -/
def lineEnd? : List Char → Option (List Char)
  | '\n' :: rest => some rest
  | '\r' :: '\n' :: rest => some rest
  | _ => none

/-- A text after the end of a line that may hold a comment; the last line needs
no line end. -/
def endOfLine? (cs : List Char) : Option (List Char) :=
  match skipComment (skipGap cs) with
  | [] => some []
  | rest => lineEnd? rest

/-- A text from its first character that belongs neither to a gap, nor to a
line end, nor to a comment.  The flag tells whether a comment is under way. -/
def skipTrivia (comment : Bool) : List Char → List Char
  | [] => []
  | '\r' :: '\n' :: rest => skipTrivia false rest
  | '\n' :: rest => skipTrivia false rest
  | c :: rest =>
    if comment then (if isPrintable c then skipTrivia true rest else c :: rest)
    else if isGap c then skipTrivia false rest
    else if c = '#' then skipTrivia true rest
    else c :: rest

/-! ## Strings on one line -/

/-- The character that a letter after a backslash stands for. -/
def simpleEscape? : Char → Option Char
  | 'b' => some '\x08'
  | 't' => some '\t'
  | 'n' => some '\n'
  | 'f' => some '\x0c'
  | 'r' => some '\r'
  | 'e' => some '\x1b'
  | '"' => some '"'
  | '\\' => some '\\'
  | _ => none

/-- The character whose code point is written by hexadecimal digits; surrogates
and numbers past the last code point are no characters. -/
def hexChar? (digits : List Char) : Option Char := do
  let values ← digits.mapM Json.hexValue?
  let n := values.foldl (fun n d => n * 16 + d) 0
  if n < 0xD800 ∨ (0xE000 ≤ n ∧ n < 0x110000) then some (Char.ofNat n) else none

/-- How many hexadecimal digits follow a letter after a backslash. -/
def hexWidth : Char → Nat
  | 'x' => 2
  | 'u' => 4
  | 'U' => 8
  | _ => 0

/-- The character that an escape stands for, and how many characters after the
letter it takes up. -/
def escape? (letter : Char) (rest : List Char) : Option (Char × Nat) :=
  let width := hexWidth letter
  if width = 0 then (simpleEscape? letter).map fun c => (c, 0)
  else if rest.length < width then none
  else (hexChar? (rest.take width)).map fun c => (c, width)

/-- What comes next inside a string that may hold escapes. -/
inductive Mode where
  /-- Ordinary text, once so many characters are passed over. -/
  | after (n : Nat)
  /-- The letter of an escape. -/
  | escape
  /-- Ordinary text, once gaps and line ends are passed over. -/
  | afterBlank
deriving DecidableEq

/-- The characters of a string between double quotes up to its closing quote,
and what follows it. -/
def readBasic : Mode → List Char → Option (List Char × List Char)
  | _, [] => none
  | .after (n + 1), _ :: rest => readBasic (.after n) rest
  | .escape, c :: rest =>
    match escape? c rest with
    | none => none
    | some (e, width) => (readBasic (.after width) rest).map fun (s, r) => (e :: s, r)
  | _, c :: rest =>
    if c = '"' then some ([], rest)
    else if c = '\\' then readBasic .escape rest
    else if isPrintable c then (readBasic (.after 0) rest).map fun (s, r) => (c :: s, r)
    else none

/-- The characters of a string between single quotes up to its closing quote,
and what follows it. -/
def readLiteral (cs : List Char) : Option (List Char × List Char) :=
  let text := cs.takeWhile fun c => c ≠ '\'' && isPrintable c
  match cs.drop text.length with
  | '\'' :: rest => some (text, rest)
  | _ => none

/-! ## Strings over several lines -/

/-- A text without the line end at its front. -/
def skipLineEnd (cs : List Char) : List Char :=
  (lineEnd? cs).getD cs

/-- The end of a string between three quotes: as many as two more quotes before
them belong to the string. -/
def closing? (quote : Char) (cs : List Char) : Option (List Char × List Char) :=
  let run := min 5 (cs.takeWhile (· = quote)).length
  if run < 3 then none else some (List.replicate (run - 3) quote, cs.drop run)

/-- The characters of a string between three double quotes, and what follows
it.  A backslash at the end of a line takes out the line end and the blank after
it. -/
def readBasicLines : Mode → List Char → Option (List Char × List Char)
  | _, [] => none
  | .after (n + 1), _ :: rest => readBasicLines (.after n) rest
  | .escape, c :: rest =>
    if (lineEnd? (skipGap (c :: rest))).isSome then readBasicLines .afterBlank rest
    else
      match escape? c rest with
      | none => none
      | some (e, width) => (readBasicLines (.after width) rest).map fun (s, r) => (e :: s, r)
  | mode, c :: rest =>
    let lineEnds := (lineEnd? (c :: rest)).isSome
    if mode = .afterBlank ∧ (isGap c ∨ lineEnds) then readBasicLines .afterBlank rest
    else
      match closing? '"' (c :: rest) with
      | some close => some close
      | none =>
        if c = '\\' then readBasicLines .escape rest
        else if isPrintable c ∨ lineEnds then
          (readBasicLines (.after 0) rest).map fun (s, r) => (c :: s, r)
        else none

/-- The characters of a string between three single quotes, and what follows
it. -/
def readLiteralLines : List Char → Option (List Char × List Char)
  | [] => none
  | c :: rest =>
    match closing? '\'' (c :: rest) with
    | some close => some close
    | none =>
      if isPrintable c || (lineEnd? (c :: rest)).isSome then
        (readLiteralLines rest).map fun (s, r) => (c :: s, r)
      else none

/-- The string at the front of a text, of any of the four kinds. -/
def readString (cs : List Char) : Option (List Char × List Char) :=
  match cs with
  | '"' :: '"' :: '"' :: rest => readBasicLines (.after 0) (skipLineEnd rest)
  | '\'' :: '\'' :: '\'' :: rest => readLiteralLines (skipLineEnd rest)
  | '"' :: rest => readBasic (.after 0) rest
  | '\'' :: rest => readLiteral rest
  | _ => none

/-! ## Keys -/

/-- A character of a name without quotes. -/
def isBare (c : Char) : Bool :=
  c.isAlphanum || c = '_' || c = '-'

/-- One part of a key: a name with or without quotes. -/
def readKeyPart (cs : List Char) : Option (String × List Char) :=
  match cs with
  | '"' :: rest => (readBasic (.after 0) rest).map fun (s, r) => (String.ofList s, r)
  | '\'' :: rest => (readLiteral rest).map fun (s, r) => (String.ofList s, r)
  | _ =>
    let part := cs.takeWhile isBare
    if part.isEmpty then none else some (String.ofList part, cs.drop part.length)

/-- The parts of a dotted key, and the text from the first character after it
that is no gap.  The fuel bounds the number of parts. -/
def readKey : (fuel : Nat) → List Char → Option (List String × List Char)
  | 0, _ => none
  | fuel + 1, cs =>
    match readKeyPart cs with
    | none => none
    | some (part, rest) =>
      match skipGap rest with
      | '.' :: rest => (readKey fuel (skipGap rest)).map fun (parts, r) => (part :: parts, r)
      | rest => some ([part], rest)

/-- How many parts a dotted key may have. -/
def pathLimit : Nat :=
  80

/-- The parts of a dotted key that is not too long, and the text from the first
character after it that is no gap. -/
def readPath (cs : List Char) : Option (List String × List Char) :=
  (readKey cs.length cs).filter fun (parts, _) => parts.length ≤ pathLimit

end Toml
end AgentRelay
