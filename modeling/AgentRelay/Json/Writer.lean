import AgentRelay.Json.Value
import AgentRelay.Decimal.Shortest

/-!
# Writing JSON

Values are written without spaces, and fields in the order they are held.
Strings escape the quote, the backslash and the control characters below U+0020
only, so a written value never contains a line break.  A double is written with
its shortest digits, and always with a fraction or an exponent; an infinite one
is written as null.

Reports meant for people are written with one field or item per line, indented
by two spaces for each level.

Main definitions:

- {lit}`Json.doubleChars`: the text of a double.
- {lit}`Json.stringChars`: a string in quotes.
- {lit}`Json.render`: a value without spaces.
- {lit}`Json.renderIndented`: a value over several lines.
-/

namespace AgentRelay
namespace Json

/-! ## Numbers -/

/-- The decimal digits of an integer, after its sign. -/
def integerChars (n : Int) : List Char :=
  if n < 0 then '-' :: Nat.toDigits 10 n.natAbs else Nat.toDigits 10 n.toNat

/-- Which doubles are written without an exponent: the smallest and the largest
power of ten that their first digit may stand at. -/
structure PositionalRange where
  least : Int
  greatest : Int

/-- Doubles from {lit}`0.00001` to below {lit}`10000000000000000` are written
without an exponent. -/
def positional : PositionalRange :=
  ⟨-5, 15⟩

/-- The digits of a number around its point; the first digit stands at the given
power of ten. -/
def pointedChars (digits : List Char) (lead : Int) : List Char :=
  if lead < 0 then
    '0' :: '.' :: (List.replicate (-lead - 1).toNat '0' ++ digits)
  else
    let whole := lead.toNat + 1
    digits.take whole ++ List.replicate (whole - digits.length) '0' ++
      '.' :: (if digits.length ≤ whole then ['0'] else digits.drop whole)

/-- The digits of a number with its first digit before the point, and the power
of ten it stands at. -/
def exponentChars (digits : List Char) (lead : Int) : List Char :=
  digits.take 1 ++ (if digits.length ≤ 1 then [] else '.' :: digits.drop 1) ++
    'e' :: (if lead < 0 then '-' else '+') :: Nat.toDigits 10 lead.natAbs

/-- The text of a finite double. -/
def finiteChars (b : Decimal.Binary) : List Char :=
  let sign := if b.negative then ['-'] else []
  if b.significand = 0 then sign ++ ['0', '.', '0']
  else
    let (n, power) := Decimal.shortest b
    let digits := Nat.toDigits 10 n
    let lead := power + digits.length - 1
    sign ++
      (if positional.least ≤ lead ∧ lead ≤ positional.greatest then pointedChars digits lead
        else exponentChars digits lead)

/-- The text of a double: null unless it is finite. -/
def doubleChars (x : Float) : List Char :=
  match Decimal.Binary.ofFloat? x with
  | some b => finiteChars b
  | none => ['n', 'u', 'l', 'l']

/-- The text of a number. -/
def numberChars : Number → List Char
  | .integer n => integerChars n
  | .double x => doubleChars x

/-! ## Strings -/

/-- The lower-case hexadecimal digit of a number below sixteen. -/
def hexDigit (n : Nat) : Char :=
  if n < 10 then Char.ofNat ('0'.toNat + n) else Char.ofNat ('a'.toNat + (n - 10))

/-- A character as it is written inside a string. -/
def escapeChar (c : Char) : List Char :=
  if c = '"' then ['\\', '"']
  else if c = '\\' then ['\\', '\\']
  else if c = '\x08' then ['\\', 'b']
  else if c = '\t' then ['\\', 't']
  else if c = '\n' then ['\\', 'n']
  else if c = '\x0c' then ['\\', 'f']
  else if c = '\r' then ['\\', 'r']
  else if c.toNat < 0x20 then
    ['\\', 'u', '0', '0', hexDigit (c.toNat / 16), hexDigit (c.toNat % 16)]
  else [c]

/-- A string in quotes. -/
def stringChars (s : String) : List Char :=
  '"' :: (s.toList.flatMap escapeChar ++ ['"'])

/-- No character is written with a line break. -/
theorem newline_notMem_escapeChar (c : Char) : '\n' ∉ escapeChar c := by
  have digit : ∀ n : Fin 32,
      '\n' ≠ hexDigit (n.val / 16) ∧ '\n' ≠ hexDigit (n.val % 16) := by
    decide
  unfold escapeChar
  repeat' split
  all_goals try decide
  · next h =>
    have := digit ⟨c.toNat, h⟩
    simp [this.1, this.2]
  · next h _ _ _ _ =>
    rename_i hn _ _ _
    intro hc
    simp only [List.mem_singleton] at hc
    exact absurd hc.symm (by assumption)

/-- No string is written with a line break. -/
theorem newline_notMem_stringChars (s : String) : '\n' ∉ stringChars s := by
  simp [stringChars, newline_notMem_escapeChar]

/-! ## Values without spaces -/

mutual

/-- A value without spaces. -/
def renderChars : Json → List Char
  | .null => ['n', 'u', 'l', 'l']
  | .bool true => ['t', 'r', 'u', 'e']
  | .bool false => ['f', 'a', 'l', 's', 'e']
  | .number n => numberChars n
  | .string s => stringChars s
  | .array [] => ['[', ']']
  | .array (item :: rest) => '[' :: (renderChars item ++ renderItems rest)
  | .object [] => ['{', '}']
  | .object ((name, value) :: rest) =>
    '{' :: (stringChars name ++ ':' :: (renderChars value ++ renderFields rest))

/-- The items after the first, up to the closing bracket. -/
def renderItems : List Json → List Char
  | [] => [']']
  | item :: rest => ',' :: (renderChars item ++ renderItems rest)

/-- The fields after the first, up to the closing brace. -/
def renderFields : List (String × Json) → List Char
  | [] => ['}']
  | (name, value) :: rest =>
    ',' :: (stringChars name ++ ':' :: (renderChars value ++ renderFields rest))

end

/-- The text of a value, without spaces. -/
def render (j : Json) : String :=
  String.ofList (renderChars j)

/-! ## Values over several lines -/

/-- A line break and the indentation of a level. -/
def lineStart (level : Nat) : List Char :=
  '\n' :: List.replicate (2 * level) ' '

mutual

/-- A value over several lines, its first line already indented. -/
def indentedChars (level : Nat) : Json → List Char
  | .array [] => ['[', ']']
  | .array (item :: rest) =>
    '[' :: (lineStart (level + 1) ++ indentedChars (level + 1) item ++ indentedItems level rest)
  | .object [] => ['{', '}']
  | .object ((name, value) :: rest) =>
    '{' :: (lineStart (level + 1) ++ stringChars name ++ ':' :: ' ' ::
      (indentedChars (level + 1) value ++ indentedFields level rest))
  | .null => renderChars .null
  | .bool b => renderChars (.bool b)
  | .number n => renderChars (.number n)
  | .string s => renderChars (.string s)

/-- The items after the first, each on its own line. -/
def indentedItems (level : Nat) : List Json → List Char
  | [] => lineStart level ++ [']']
  | item :: rest =>
    ',' :: (lineStart (level + 1) ++ indentedChars (level + 1) item ++ indentedItems level rest)

/-- The fields after the first, each on its own line. -/
def indentedFields (level : Nat) : List (String × Json) → List Char
  | [] => lineStart level ++ ['}']
  | (name, value) :: rest =>
    ',' :: (lineStart (level + 1) ++ stringChars name ++ ':' :: ' ' ::
      (indentedChars (level + 1) value ++ indentedFields level rest))

end

/-- The text of a value over several lines. -/
def renderIndented (j : Json) : String :=
  String.ofList (indentedChars 0 j)

end Json
end AgentRelay
