import AgentRelay.Json.Reader

/-!
# Numbers of a TOML document

No setting is a number, but a document may hold numbers, and then they have to
be well formed: digits grouped by single underscores, whole numbers of at most
128 bits, and decimals that do not overflow a double.

Main definitions:

- {lit}`Toml.isInteger` and {lit}`Toml.isDecimal`: well-formed numbers.
-/

namespace AgentRelay
namespace Toml

/-! ## Numbers -/

/-- Digits, with single underscores between some of them. -/
def isGrouped (isDigit : Char → Bool) : List Char → Bool
  | [] => false
  | [c] => isDigit c
  | c :: '_' :: rest => isDigit c && isGrouped isDigit rest
  | c :: rest => isDigit c && isGrouped isDigit rest

/-- The number that grouped digits write in a base. -/
def groupedValue (base : Nat) (cs : List Char) : Nat :=
  (cs.filterMap Json.hexValue?).foldl (fun n d => n * base + d) 0

/-- The sign of a number. -/
inductive Sign where
  | plus
  | minus
deriving DecidableEq, Repr

/-- A sign, when there is one, and the text after it. -/
def splitSign : List Char → Option Sign × List Char
  | '-' :: rest => (some .minus, rest)
  | '+' :: rest => (some .plus, rest)
  | cs => (none, cs)

/-- Grouped decimal digits without a leading zero. -/
def isWhole (cs : List Char) : Bool :=
  isGrouped Char.isDigit cs && (cs.length = 1 || cs.head? ≠ some '0')

/-- A hexadecimal digit. -/
def isHexDigit (c : Char) : Bool :=
  (Json.hexValue? c).isSome

/-- An octal digit. -/
def isOctalDigit (c : Char) : Bool :=
  '0' ≤ c && c ≤ '7'

/-- A binary digit. -/
def isBinaryDigit (c : Char) : Bool :=
  c = '0' || c = '1'

/-- A whole number: decimal with an optional sign, or in another base without
one. -/
def isInteger (cs : List Char) : Bool :=
  match cs with
  | '0' :: 'x' :: digits => isGrouped isHexDigit digits && groupedValue 16 digits < Nat.pow 2 128
  | '0' :: 'o' :: digits => isGrouped isOctalDigit digits && groupedValue 8 digits < Nat.pow 2 128
  | '0' :: 'b' :: digits => isGrouped isBinaryDigit digits && groupedValue 2 digits < Nat.pow 2 128
  | _ =>
    let (sign, digits) := splitSign cs
    isWhole digits &&
      (if sign = some .minus then groupedValue 10 digits ≤ Nat.pow 2 127
        else groupedValue 10 digits < Nat.pow 2 128)

/-- The least number that is rounded to infinity. -/
def firstInfinite : Nat :=
  Nat.pow 2 1024 - Nat.pow 2 970

/-- The number {lit}`m * 10 ^ power` is too large for a double. -/
def overflows (m : Nat) (power : Int) : Bool :=
  let lead := (Nat.toDigits 10 m).length + power
  if m = 0 ∨ lead < 309 then false
  else if 310 ≤ lead then true
  else firstInfinite * Nat.pow 10 (-power).toNat ≤ m * Nat.pow 10 power.toNat

/-- A decimal number with a fraction, an exponent or both. -/
def isDecimal (cs : List Char) : Bool :=
  let body := (splitSign cs).2
  if body = ['i', 'n', 'f'] ∨ body = ['n', 'a', 'n'] then true
  else
    let whole := body.takeWhile fun c => c.isDigit || c = '_'
    let (fraction, rest) : List Char × List Char :=
      match body.drop whole.length with
      | '.' :: rest =>
        let digits := rest.takeWhile fun c => c.isDigit || c = '_'
        (digits, rest.drop digits.length)
      | rest => ([], rest)
    let pointed := (body.drop whole.length).head? = some '.'
    let exponent : Option (Option Sign × List Char) :=
      match rest with
      | c :: rest => if c = 'e' ∨ c = 'E' then some (splitSign rest) else none
      | [] => none
    let power : Int :=
      match exponent with
      | some (some .minus, digits) => -groupedValue 10 digits
      | some (_, digits) => groupedValue 10 digits
      | none => 0
    let places := (fraction.filter Char.isDigit).length
    isWhole whole && (!pointed || isGrouped Char.isDigit fraction) &&
      (rest.isEmpty || exponent.any fun e => isGrouped Char.isDigit e.2) &&
      (pointed || exponent.isSome) &&
      !overflows (groupedValue 10 (whole ++ fraction)) (power - places)

end Toml
end AgentRelay
