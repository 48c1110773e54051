import AgentRelay.Json.Value

/-!
# Reading JSON numbers

A number without fraction and exponent that fits a 64-bit word is an integer.
Any other number becomes a double: its leading digits are collected in a whole
number below {lit}`2 ^ 64`, turned into a double, and scaled by one power of ten.
A number too large for a double is refused, one too small is zero, and a
negative zero is always a double.

Main definitions:

- {lit}`Json.Digits.collect`: the leading digits of a number and its scale.
- {lit}`Json.scaleByTen`: a whole number times a power of ten, as a double.
- {lit}`Json.readNumber`: the number at the front of a text.
-/

namespace AgentRelay
namespace Json

/-! ## Digits -/

/-- The value of a decimal digit. -/
def digitValue (c : Char) : Nat :=
  c.toNat - '0'.toNat

/-- The whole number written by decimal digits. -/
def natOfDigits (digits : List Char) : Nat :=
  digits.foldl (fun n c => n * 10 + digitValue c) 0

namespace Digits

/-- The largest significand that is collected. -/
def limit : Nat :=
  Nat.pow 2 64 - 1

/-- Digits before the point, collected while they fit; the others are counted. -/
def before (significand : Nat) : List Char → Nat × Nat
  | [] => (significand, 0)
  | c :: cs =>
    if significand * 10 + digitValue c ≤ limit then before (significand * 10 + digitValue c) cs
    else (significand, cs.length + 1)

/-- Digits after the point, collected while they fit and counted; the others are
dropped. -/
def after (significand : Nat) : List Char → Nat × Nat
  | [] => (significand, 0)
  | c :: cs =>
    if significand * 10 + digitValue c ≤ limit then
      let (s, taken) := after (significand * 10 + digitValue c) cs
      (s, taken + 1)
    else (significand, 0)

/-- The leading digits of a number, and the power of ten they stand at. -/
def collect (whole fraction : List Char) : Nat × Int :=
  let (s, skipped) := before 0 whole
  let (s, taken) := after s fraction
  (s, (skipped : Int) - taken)

/-- Digits that fit are collected in full. -/
theorem before_zero_of_le {digits : List Char} (s : Nat)
    (h : digits.foldl (fun n c => n * 10 + digitValue c) s ≤ limit) :
    before s digits = (digits.foldl (fun n c => n * 10 + digitValue c) s, 0) := by
  induction digits generalizing s with
  | nil => rfl
  | cons c cs ih =>
    have grows : ∀ (ds : List Char) (n : Nat),
        n ≤ ds.foldl (fun n c => n * 10 + digitValue c) n := by
      intro ds
      induction ds with
      | nil => intro n; exact Nat.le_refl n
      | cons d ds ihd =>
        intro n
        exact Nat.le_trans (by omega) (ihd (n * 10 + digitValue d))
    have hc : s * 10 + digitValue c ≤ limit := Nat.le_trans (grows cs _) h
    simp only [List.foldl_cons] at h ⊢
    rw [before, if_pos hc, ih _ h]

end Digits

/-! ## Doubles -/

/-- A power of ten as a double. -/
def powerOfTen (n : Nat) : Float :=
  Float.ofScientific 1 false n

/-- A whole number times a power of ten, as a double.  Powers up to {lit}`308`
are applied in one step; a smaller result takes two divisions, after which
nothing is left of any significand. -/
def scaleByTen (significand : Nat) (power : Int) : Option Float :=
  let x := Float.ofNat significand
  if 0 ≤ power then
    if power ≤ 308 then
      let y := x * powerOfTen power.toNat
      if y.isInf then none else some y
    else if significand = 0 then some 0
    else none
  else if -308 ≤ power then some (x / powerOfTen (-power).toNat)
  else if -616 ≤ power then some (x / powerOfTen 308 / powerOfTen (-308 - power).toNat)
  else some 0

/-- A double with the sign that was written. -/
def signed (negative : Bool) (x : Float) : Float :=
  if negative then -x else x

/-! ## Numbers -/

/-- The exponent at the front of a text: none is zero, and a mark without digits
is refused. -/
def readExponent (cs : List Char) : Option (Option Int × List Char) :=
  match cs with
  | c :: rest =>
    if c = 'e' ∨ c = 'E' then
      let (negative, rest) := match rest with
        | '-' :: r => (true, r)
        | '+' :: r => (false, r)
        | r => (false, r)
      let digits := rest.takeWhile Char.isDigit
      if digits.isEmpty then none
      else
        let n : Int := natOfDigits digits
        some (some (if negative then -n else n), rest.dropWhile Char.isDigit)
    else some (none, cs)
  | [] => some (none, [])

/-- The fraction at the front of a text: a point without digits is refused. -/
def readFraction (cs : List Char) : Option (Option (List Char) × List Char) :=
  match cs with
  | '.' :: rest =>
    let digits := rest.takeWhile Char.isDigit
    if digits.isEmpty then none else some (some digits, rest.dropWhile Char.isDigit)
  | _ => some (none, cs)

/-- The number with the given sign, digits and scale. -/
def numberOf (negative : Bool) (whole : List Char) (fraction : Option (List Char))
    (exponent : Option Int) : Option Number :=
  let (significand, power) := Digits.collect whole (fraction.getD [])
  if fraction.isNone ∧ exponent.isNone ∧ power = 0 then
    if negative = false then some (.integer significand)
    else if significand = 0 ∨ Nat.pow 2 63 < significand then
      some (.double (-Float.ofNat significand))
    else some (.integer (-significand))
  else
    (scaleByTen significand (power + exponent.getD 0)).map fun x => .double (signed negative x)

/-- The number at the front of a text.  Its whole part has no leading zeros. -/
def readNumber (cs : List Char) : Option (Number × List Char) := do
  let (negative, cs) := match cs with
    | '-' :: rest => (true, rest)
    | rest => (false, rest)
  let whole := cs.takeWhile Char.isDigit
  if whole.isEmpty ∨ (whole.head? = some '0' ∧ 1 < whole.length) then none
  else
    let (fraction, cs) ← readFraction (cs.dropWhile Char.isDigit)
    let (exponent, cs) ← readExponent cs
    let n ← numberOf negative whole fraction exponent
    some (n, cs)

end Json
end AgentRelay
