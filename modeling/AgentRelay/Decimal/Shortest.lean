import AgentRelay.Decimal.Binary

/-!
# Shortest decimals

The text of a double uses the fewest decimal digits that read back as the same
double, and among those the ones closest to its exact value.

For one, two, up to seventeen digits the search looks at the two neighbours of
the value on that decimal grid and asks which of them lie in the interval of
numbers that round to the double.  The interval includes its ends exactly when
the significand is even.

Main definitions:

- {lit}`Decimal.Interval.covers`: a grid point rounds to the double.
- {lit}`Decimal.shortest`: digits and the power of ten they count.
-/

namespace AgentRelay
namespace Decimal

/-! ## The rounding interval -/

/-- The numbers that round to a double, in quarters of its unit: from
{lit}`low / 4` to {lit}`high / 4` times {lit}`2 ^ exponent`. -/
structure Interval where
  low : Nat
  high : Nat
  exponent : Int
  closed : Bool
deriving DecidableEq, Repr

/-- The interval around a positive value.  Below a power of two the doubles lie
twice as dense, so the lower end is only a quarter of a unit away. -/
def Interval.around (b : Binary) : Interval where
  low := if b.significand = Nat.pow 2 52 ∧ b.exponent ≠ -1074 then 4 * b.significand - 1
    else 4 * b.significand - 2
  high := 4 * b.significand + 2
  exponent := b.exponent - 2
  closed := b.significand % 2 = 0

/-- The grid point {lit}`n * 10 ^ power` lies in the interval. -/
def Interval.covers (i : Interval) (n : Nat) (power : Int) : Bool :=
  let point := n * Nat.pow 10 power.toNat * Nat.pow 2 (-i.exponent).toNat
  let unit := Nat.pow 10 (-power).toNat * Nat.pow 2 i.exponent.toNat
  if i.closed then i.low * unit ≤ point && point ≤ i.high * unit
  else i.low * unit < point && point < i.high * unit

/-! ## Digits -/

/-- Number of decimal digits of a whole number. -/
def digitCount (n : Nat) : Nat :=
  (Nat.toDigits 10 n).length

/-- The largest power of ten that is at most the positive quotient
{lit}`num / den`. -/
def leadingPower (num den : Nat) : Int :=
  if den ≤ num then (digitCount (num / den) : Int) - 1
  else if den ≤ num * 10 then -1
  else -(digitCount ((den - 1) / num) : Int)

/-- A number without its trailing zeros, and the power of ten adjusted to match;
at most {lit}`fuel` of them are taken off. -/
def dropZeros : Nat → Nat → Int → Nat × Int
  | 0, n, power => (n, power)
  | fuel + 1, n, power =>
    if n ≠ 0 ∧ n % 10 = 0 then dropZeros fuel (n / 10) (power + 1) else (n, power)

/-- The grid point with {lit}`count` digits that rounds to the value: the nearer
of the two neighbours, and of two equally near ones the even. -/
def candidate? (b : Binary) (lead : Int) (count : Nat) : Option (Nat × Int) :=
  let power := lead - count + 1
  let (num, den) := b.scaled (-power)
  let low := num / den
  let nearer := roundDiv num den
  let farther := if nearer = low then low + 1 else low
  let interval := Interval.around b
  if interval.covers nearer power then some (nearer, power)
  else if interval.covers farther power then some (farther, power)
  else none

/-- The fewest digits that read back as a positive value, as a whole number and
the power of ten it counts. -/
def shortest (b : Binary) : Nat × Int :=
  let (num, den) := b.scaled 0
  let lead := leadingPower num den
  let found := (List.range 17).findSome? fun k => candidate? b lead (k + 1)
  let (n, power) := found.getD (num / den, 0)
  dropZeros 20 n power

end Decimal
end AgentRelay
