/-!
# Exact values of doubles

A finite double is a sign and a whole number of units, each unit a power of
two.  Everything that is printed about a double is computed from this exact
value in whole numbers.

Main definitions:

- {lit}`Binary`: a sign, a significand and a binary exponent.
- {lit}`Binary.ofFloat?`: the exact value of a finite double.
- {lit}`roundDiv`: the whole number next to a quotient, ties to even.
-/

namespace AgentRelay
namespace Decimal

/-- The exact value {lit}`significand * 2 ^ exponent`, with a sign. -/
structure Binary where
  negative : Bool
  significand : Nat
  exponent : Int
deriving DecidableEq, Repr

namespace Binary

/-- The exact value of a finite double, read off its bits; infinities and
undefined results have none. -/
def ofFloat? (x : Float) : Option Binary :=
  let bits : Nat := x.toBits.toNat
  let field : Nat := bits / Nat.pow 2 52 % Nat.pow 2 11
  let fraction : Nat := bits % Nat.pow 2 52
  let negative := bits / Nat.pow 2 63 = 1
  if field = 2047 then none
  else if field = 0 then some ⟨negative, fraction, -1074⟩
  else some ⟨negative, Nat.pow 2 52 + fraction, (field : Int) - 1075⟩

/-- The magnitude times {lit}`10 ^ places`, as a quotient of whole numbers. -/
def scaled (b : Binary) (places : Int) : Nat × Nat :=
  (b.significand * Nat.pow 2 b.exponent.toNat * Nat.pow 10 places.toNat,
    Nat.pow 2 (-b.exponent).toNat * Nat.pow 10 (-places).toNat)

/-- The denominator of a scaled magnitude is positive. -/
theorem scaled_snd_pos (b : Binary) (places : Int) : 0 < (b.scaled places).2 :=
  Nat.mul_pos (Nat.pow_pos (by decide)) (Nat.pow_pos (by decide))

end Binary

/-! ## Rounding quotients -/

/-- The whole number next to {lit}`num / den`; halfway between two, the even one. -/
def roundDiv (num den : Nat) : Nat :=
  let low := num / den
  let twice := 2 * (num % den)
  if twice < den then low
  else if den < twice then low + 1
  else if low % 2 = 0 then low
  else low + 1

end Decimal
end AgentRelay
