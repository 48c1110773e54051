import AgentRelay.Decimal.Binary

/-!
# Decimals with a fixed number of places

Amounts are shown with a fixed number of places.  The exact value of the double
is rounded once; halfway between two amounts the even one is taken.

Main definition:

- {lit}`Decimal.fixed`: the text of a double with a given number of places.
-/

namespace AgentRelay
namespace Decimal

/-- Digits on the left of a number up to a given width are filled with zeros. -/
def padZeros (width : Nat) (digits : List Char) : List Char :=
  List.replicate (width - digits.length) '0' ++ digits

/-- A padded number is at least as wide as asked for. -/
theorem le_length_padZeros (width : Nat) (digits : List Char) :
    width ≤ (padZeros width digits).length := by
  simp [padZeros]
  omega

/-- The text of a value with a given number of places after the point. -/
def fixedChars (places : Nat) (b : Binary) : List Char :=
  let (num, den) := b.scaled places
  let digits := padZeros (places + 1) (Nat.toDigits 10 (roundDiv num den))
  let whole := digits.length - places
  (if b.negative then ['-'] else []) ++ digits.take whole ++
    (if places = 0 then [] else '.' :: digits.drop whole)

/-- The text of a double with a given number of places after the point. -/
def fixed (places : Nat) (x : Float) : String :=
  match Binary.ofFloat? x with
  | some b => String.ofList (fixedChars places b)
  | none => if x == x then (if x < 0 then "-inf" else "inf") else "NaN"

end Decimal
end AgentRelay
