/-!
# Sums in a word

Token counts are kept in 64-bit words, and a sum that does not fit goes round.

Main definition:

- {lit}`Word.add`: the sum of two counts in a word.
-/

namespace AgentRelay
namespace Word

/-- The sum of two counts in a 64-bit word. -/
def add (m n : Nat) : Nat :=
  (m + n) % UInt64.size

/-- A sum that fits is the sum. -/
theorem add_of_lt {m n : Nat} (h : m + n < UInt64.size) : add m n = m + n :=
  Nat.mod_eq_of_lt h

/-- Adding zero to a word leaves it. -/
theorem zero_add {n : Nat} (h : n < UInt64.size) : add 0 n = n := by
  rw [add_of_lt (by omega), Nat.zero_add]

end Word
end AgentRelay
