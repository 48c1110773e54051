import AgentRelay.Word

/-!
# Prices

A model has four prices, each for a million tokens.  The reported input count
includes the tokens that were written to or read from the cache, so those are
taken off before the plain input price applies; if they exceed the input count
nothing is left.

Main definitions:

- {lit}`Pricing`: the four prices of a model.
- {lit}`Pricing.cost`: the price of one response.
-/

namespace AgentRelay

/-- Prices in dollars for a million tokens. -/
structure Pricing where
  input : Float
  output : Float
  cacheWrites : Float
  cacheReads : Float
deriving DecidableEq, Repr

namespace Pricing

/-- Nothing costs anything. -/
def free : Pricing :=
  ⟨0, 0, 0, 0⟩

/-- The input tokens that neither went into the cache nor came out of it. -/
def uncached (input cacheWrite cacheRead : Nat) : Nat :=
  input - Word.add cacheWrite cacheRead

/-- The price of one response in dollars.  The four parts are added in this
order, each count turned into a double first. -/
def cost (p : Pricing) (input output cacheWrite cacheRead : Nat) : Float :=
  (p.input * Float.ofNat (uncached input cacheWrite cacheRead)
    + p.cacheWrites * Float.ofNat cacheWrite
    + p.cacheReads * Float.ofNat cacheRead
    + p.output * Float.ofNat output) / 1000000

/-- Cached tokens and the rest make up the input again, unless they exceed it. -/
theorem uncached_add {input cacheWrite cacheRead : Nat} (h : cacheWrite + cacheRead ≤ input)
    (hinput : input < UInt64.size) :
    uncached input cacheWrite cacheRead + (cacheWrite + cacheRead) = input := by
  rw [uncached, Word.add_of_lt (Nat.lt_of_le_of_lt h hinput), Nat.sub_add_cancel h]

end Pricing
end AgentRelay
