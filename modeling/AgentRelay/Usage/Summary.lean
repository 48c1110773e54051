import AgentRelay.Model.Catalog
import AgentRelay.Usage.Counts

/-!
# Priced usage

A usage summary is what a caller sees of a response's token counts: the counts
with their price.  Cache counts of zero are left out.

Main definitions:

- {lit}`UsageSummary` and {lit}`TokenCounts.priced`: counts with their price.
- {lit}`Usage.summary?`: the summary of a usage object.
-/

namespace AgentRelay

/-- Token counts of one response with their price. -/
structure UsageSummary where
  inputTokens : Nat
  outputTokens : Nat
  cacheWriteTokens : Option Nat
  cacheReadTokens : Option Nat
  reasoningTokens : Option Nat
  totalCost : Float
deriving DecidableEq, Repr

/-- A count that is left out when it is zero. -/
def nonZero? (n : Nat) : Option Nat :=
  if n = 0 then none else some n

/-- Leaving a zero out loses nothing. -/
@[simp]
theorem getD_nonZero? (n : Nat) : (nonZero? n).getD 0 = n := by
  by_cases h : n = 0 <;> simp [nonZero?, h]

/-- A count that is reported is not zero. -/
theorem nonZero?_ne_some_zero (n : Nat) : nonZero? n ≠ some 0 := by
  by_cases h : n = 0 <;> simp [nonZero?, h]

/-- Counts with the price they have under a model. -/
def TokenCounts.priced (c : TokenCounts) (p : Pricing) : UsageSummary where
  inputTokens := c.input
  outputTokens := c.output
  cacheWriteTokens := nonZero? c.cacheWrite
  cacheReadTokens := nonZero? c.cacheRead
  reasoningTokens := c.reasoning
  totalCost := p.cost c.input c.output c.cacheWrite c.cacheRead

/-- The summary of a usage object; anything else has none. -/
def Usage.summary? (usage : Json) (model : Model) : Option UsageSummary :=
  (Usage.resolve? usage).map (·.priced model.pricing)

end AgentRelay
