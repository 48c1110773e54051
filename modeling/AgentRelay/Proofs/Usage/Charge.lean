import AgentRelay.Proofs.Usage.Reading
import AgentRelay.Usage.Summary

/-!
# Input that is only split

Some tools report no input count but how much of the input came out of the cache and how much
did not.  The input count is then the sum of both, and prices take an input count to include
the cached tokens.  So the cached part is charged at the price of cache reads, the missed part
at the price of input, and no token is charged twice or not at all.

Main definitions:

- {lit}`Usage.SplitOnly`: the input is only given by its parts.

Main results:

- Theorem {lit}`charge_of_splitOnly`: what is counted and charged for such an input.
-/

namespace AgentRelay
namespace Usage

/-- All counts of the input that stand in fields of their own are zero, for whatever reason;
the details that are read give the cached and the missed part, a part that is missing as
zero. -/
structure SplitOnly (usage : Json) (cached missed : Nat) : Prop where
  input : countUnder usage inputNames = 0
  cacheRead : countUnder usage cacheReadNames = 0
  cacheWrite : countUnder usage cacheWriteNames = 0
  parts : ∃ details, objectIn? usage inputDetailNames = some details ∧
    countIn details "cached_tokens" = cached ∧ countIn details "cache_miss_tokens" = missed

variable {usage : Json} {cached missed : Nat}

/-- Such a usage object has details, so it is an object. -/
theorem SplitOnly.isObject (h : SplitOnly usage cached missed) : usage.isObject = true := by
  obtain ⟨details, hdetails, -, -⟩ := h.parts
  obtain ⟨name, -, hname⟩ := List.exists_of_findSome?_eq_some hdetails
  exact Json.isObject_self_of_getObject? hname

theorem SplitOnly.split_eq (h : SplitOnly usage cached missed) :
    (read usage).split = some (cached, missed) := by
  obtain ⟨details, hdetails, hcached, hmissed⟩ := h.parts
  rw [split_of_objectIn? hdetails, hcached, hmissed]

/-- The input is what its parts add up to, when that is a word. -/
theorem SplitOnly.input_counts_eq (h : SplitOnly usage cached missed)
    (hfits : cached + missed < UInt64.size) : (read usage).counts.input = cached + missed := by
  have hinput : (read usage).input = 0 := h.input
  simp only [Reading.counts, hinput, if_true, h.split_eq, Option.elim_some]
  exact Word.add_of_lt hfits

theorem SplitOnly.cacheRead_counts_eq (h : SplitOnly usage cached missed) :
    (read usage).counts.cacheRead = cached := by
  have hread : (read usage).cacheRead = 0 := h.cacheRead
  simp only [Reading.counts, hread, if_true, h.split_eq, Option.elim_some]

theorem SplitOnly.cacheWrite_counts_eq (h : SplitOnly usage cached missed) :
    (read usage).counts.cacheWrite = 0 :=
  h.cacheWrite

/-- When the input is only given by its parts, and their sum is a 64-bit word, every token of
it is charged once: the input count is that sum, the missed part is what is left of it at the
price of input, and the cached part has the price of cache reads. -/
theorem charge_of_splitOnly (h : SplitOnly usage cached missed)
    (hfits : cached + missed < Nat.pow 2 64) :
    ∃ counts : TokenCounts, resolve? usage = some counts ∧
      counts.input = cached + missed ∧ counts.input < Nat.pow 2 64 ∧
      counts.cacheRead = cached ∧
      Pricing.uncached counts.input counts.cacheWrite counts.cacheRead = missed ∧
      missed + (counts.cacheWrite + counts.cacheRead) = counts.input ∧
      ∀ p : Pricing, (counts.priced p).totalCost =
        (p.input * Float.ofNat missed + p.cacheWrites * Float.ofNat 0 +
          p.cacheReads * Float.ofNat cached + p.output * Float.ofNat counts.output) / 1000000 := by
  have hinput := h.input_counts_eq hfits
  have hread := h.cacheRead_counts_eq
  have hwrite := h.cacheWrite_counts_eq
  generalize hcounts : (read usage).counts = counts at hinput hread hwrite
  have huncached : Pricing.uncached counts.input counts.cacheWrite counts.cacheRead = missed := by
    have hcached : cached < UInt64.size := Nat.lt_of_le_of_lt (Nat.le_add_right _ _) hfits
    rw [hinput, hread, hwrite, Pricing.uncached, Word.zero_add hcached, Nat.add_sub_cancel_left]
  have hbound : counts.cacheWrite + counts.cacheRead ≤ counts.input := by omega
  refine ⟨counts, ?_, hinput, ?_, hread, huncached, ?_, ?_⟩
  · rw [resolve?_eq_counts h.isObject, hcounts]
  · rw [hinput]
    exact hfits
  · rw [← huncached]
    exact Pricing.uncached_add hbound (hinput ▸ hfits)
  · intro p
    rw [TokenCounts.priced, Pricing.cost, huncached, hwrite, hread]

/-- A hundred input tokens, given by their parts alone. -/
def splitUsage : Json :=
  .object [("completion_tokens", .nat 4), ("prompt_tokens", .nat 0),
    ("prompt_tokens_details",
      .object [("cache_miss_tokens", .nat 70), ("cached_tokens", .nat 30)])]

theorem splitOnly_splitUsage : SplitOnly splitUsage 30 70 where
  input := by decide
  cacheRead := by decide
  cacheWrite := by decide
  parts := ⟨_, rfl, by decide, by decide⟩

/-- Thirty tokens are charged as read from the cache, and seventy as input. -/
theorem charge_of_splitUsage :
    ∃ counts : TokenCounts, resolve? splitUsage = some counts ∧ counts.input = 100 ∧
      counts.cacheRead = 30 ∧
      Pricing.uncached counts.input counts.cacheWrite counts.cacheRead = 70 := by
  obtain ⟨counts, hcounts, hinput, -, hread, huncached, -⟩ :=
    charge_of_splitOnly splitOnly_splitUsage (by decide)
  exact ⟨counts, hcounts, hinput, hread, huncached⟩

end Usage
end AgentRelay
