import AgentRelay.Json.Value
import AgentRelay.Word

/-!
# Token counts

The tool reports token usage as a JSON object, under field names that differ
from one dialect to the next.  For every counter the first of its names that
holds a number decides; a counter without one is zero.

When no input count is reported, or it is zero, the details object may still
give the cached and the missed part, and their sum in a word is the input count.

Main definitions:

- {lit}`TokenCounts`: the five counters.
- {lit}`Usage.count?`: a JSON number as a count.
- {lit}`Usage.resolve?`: the counters of a usage object.
-/

namespace AgentRelay

/-- Token counts of one response. -/
structure TokenCounts where
  input : Nat
  output : Nat
  cacheWrite : Nat
  cacheRead : Nat
  reasoning : Option Nat
deriving DecidableEq, Repr

namespace Usage

/-! ## Field names -/

/-- Names of the input count. -/
def inputNames : List String :=
  ["input_tokens", "prompt_tokens"]

/-- Names of the output count. -/
def outputNames : List String :=
  ["output_tokens", "completion_tokens"]

/-- Names of the count of tokens written to the cache. -/
def cacheWriteNames : List String :=
  ["cache_creation_input_tokens", "cache_write_tokens"]

/-- Names of the count of tokens read from the cache. -/
def cacheReadNames : List String :=
  ["cache_read_input_tokens", "cached_input_tokens", "cache_read_tokens"]

/-- Names of the object that details the input. -/
def inputDetailNames : List String :=
  ["input_tokens_details", "prompt_tokens_details"]

/-- Names of the object that details the output. -/
def outputDetailNames : List String :=
  ["output_tokens_details", "completion_tokens_details"]

/-! ## Counts -/

/-- A JSON number as a count: negative numbers are zero, fractions go to the
nearest whole number and halves away from zero, and nothing exceeds a 64-bit
word. -/
def count? : Json → Option Nat
  | .number (.integer n) => some n.toNat
  | .number (.double x) => some (if 0 < x then x.round.toUInt64.toNat else 0)
  | _ => none

/-- The count in a field, zero without a number. -/
def countIn (j : Json) (name : String) : Nat :=
  ((j.get? name).bind count?).getD 0

/-- The count in the first of several fields that holds a number. -/
def countUnder (j : Json) (names : List String) : Nat :=
  (names.findSome? fun name => (j.get? name).bind count?).getD 0

/-- The first of several fields that holds an object. -/
def objectIn? (j : Json) (names : List String) : Option Json :=
  names.findSome? j.getObject?

/-- The counters of a usage object; anything else has none. -/
def resolve? (usage : Json) : Option TokenCounts :=
  if usage.isObject then
    let details := objectIn? usage inputDetailNames
    let flatInput := countUnder usage inputNames
    let split := details.elim 0 fun d =>
      Word.add (countIn d "cached_tokens") (countIn d "cache_miss_tokens")
    let flatRead := countUnder usage cacheReadNames
    let reasoning :=
      (((objectIn? usage outputDetailNames).bind (·.get? "reasoning_tokens")).or
        (usage.get? "reasoning_output_tokens")).bind count?
    some {
      input := if flatInput = 0 then split else flatInput
      output := countUnder usage outputNames
      cacheWrite := countUnder usage cacheWriteNames
      cacheRead := if flatRead = 0 then details.elim 0 (countIn · "cached_tokens") else flatRead
      reasoning := reasoning }
  else none

/-- Exactly the objects have counters. -/
theorem resolve?_isSome (usage : Json) : (resolve? usage).isSome = usage.isObject := by
  cases h : usage.isObject <;> simp [resolve?, h]

end Usage
end AgentRelay
