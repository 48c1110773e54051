import AgentRelay.Usage.Summary

/-!
# Chunks

A response reaches the caller as a stream of chunks: pieces of text, pieces of
reasoning, fragments of tool calls and usage summaries.

Main definitions:

- {lit}`Chunk`: one unit of the stream.
- {lit}`Chunk.toJson`: a chunk as a JSON object, its type tag first and absent
  fields left out.
-/

namespace AgentRelay

/-- One unit of a response. -/
inductive Chunk where
  | text (text : String)
  | reasoning (text : String)
  | toolCall (index : Nat) (id : Option String) (name : Option String) (fragment : String)
  | usage (summary : UsageSummary)
deriving DecidableEq, Repr

/-- A field that is left out when it is absent. -/
def optionalField (name : String) (encode : α → Json) (value : Option α) :
    List (String × Json) :=
  (value.map fun v => (name, encode v)).toList

/-- A field that is left out when absent is found under its own name. -/
@[simp]
theorem lookup_optionalField_self (name : String) (encode : α → Json) (value : Option α) :
    (optionalField name encode value).lookup name = value.map encode := by
  cases value <;> simp [optionalField]

/-- A field that is left out when absent is not found under another name. -/
@[simp]
theorem lookup_optionalField_of_ne {name key : String} (h : key ≠ name) (encode : α → Json)
    (value : Option α) : (optionalField name encode value).lookup key = none := by
  have hne : (key == name) = false := by simp [h]
  cases value <;> simp [optionalField, List.lookup_cons, hne]

/-- The fields of a usage summary. -/
def UsageSummary.fields (u : UsageSummary) : List (String × Json) :=
  [("input_tokens", Json.nat u.inputTokens), ("output_tokens", Json.nat u.outputTokens)] ++
    optionalField "cache_write_tokens" Json.nat u.cacheWriteTokens ++
    optionalField "cache_read_tokens" Json.nat u.cacheReadTokens ++
    optionalField "reasoning_tokens" Json.nat u.reasoningTokens ++
    [("total_cost", .number (.double u.totalCost))]

/-- A chunk as a JSON object. -/
def Chunk.toJson : Chunk → Json
  | .text t => .object [("type", .string "text"), ("text", .string t)]
  | .reasoning t => .object [("type", .string "reasoning"), ("text", .string t)]
  | .toolCall index id name fragment =>
    .object ([("type", .string "tool_call_partial"), ("index", Json.nat index)] ++
      optionalField "id" .string id ++ optionalField "name" .string name ++
      [("arguments_fragment", .string fragment)])
  | .usage u => .object (("type", .string "usage") :: u.fields)

end AgentRelay
