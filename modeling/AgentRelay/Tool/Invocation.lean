import AgentRelay.Conversation.Prompt
import AgentRelay.Settings.Basic
import AgentRelay.Tool.Launch

/-!
# Invocations

An invocation is one request to the tool: a prompt, and how the tool is to
treat it.  Its options become arguments in a fixed order.

Main definitions:

- {lit}`Invocation`: a request to the tool.
- {lit}`Invocation.args`: its options as arguments.
- {lit}`Invocation.launch`: the launch that makes the request.
-/

namespace AgentRelay

/-- A request to the tool. -/
structure Invocation where
  prompt : Prompt
  binary : String
  model : Option String
  outputSchema : Option String
  sandbox : Option SandboxMode
  fullAuto : Bool
  env : Environment

namespace Invocation

/-- The model to ask for: trimmed, and none when it is blank. -/
def requestedModel (i : Invocation) : Option String :=
  i.model.bind Text.nonBlank?

/-- An option with its value, or nothing. -/
def option (flag : String) : Option String → List String
  | some value => [flag, value]
  | none => []

/-- The options of a request as arguments. -/
def args (i : Invocation) : List String :=
  ["exec", "--json"] ++ option "--model" i.requestedModel ++
    option "--output-schema" i.outputSchema ++
    option "--sandbox" (i.sandbox.map SandboxMode.name) ++
    (if i.fullAuto then ["--full-auto"] else [])

/-- The launch that makes a request. -/
def launch (i : Invocation) : Launch where
  binary := i.binary
  args := i.args
  env := i.env
  channel := .text i.prompt.wire

/-- Every request begins with the same two arguments. -/
theorem take_two_args (i : Invocation) : i.args.take 2 = ["exec", "--json"] := by
  simp [args]

end Invocation
end AgentRelay
