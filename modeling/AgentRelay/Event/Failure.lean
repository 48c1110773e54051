import AgentRelay.Json.Value
import AgentRelay.Text.Case
import AgentRelay.ToolError

/-!
# Events that report a failure

An event reports a failure when its type tag mentions an error, when its status
is an error, or when it has an error field that says something.  An event may
wrap another one in its message field; the wrapped event is looked at when the
event itself reports nothing.

Main definitions:

- {lit}`Event.kind?`: the type tag of an event, lower-cased.
- {lit}`Event.signals`: an object reports a failure on its own.
- {lit}`Event.failureText`: the text of the failure it reports.
- {lit}`Event.check`: an event is accepted unless it reports a failure.
-/

namespace AgentRelay
namespace Event

/-- The type tag of an event with its ASCII capitals lower-cased. -/
def kind? (event : Json) : Option String :=
  ((event.get? "type").bind Json.string?).map Text.asciiLower

/-- The type tag of an event is one of the given ones. -/
def hasKind (event : Json) (kinds : List String) : Bool :=
  (kind? event).any kinds.contains

theorem kind?_of_type {event : Json} {tag : String}
    (h : event.get? "type" = some (.string tag)) : kind? event = some (Text.asciiLower tag) := by
  simp [kind?, h]

theorem kind?_of_no_type {event : Json} (h : event.get? "type" = none) : kind? event = none := by
  simp [kind?, h]

theorem hasKind_of_kind? {event : Json} {kind : String} (h : kind? event = some kind)
    (kinds : List String) : hasKind event kinds = kinds.contains kind := by
  simp [hasKind, h]

theorem hasKind_of_no_kind {event : Json} (h : kind? event = none) (kinds : List String) :
    hasKind event kinds = false := by
  simp [hasKind, h]

/-- An error field says something: a true flag, a number other than zero, a text
that is not blank, or a container with content. -/
def isTelling : Json → Bool
  | .null => false
  | .bool b => b
  | .number (.integer n) => n ≠ 0
  | .number (.double x) => x != 0
  | .string s => !(s.toList.all Text.isBlank)
  | .array items => !items.isEmpty
  | .object fields => !fields.isEmpty

/-- An object reports a failure on its own. -/
def signals (event : Json) : Bool :=
  (kind? event).any (fun kind => Text.occursIn "error".toList kind.toList) ||
    ((event.get? "status").bind Json.string?).any (fun s => Text.asciiLower s = "error") ||
    (event.get? "error").any isTelling

/-- The text used when a failure comes without one. -/
def genericFailure : String :=
  "Codex CLI reported an error"

/-- Where the text of a failure is looked for: the message inside the error
field, the error field, and the message field. -/
def textSources (event : Json) : List (Option Json) :=
  [(event.get? "error").bind (·.get? "message"), event.get? "error", event.get? "message"]

/-- The text of a reported failure: the first of its sources that is a text and
not empty. -/
def failureText (event : Json) : String :=
  ((textSources event).findSome? (·.bind Json.nonEmptyString?)).getD genericFailure

/-- The failure that an event reports, itself or in the event it wraps. -/
def failure? (event : Json) : Option String :=
  if signals event then some (failureText event)
  else
    match event.getObject? "msg" with
    | some inner => if signals inner then some (failureText inner) else none
    | none => none

/-- An event is accepted unless it reports a failure. -/
def check (event : Json) : Except ToolError Unit :=
  match failure? event with
  | some text => .error (.reported text)
  | none => .ok ()

/-- The text of a reported failure is never empty. -/
theorem failureText_ne_empty (event : Json) : failureText event ≠ "" := by
  unfold failureText
  cases h : (textSources event).findSome? (·.bind Json.nonEmptyString?) with
  | none => simp [genericFailure]
  | some s =>
    obtain ⟨source, _, hs⟩ := List.exists_of_findSome?_eq_some h
    obtain ⟨j, _, hj⟩ := Option.bind_eq_some_iff.1 hs
    simp only [Json.nonEmptyString?, Option.filter_eq_some_iff, decide_eq_true_eq] at hj
    exact hj.2

end Event
end AgentRelay
