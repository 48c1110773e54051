import AgentRelay.Json.Reader
import AgentRelay.Text.Blank

/-!
# Event lines

The tool prints one event per line.  A line is trimmed of blank characters and
read as JSON; blank lines and lines that are not JSON are noise.
-/

namespace AgentRelay
namespace Event

/-- The event that a line of output writes; noise writes none. -/
def ofLine? (line : String) : Option Json :=
  Json.parseChars? (Text.trimChars line.toList)

/-- A blank line writes no event. -/
theorem ofLine?_empty : ofLine? "" = none := by
  decide

end Event
end AgentRelay
