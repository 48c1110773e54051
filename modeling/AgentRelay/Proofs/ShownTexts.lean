import AgentRelay.CommandLine.Screen
import AgentRelay.Proofs.Amounts

/-!
# What is shown of an error and of a usage

The report of an error is a line with its text, and behind it, for the errors that something can be
done about, some advice.  The summary of a usage is one line with its counts and its price; counts
that were left out of the usage are left out of the line.

Main definitions:

- {lit}`ToolError.ToldAs` and {lit}`ToolError.Advises`: the text of an error, and the advice that
  goes with it.
- {lit}`ReportsError`: a text reports an error.
- {lit}`SumsUp`: a line sums up a usage.

Main results:

- Theorem {lit}`reportsError_errorReport`: the report of an error reports it.
- Theorem {lit}`sumsUp_usageLine`: the summary of a usage sums it up.
- Theorem {lit}`newline_notMem_usageLine`: the summary of a usage is one line.
-/

namespace AgentRelay

/-! ## Errors -/

/-- The text of an error.  An exit is told with what is left of its diagnostics when they are
trimmed, if something is. -/
inductive ToolError.ToldAs : ToolError → String → Prop where
  | binaryNotFound (binary hint : String) :
      ToldAs (.binaryNotFound binary hint)
        ("Codex CLI binary not found: " ++ binary ++ ". " ++ hint)
  | processError (message : String) :
      ToldAs (.processError message) ("Codex CLI process error: " ++ message)
  | exited {code : Int} {stderr text : String} (htext : Text.trim stderr = text)
      (h : text ≠ "") :
      ToldAs (.processExit code stderr)
        ("Codex CLI process exited with code " ++ toString code ++ ": " ++ text)
  | exitedSilently {code : Int} {stderr : String} (h : Text.trim stderr = "") :
      ToldAs (.processExit code stderr) ("Codex CLI process exited with code " ++ toString code)
  | reported (message : String) : ToldAs (.reported message) message
  | loginFailed (detail : String) :
      ToldAs (.loginFailed detail) ("Codex CLI login failed: " ++ detail)
  | malformedMessage (details : String) :
      ToldAs (.malformedMessage details) ("Malformed message: " ++ details)
  | internal (message : String) : ToldAs (.internal message) ("Internal error: " ++ message)

/-- Every error is told as its message. -/
theorem ToolError.toldAs_message (e : ToolError) : e.ToldAs e.message := by
  cases e with
  | binaryNotFound binary hint => exact .binaryNotFound binary hint
  | processError message => exact .processError message
  | processExit code stderr =>
    unfold message diagnostics Text.nonBlank?
    by_cases hblank : Text.trim stderr = ""
    · have htold : ToldAs (.processExit code stderr) _ := .exitedSilently hblank
      simpa [hblank] using htold
    · have htold : ToldAs (.processExit code stderr) _ := .exited rfl hblank
      simpa [hblank, String.append_assoc] using htold
  | reported message => exact .reported message
  | loginFailed detail => exact .loginFailed detail
  | malformedMessage details => exact .malformedMessage details
  | internal message => exact .internal message

/-- What there is to do about an error: a missing tool is to be installed, and a failed attempt to
sign in to be repeated in one of two ways. -/
inductive ToolError.Advises : ToolError → String → Prop where
  | install (binary hint : String) : Advises (.binaryNotFound binary hint) installAdvice
  | signIn (detail : String) : Advises (.loginFailed detail) signInAdvice

theorem ToolError.advice?_eq_some_iff (e : ToolError) (text : String) :
    e.advice? = some text ↔ e.Advises text := by
  constructor
  · intro h
    cases e <;> cases h
    · exact .install _ _
    · exact .signIn _
  · rintro (⟨⟩ | ⟨⟩) <;> rfl

/-- A text reports an error: a line with its text and, where something can be done about it, a
blank line and the advice. -/
inductive ReportsError (e : ToolError) : String → Prop where
  | plain {text : String} (htext : e.ToldAs text) (h : ∀ advice, ¬ e.Advises advice) :
      ReportsError e ("error: " ++ text ++ "\n")
  | advised {text advice : String} (htext : e.ToldAs text) (h : e.Advises advice) :
      ReportsError e ("error: " ++ text ++ "\n" ++ ("\n" ++ (advice ++ "\n")))

/-- The report of an error reports it. -/
theorem reportsError_errorReport (e : ToolError) : ReportsError e (errorReport e) := by
  unfold errorReport errorLine adviceLines asLine
  cases hadvice : e.advice? with
  | none =>
    have hnone : ∀ advice, ¬ e.Advises advice := by
      intro advice h
      rw [← e.advice?_eq_some_iff, hadvice] at h
      cases h
    rw [Option.map_none, Option.getD_none, String.append_empty]
    exact .plain e.toldAs_message hnone
  | some advice =>
    have hsome := (e.advice?_eq_some_iff advice).1 hadvice
    exact .advised e.toldAs_message hsome

/-! ## Usage -/

/-- The counts of a usage as they are told: the input and the output always, and the others when
the usage has them. -/
def UsageSummary.countTexts (u : UsageSummary) : List String :=
  [toString u.inputTokens ++ " in", toString u.outputTokens ++ " out"] ++
    u.cacheReadTokens.toList.map (fun n => toString n ++ " " ++ "cached") ++
    u.cacheWriteTokens.toList.map (fun n => toString n ++ " " ++ "cache writes") ++
    u.reasoningTokens.toList.map (fun n => toString n ++ " " ++ "reasoning")

/-- A line sums up a usage: its counts, with commas between them, and its price in dollars with six
places. -/
def SumsUp (u : UsageSummary) (line : String) : Prop :=
  ∃ amount, Decimal.ShowsAmount 6 u.totalCost amount ∧
    line = "tokens: " ++ ", ".intercalate u.countTexts ++ " | cost $" ++ amount

/-- One more count with a comma before it, if there is one. -/
theorem intercalate_append_toList {texts : List String} (h : texts ≠ []) (count : Option Nat)
    (label : String) :
    ", ".intercalate (texts ++ count.toList.map fun n => toString n ++ " " ++ label) =
      ", ".intercalate texts ++
        (count.map fun n => ", " ++ toString n ++ " " ++ label).getD "" := by
  cases count with
  | none => simp
  | some n => simp [String.intercalate_append_of_ne_nil h, String.append_assoc]

/-- The summary of a usage sums it up. -/
theorem sumsUp_usageLine (u : UsageSummary) : SumsUp u (usageLine u) := by
  refine ⟨_, Decimal.showsAmount_fixed 6 u.totalCost, ?_⟩
  have hcounts : ", ".intercalate
      [toString u.inputTokens ++ " in", toString u.outputTokens ++ " out"] =
      toString u.inputTokens ++ " in, " ++ toString u.outputTokens ++ " out" := by
    simp [String.append_assoc]
  rw [UsageSummary.countTexts, intercalate_append_toList (by simp),
    intercalate_append_toList (by simp), intercalate_append_toList (by simp), hcounts]
  simp only [usageLine, String.append_assoc]

theorem newline_notMem_append {s t : String} (hs : '\n' ∉ s.toList) (ht : '\n' ∉ t.toList) :
    '\n' ∉ (s ++ t).toList := by
  rw [String.toList_append, List.mem_append, not_or]
  exact ⟨hs, ht⟩

theorem newline_notMem_toString (n : Nat) : '\n' ∉ (toString n).toList := by
  rw [Nat.toString_eq_repr, Nat.toList_repr]
  exact Json.newline_notMem_digits n

/-- The summary of a usage is one line. -/
theorem newline_notMem_usageLine (u : UsageSummary) : '\n' ∉ (usageLine u).toList := by
  have hpart (label : String) (hlabel : '\n' ∉ label.toList) (count : Option Nat) :
      '\n' ∉ ((count.map fun n => ", " ++ toString n ++ " " ++ label).getD "").toList := by
    cases count with
    | none => simp
    | some n =>
      have hcount := newline_notMem_append (s := ", ") (by decide) (newline_notMem_toString n)
      exact newline_notMem_append (newline_notMem_append hcount (by decide)) hlabel
  have hinput := newline_notMem_append (s := "tokens: ") (by decide)
    (newline_notMem_toString u.inputTokens)
  have houtput := newline_notMem_append (newline_notMem_append hinput (t := " in, ") (by decide))
    (newline_notMem_toString u.outputTokens)
  have hcounts := newline_notMem_append houtput (t := " out") (by decide)
  have hcached := newline_notMem_append hcounts
    (hpart "cached" (by decide) u.cacheReadTokens)
  have hwritten := newline_notMem_append hcached
    (hpart "cache writes" (by decide) u.cacheWriteTokens)
  have hreasoning := newline_notMem_append hwritten
    (hpart "reasoning" (by decide) u.reasoningTokens)
  have hcost := newline_notMem_append hreasoning (t := " | cost $") (by decide)
  exact newline_notMem_append hcost (Decimal.showsAmount_fixed 6 u.totalCost).newline_notMem

end AgentRelay
