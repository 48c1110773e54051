import AgentRelay.Proofs.AuthCheck
import AgentRelay.Proofs.Auth.Report

/-!
# Asking for the status or trying the tool out

A tool is asked for a report on the authentication, and tried out only if it ran, failed, and
said that it does not know the request.  What a failed run says is the first of its diagnostics
and its output that is not blank, and otherwise how it ended.  The status comes from the trial
exactly if there was one, and a launch or a run that failed always leaves a status with a detail
that nobody is signed in.

Main definitions:

- {lit}`Output.Complains`: what a failed run says.
- {lit}`Run.FailsWith`: the text that is told about a launch that came to nothing.
- {lit}`Probed`: the status and the runs that asking for the status comes to.

Main results:

- Theorem {lit}`Output.complaint_eq_iff`: the complaint of an output is what it says.
- Theorem {lit}`Tool.exists_makes_authStatus_probed`: what asking for the status comes to, however
  the tool behaves.
-/

namespace AgentRelay

/-! ## What a failed run says -/

/-- How the ending of a run is told. -/
inductive Ending.ToldAs : Ending → String → Prop where
  | exited (code : Int) : ToldAs (.exited code) ("exited with code " ++ toString code)
  | signalled : ToldAs .signalled "terminated by signal"
  | lingering : ToldAs .lingering "terminated by signal"

/-- Bytes say a text: it is what is left of them when they are decoded leniently and trimmed, and
something is left. -/
def Says (bytes : List UInt8) (text : String) : Prop :=
  Text.trim (Text.Utf8.decodeLossy bytes) = text ∧ text ≠ ""

/-- What a failed run says: the text of its diagnostics or else of its output, and if neither says
one, how it ended. -/
inductive Output.Complains (o : Output) (text : String) : Prop where
  | said (h : FirstAnswer Says [o.stderr, o.stdout] text)
  | ended (hsilent : NoAnswer Says [o.stderr, o.stdout]) (h : o.ending.ToldAs text)

theorem Output.toldAs_iff (o : Output) (text : String) :
    o.ending.ToldAs text ↔ o.endingText = text := by
  unfold endingText
  constructor
  · intro h
    cases hending : o.ending <;> rw [hending] at h <;> cases h <;> rfl
  · rintro rfl
    cases o.ending with
    | exited code => exact .exited code
    | signalled => exact .signalled
    | lingering => exact .lingering

/-- The complaint of an output is what it says. -/
theorem Output.complaint_eq_iff (o : Output) (text : String) :
    o.complaint = text ↔ o.Complains text := by
  have hgives : ∀ bytes text, Text.nonBlank? (Text.Utf8.decodeLossy bytes) = some text ↔
      Says bytes text := fun _ _ => Text.nonBlank?_eq_some_iff _ _
  unfold complaint
  cases hsaid : [o.stderr, o.stdout].findSome?
      fun bytes => Text.nonBlank? (Text.Utf8.decodeLossy bytes) with
  | some said =>
    rw [Option.getD_some]
    constructor
    · rintro rfl
      exact .said ((findSome?_eq_some_iff_firstAnswer hgives).1 hsaid)
    · rintro (h | ⟨hsilent, -⟩)
      · rw [(findSome?_eq_some_iff_firstAnswer hgives).2 h] at hsaid
        exact (Option.some.inj hsaid).symm
      · rw [(findSome?_eq_none_iff_noAnswer hgives).2 hsilent] at hsaid
        cases hsaid
  | none =>
    rw [Option.getD_none, ← o.toldAs_iff]
    constructor
    · exact .ended ((findSome?_eq_none_iff_noAnswer hgives).1 hsaid)
    · rintro (h | ⟨-, h⟩)
      · rw [(findSome?_eq_some_iff_firstAnswer hgives).2 h] at hsaid
        cases hsaid
      · exact h

theorem Output.complains_complaint (o : Output) : o.Complains o.complaint :=
  (o.complaint_eq_iff _).1 rfl

theorem Output.succeeded_iff_exited (o : Output) : o.succeeded = true ↔ o.ending = .exited 0 :=
  decide_eq_true_iff

/-- A request is refused when a marker is mentioned. -/
theorem isUnsupported_iff (text : String) :
    isUnsupported text = true ↔ Text.Mentioned unsupportedMarkers text :=
  Text.mentions_iff (by decide) text

/-! ## Launches that came to nothing -/

/-- The text that is told about a launch that came to nothing: why it could not be made, or what
the failed run says. -/
inductive Run.FailsWith (r : Run) : String → Prop where
  | refused {failure : LaunchFailure} (h : r.reply = .failed failure) :
      FailsWith r (failure.toError r.launch).message
  | ran {output : Output} {text : String} (h : r.reply = .ran output)
      (hcode : output.ending ≠ .exited 0) (htext : output.Complains text) : FailsWith r text

/-- The text of every failure but a reported one begins with a fixed text. -/
theorem ToolError.message_ne_empty {e : ToolError} (h : ∀ text, e ≠ .reported text) :
    e.message ≠ "" := by
  cases e with
  | reported text => exact absurd rfl (h text)
  | binaryNotFound | processError | processExit | loginFailed | malformedMessage | internal =>
    unfold message
    simp [String.append_eq_empty_iff]

/-- Why nothing came out of a launch is never told in an empty text. -/
theorem LaunchFailure.message_ne_empty (failure : LaunchFailure) (launch : Launch) :
    (failure.toError launch).message ≠ "" := by
  apply ToolError.message_ne_empty
  intro text h
  cases failure with
  | notFound | other => cases h
  | unwaited reason =>
    unfold toError at h
    cases hchannel : launch.channel <;> rw [hchannel] at h <;> cases h

namespace Run

variable {r : Run} {text : String}

/-- What is told about a launch that came to nothing is never empty. -/
theorem FailsWith.ne_empty (h : r.FailsWith text) : text ≠ "" := by
  cases h with
  | refused => exact LaunchFailure.message_ne_empty _ _
  | @ran output _ _ _ htext =>
    rw [← (output.complaint_eq_iff text).2 htext]
    exact output.complaint_ne_empty

theorem FailsWith.not_succeeded (h : r.FailsWith text) : ¬ r.Succeeded := by
  rintro ⟨output, hran, hsucceeded⟩
  cases h with
  | refused hrefused =>
    rw [hrefused] at hran
    cases hran
  | ran hran' hcode =>
    rw [hran'] at hran
    cases hran
    exact hcode ((output.succeeded_iff_exited).1 hsucceeded)

/-- A launch succeeds or comes to nothing, and a trial shows which. -/
theorem trial_cases (r : Run) :
    (r.Succeeded ∧ AuthStatus.ofTrial r.captured = .signedIn .heuristic) ∨
      ∃ text, r.FailsWith text ∧ AuthStatus.ofTrial r.captured = .signedOut .heuristic text := by
  cases hreply : r.reply with
  | failed failure =>
    refine .inr ⟨_, .refused hreply, ?_⟩
    simp only [captured, hreply, AuthStatus.ofTrial]
  | ran output =>
    by_cases hsucceeded : output.succeeded = true
    · refine .inl ⟨⟨output, hreply, hsucceeded⟩, ?_⟩
      simp only [captured, hreply, AuthStatus.ofTrial, hsucceeded, if_true]
    · have hcode : output.ending ≠ .exited 0 := mt output.succeeded_iff_exited.2 hsucceeded
      refine .inr ⟨_, .ran hreply hcode output.complains_complaint, ?_⟩
      simp only [captured, hreply, AuthStatus.ofTrial, if_neg hsucceeded]

end Run

/-! ## Asking for the status -/

/-- The status and the runs that asking for the status comes to, given the request for a report
and the trial that would follow it. -/
inductive Probed (asked tried : Run) : AuthStatus → List Run → Prop where
  | refused {failure : LaunchFailure} (h : asked.reply = .failed failure) :
      Probed asked tried
        (.signedOut .structured (failure.toError asked.launch).message) [asked]
  | reported {output : Output} (h : asked.reply = .ran output)
      (hcode : output.ending = .exited 0) :
      Probed asked tried (.ofReport (Text.Utf8.decodeLossy output.stdout)) [asked]
  | failed {output : Output} {text : String} (h : asked.reply = .ran output)
      (hcode : output.ending ≠ .exited 0) (htext : output.Complains text)
      (hknown : ¬ Text.Mentioned unsupportedMarkers text) :
      Probed asked tried (.signedOut .structured text) [asked]
  | trialSucceeded {output : Output} {text : String} (h : asked.reply = .ran output)
      (hcode : output.ending ≠ .exited 0) (htext : output.Complains text)
      (hunknown : Text.Mentioned unsupportedMarkers text) (htried : tried.Succeeded) :
      Probed asked tried (.signedIn .heuristic) [asked, tried]
  | trialFailed {output : Output} {text detail : String} (h : asked.reply = .ran output)
      (hcode : output.ending ≠ .exited 0) (htext : output.Complains text)
      (hunknown : Text.Mentioned unsupportedMarkers text) (htried : tried.FailsWith detail) :
      Probed asked tried (.signedOut .heuristic detail) [asked, tried]

namespace Probed

variable {asked tried : Run} {status : AuthStatus} {runs : List Run}

/-- A status that the answer to the request tells. -/
theorem of_answer (tried : Run) (h : AuthStatus.ofAnswer? asked.captured = some status) :
    Probed asked tried status [asked] := by
  unfold Run.captured AuthStatus.ofAnswer? at h
  cases hreply : asked.reply with
  | failed failure =>
    simp only [hreply, Option.some.injEq] at h
    subst h
    exact .refused hreply
  | ran output =>
    simp only [hreply] at h
    split_ifs at h with hsucceeded hunsupported
    · cases h
      exact .reported hreply (output.succeeded_iff_exited.1 hsucceeded)
    · cases h
      rw [isUnsupported_iff] at hunsupported
      rw [output.succeeded_iff_exited] at hsucceeded
      exact .failed hreply hsucceeded output.complains_complaint hunsupported

/-- The status of a trial, when the answer to the request tells none. -/
theorem of_trial (tried : Run) (h : AuthStatus.ofAnswer? asked.captured = none) :
    Probed asked tried (.ofTrial tried.captured) [asked, tried] := by
  unfold Run.captured AuthStatus.ofAnswer? at h
  cases hreply : asked.reply with
  | failed failure => simp only [hreply, reduceCtorEq] at h
  | ran output =>
    simp only [hreply] at h
    split_ifs at h with hsucceeded hunsupported
    rw [isUnsupported_iff] at hunsupported
    rw [output.succeeded_iff_exited] at hsucceeded
    have htext := output.complains_complaint
    rcases tried.trial_cases with ⟨htried, hstatus⟩ | ⟨detail, htried, hstatus⟩
    · rw [hstatus]
      exact .trialSucceeded hreply hsucceeded htext hunsupported htried
    · rw [hstatus]
      exact .trialFailed hreply hsucceeded htext hunsupported htried

/-- The status comes from the trial exactly if there was one. -/
theorem source_eq_heuristic_iff (h : Probed asked tried status runs) :
    status.source = .heuristic ↔ runs = [asked, tried] := by
  cases h with
  | reported => simp [AuthStatus.ofReport_source]
  | refused | failed | trialSucceeded | trialFailed =>
    simp [AuthStatus.signedIn, AuthStatus.signedOut]

/-- A trial that was made decides whether somebody is signed in. -/
theorem authenticated_iff (h : Probed asked tried status [asked, tried]) :
    status.authenticated = true ↔ tried.Succeeded := by
  cases h with
  | trialSucceeded _ _ _ _ htried => exact iff_of_true rfl htried
  | trialFailed _ _ _ _ htried => exact iff_of_false nofun htried.not_succeeded

/-- After a trial that succeeded there is no detail. -/
theorem detail_eq_none (h : Probed asked tried status [asked, tried]) (htried : tried.Succeeded) :
    status.detail = none := by
  cases h with
  | trialSucceeded => rfl
  | trialFailed _ _ _ _ hfailed => exact absurd htried hfailed.not_succeeded

/-- When the last run came to nothing nobody is signed in, and a detail says why. -/
theorem eq_signedOut (h : Probed asked tried status runs) {r : Run}
    (hlast : runs.getLast? = some r) (hfailed : ¬ r.Succeeded) :
    status.authenticated = false ∧ ∃ detail, status.detail = some detail ∧ detail ≠ "" := by
  have hsignedOut : ∀ source text, text ≠ "" →
      (AuthStatus.signedOut source text).authenticated = false ∧
        ∃ detail, (AuthStatus.signedOut source text).detail = some detail ∧ detail ≠ "" :=
    fun _ text hne => ⟨rfl, text, rfl, hne⟩
  cases h with
  | refused => exact hsignedOut _ _ (LaunchFailure.message_ne_empty _ _)
  | @reported output hran hcode =>
    cases hlast
    exact absurd ⟨output, hran, output.succeeded_iff_exited.2 hcode⟩ hfailed
  | failed hran hcode htext => exact hsignedOut _ _ (Run.FailsWith.ran hran hcode htext).ne_empty
  | trialSucceeded _ _ _ _ htried =>
    cases hlast
    exact absurd htried hfailed
  | trialFailed _ _ _ _ htried => exact hsignedOut _ _ htried.ne_empty

end Probed

namespace Tool

/-- Asking for the status makes the request for a report, and a trial run only if the tool ran,
failed and said that it does not know the request.  A request that could not be made is told with
its error, a report is read, and another failure is told with what the run says.  The status comes
from the trial exactly if it was made; it is then that somebody is signed in, without a detail,
exactly if the trial exited with code zero.  When the last run came to nothing nobody is signed
in, and a detail that is not empty says why. -/
theorem exists_makes_authStatus_probed (tool : Tool) (binary : String) (env : Environment)
    (history : List Run) :
    let asked := tool.answer history (statusLaunch binary env)
    let tried := tool.answer (history ++ [asked]) (trialLaunch binary env)
    ∃ status runs, Makes tool (tool.authStatus binary env) history status runs ∧
      Probed asked tried status runs ∧
      (status.source = .heuristic ↔ runs = [asked, tried]) ∧
      (runs = [asked, tried] → (status.authenticated = true ↔ tried.Succeeded) ∧
        (tried.Succeeded → status.detail = none)) ∧
      ∀ r, runs.getLast? = some r → ¬ r.Succeeded →
        status.authenticated = false ∧ ∃ detail, status.detail = some detail ∧ detail ≠ "" := by
  intro asked tried
  obtain ⟨status, runs, hmakes, hprobed⟩ : ∃ status runs,
      Makes tool (tool.authStatus binary env) history status runs ∧
        Probed asked tried status runs := by
    rcases tool.makes_authStatus_cases binary env history with
      ⟨status, hanswer, hmakes⟩ | ⟨hanswer, hmakes⟩
    · exact ⟨status, [asked], hmakes, .of_answer tried hanswer⟩
    · exact ⟨_, [asked, tried], hmakes, .of_trial tried hanswer⟩
  refine ⟨status, runs, hmakes, hprobed, hprobed.source_eq_heuristic_iff, ?_, ?_⟩
  · rintro rfl
    exact ⟨hprobed.authenticated_iff, hprobed.detail_eq_none⟩
  · intro r
    exact hprobed.eq_signedOut

/-- A tool that does not know the request, and whose trial is killed without a word: nobody is
signed in, and the detail says how the trial ended. -/
theorem exists_makes_authStatus_probed_of_killedTrial :
    let refusal : Output := ⟨[], Text.Utf8.encode "unknown command\n", .exited 2⟩
    let killed : Output := ⟨[], [0x0A], .signalled⟩
    let tool : Tool := fun history _ => .ran (if history.isEmpty then refusal else killed)
    ∃ runs, Makes tool (tool.authStatus "codex" .empty) []
        (.signedOut .heuristic "terminated by signal") runs ∧
      runs.map Run.request = [.status, .probe] := by
  have hrefusal : Output.complaint ⟨[], Text.Utf8.encode "unknown command\n", .exited 2⟩ =
      "unknown command" := by decide
  have hkilled : Output.complaint ⟨[], [0x0A], .signalled⟩ = "terminated by signal" := by decide
  intro refusal killed tool
  obtain ⟨status, runs, hmakes, hprobed, -⟩ :=
    exists_makes_authStatus_probed tool "codex" .empty []
  have hunknown : Text.Mentioned unsupportedMarkers "unknown command" :=
    (isUnsupported_iff _).1 (by decide)
  cases hprobed with
  | refused h => cases h
  | reported h hcode =>
    cases h
    cases hcode
  | failed h hcode htext hknown =>
    cases h
    rw [← (refusal.complaint_eq_iff _).2 htext, hrefusal] at hknown
    exact absurd hunknown hknown
  | trialSucceeded h hcode htext hunknown htried =>
    obtain ⟨output, hran, hsucceeded⟩ := htried
    cases hran
    cases hsucceeded
  | trialFailed h hcode htext hunknown htried =>
    cases htried with
    | refused hrefused => cases hrefused
    | ran hran hcode' hdetail =>
      cases hran
      rw [← (killed.complaint_eq_iff _).2 hdetail, hkilled] at hmakes
      exact ⟨_, hmakes, rfl⟩

end Tool
end AgentRelay
