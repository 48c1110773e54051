import AgentRelay.Replay
import AgentRelay.Session

/-!
# The launches of a session

To answer a conversation a session launches the tool at most four times: it asks for a
report, tries the tool out, signs in, and makes the main run, in this order.  Which of the
four are made depends on the settings, on how the tool answers those before, and on whether
the prompt can be built; each is shown to be made exactly when it is called for.

Main definitions:

- {lit}`Tool.Answered`: runs with the answers that a tool gives.
- {lit}`Makes`: the runs that a computation makes.
- {lit}`Trace` and {lit}`Trace.Lawful`: the runs of a session, and when each is made.

Main results:

- Theorem {lit}`Makes.bind`: one computation after another makes the runs of both.
- Theorem {lit}`exists_trace`: every session makes the runs of a lawful trace.
-/

namespace AgentRelay

/-! ## Runs of a tool -/

/-- A launch after a history, with the answer of the tool. -/
def Tool.answer (tool : Tool) (history : List Run) (launch : Launch) : Run :=
  ⟨launch, tool history launch⟩

/-- Runs that follow a history, each with the answer that the tool gives after all those
before it. -/
inductive Tool.Answered (tool : Tool) : List Run → List Run → Prop where
  | nil (history : List Run) : Answered tool history []
  | cons {history runs : List Run} (launch : Launch)
      (h : Answered tool (history ++ [tool.answer history launch]) runs) :
      Answered tool history (tool.answer history launch :: runs)

/-- After a history, a computation gives a result and makes exactly the given runs, each
answered by the tool. -/
structure Makes (tool : Tool) (m : Runs α) (history : List Run) (a : α) (runs : List Run) :
    Prop where
  eq : m history = (a, history ++ runs)
  answered : tool.Answered history runs

section Makes

variable {tool : Tool} {history runs : List Run}

theorem Tool.Answered.append {runs' : List Run} (h : tool.Answered history runs)
    (h' : tool.Answered (history ++ runs) runs') : tool.Answered history (runs ++ runs') := by
  induction h with
  | nil history => simpa using h'
  | @cons history runs launch _ ih =>
    apply Answered.cons launch
    apply ih
    simpa using h'

namespace Makes

variable {a : α} {b : β} {m : Runs α} {f : α → Runs β}

theorem result_eq (h : Makes tool m history a runs) : (m history).1 = a := by
  rw [h.eq]

theorem history_eq (h : Makes tool m history a runs) : (m history).2 = history ++ runs := by
  rw [h.eq]

theorem pure (tool : Tool) (a : α) (history : List Run) :
    Makes tool (Pure.pure a : Runs α) history a [] where
  eq := by
    rw [List.append_nil]
    rfl
  answered := .nil history

/-- One computation after another makes the runs of both. -/
theorem bind {runs' : List Run} (h : Makes tool m history a runs)
    (h' : Makes tool (f a) (history ++ runs) b runs') :
    Makes tool (m >>= f) history b (runs ++ runs') where
  eq := by
    have hbind : (m >>= f) history = f (m history).1 (m history).2 := rfl
    rw [hbind, h.eq, h'.eq, List.append_assoc]
  answered := h.answered.append h'.answered

/-- What is done with a result without another launch makes no more runs. -/
theorem bind_pure (h : Makes tool m history a runs) (hf : f a = Pure.pure b) :
    Makes tool (m >>= f) history b runs := by
  have hpure : Makes tool (f a) (history ++ runs) b [] := by
    rw [hf]
    exact .pure tool b _
  simpa using h.bind hpure

theorem run (tool : Tool) (launch : Launch) (history : List Run) :
    Makes tool (tool.run launch) history (tool history launch) [tool.answer history launch] where
  eq := rfl
  answered := .cons launch (.nil _)

theorem capture_of_failed {launch : Launch} {failure : LaunchFailure}
    (h : tool history launch = .failed failure) :
    Makes tool (tool.capture launch) history (.error (failure.toError launch))
      [tool.answer history launch] := by
  apply (run tool launch history).bind_pure
  rw [h]

theorem capture_of_ran {launch : Launch} {output : Output}
    (h : tool history launch = .ran output) :
    Makes tool (tool.capture launch) history (.ok output) [tool.answer history launch] := by
  apply (run tool launch history).bind_pure
  rw [h]

/-- A captured launch makes one run, whatever comes of it. -/
theorem exists_capture (tool : Tool) (launch : Launch) (history : List Run) :
    ∃ result, Makes tool (tool.capture launch) history result [tool.answer history launch] := by
  cases h : tool history launch with
  | failed failure => exact ⟨_, capture_of_failed h⟩
  | ran output => exact ⟨_, capture_of_ran h⟩

end Makes

end Makes

/-! ## Signing in -/

/-- The tool ran and failed, saying that it does not know the request for a report. -/
def Reply.RefusesReport (reply : Reply) : Prop :=
  ∃ output, reply = .ran output ∧ output.succeeded = false ∧ isUnsupported output.complaint = true

/-- The run was started and exited with code zero. -/
def Run.Succeeded (r : Run) : Prop :=
  ∃ output, r.reply = .ran output ∧ output.succeeded = true

namespace Tool

variable (tool : Tool) (binary : String) (env : Environment) (history : List Run)

/-- Asking for the status makes the request for a report, and a trial run exactly when the
tool does not know that request. -/
theorem exists_makes_authStatus :
    ∃ status, ∃ trial : Option Run,
      Makes tool (tool.authStatus binary env) history status
        (tool.answer history (statusLaunch binary env) :: trial.toList) ∧
      (∀ r ∈ trial, r.launch = trialLaunch binary env) ∧
      (trial.isSome ↔ (tool history (statusLaunch binary env)).RefusesReport) := by
  cases hreply : tool history (statusLaunch binary env) with
  | failed failure =>
    refine ⟨_, none, (Makes.capture_of_failed hreply).bind_pure rfl, by simp, ?_⟩
    simp [Reply.RefusesReport]
  | ran output =>
    have hcapture := Makes.capture_of_ran hreply
    by_cases hsucceeded : output.succeeded = true
    · refine ⟨.ofReport (Text.Utf8.decodeLossy output.stdout), none, ?_, by simp, ?_⟩
      · apply hcapture.bind_pure
        simp only [hsucceeded, if_true]
      · simp [Reply.RefusesReport, hsucceeded]
    · by_cases hunsupported : isUnsupported output.complaint = true
      · let asked := history ++ [tool.answer history (statusLaunch binary env)]
        obtain ⟨result, htrial⟩ := Makes.exists_capture tool (trialLaunch binary env) asked
        refine ⟨.ofTrial result, some (tool.answer asked (trialLaunch binary env)), ?_,
          by simp [answer], ?_⟩
        · apply hcapture.bind
          simp only [hsucceeded, hunsupported, if_true]
          exact htrial.bind_pure rfl
        · simp [Reply.RefusesReport, hsucceeded, hunsupported]
      · refine ⟨.signedOut .structured output.complaint, none, ?_, by simp, ?_⟩
        · apply hcapture.bind_pure
          simp only [hsucceeded, hunsupported]
          rfl
        · simp [Reply.RefusesReport, hunsupported]

/-- Signing in makes one run, and succeeds exactly when that run does. -/
theorem exists_makes_signIn :
    ∃ result, Makes tool (tool.signIn binary env) history result
        [tool.answer history (signInLaunch binary env)] ∧
      (result = .ok () ↔ (tool.answer history (signInLaunch binary env)).Succeeded) := by
  cases hreply : tool history (signInLaunch binary env) with
  | failed failure =>
    refine ⟨_, (Makes.capture_of_failed hreply).bind_pure rfl, ?_⟩
    simp [Run.Succeeded, answer, hreply]
  | ran output =>
    refine ⟨_, (Makes.capture_of_ran hreply).bind_pure rfl, ?_⟩
    by_cases hsucceeded : output.succeeded = true
    · simp [Run.Succeeded, answer, hreply, hsucceeded]
    · simp [Run.Succeeded, answer, hreply, hsucceeded]

/-- Signing in unless that is done makes the runs of asking for the status, and then signs in
exactly when the status is that nobody is signed in. -/
theorem exists_makes_ensureSignedIn :
    ∃ result, ∃ trial signIn : Option Run,
      Makes tool (tool.ensureSignedIn binary env) history result
        (tool.answer history (statusLaunch binary env) :: (trial.toList ++ signIn.toList)) ∧
      (∀ r ∈ trial, r.launch = trialLaunch binary env) ∧
      (trial.isSome ↔ (tool history (statusLaunch binary env)).RefusesReport) ∧
      (∀ r ∈ signIn, r.launch = signInLaunch binary env) ∧
      (signIn.isSome ↔ (tool.authStatus binary env history).1.authenticated = false) ∧
      (result = .ok () ↔ ∀ r ∈ signIn, r.Succeeded) := by
  obtain ⟨status, trial, hstatus, hlaunch, htrial⟩ :=
    tool.exists_makes_authStatus binary env history
  rw [hstatus.result_eq]
  cases hauth : status.authenticated with
  | true =>
    refine ⟨.ok (), trial, none, ?_, hlaunch, htrial, by simp, by simp, by simp⟩
    rw [Option.toList_none, List.append_nil]
    apply hstatus.bind_pure
    simp only [hauth, if_true]
  | false =>
    obtain ⟨result, hsignIn, hresult⟩ := tool.exists_makes_signIn binary env
      (history ++ tool.answer history (statusLaunch binary env) :: trial.toList)
    refine ⟨result, trial, some (tool.answer _ (signInLaunch binary env)), ?_, hlaunch, htrial,
      by simp [answer], by simp, by simpa using hresult⟩
    apply hstatus.bind
    rw [hauth]
    exact hsignIn

end Tool

/-! ## Traces of sessions -/

/-- The runs that a session may make to answer a conversation: the request for a report, the
trial run, the run that signs in, and the main run. -/
structure Trace where
  status : Option Run
  trial : Option Run
  signIn : Option Run
  main : Option Run

namespace Trace

/-- The runs of a trace in the order in which they are made. -/
def runs (t : Trace) : List Run :=
  t.status.toList ++ t.trial.toList ++ t.signIn.toList ++ t.main.toList

/-- The runs by which a session signs in.  A session that signs in through the tool asks for
a report, tries the tool out exactly when the report is refused, and signs in exactly when
the status it found is that nobody is signed in; a session with a key does none of this. -/
structure SignsIn (t : Trace) (s : Session) (tool : Tool) (history : List Run) : Prop where
  status_launch : ∀ r ∈ t.status, r.launch = statusLaunch s.settings.binary s.settings.toolEnv
  trial_launch : ∀ r ∈ t.trial, r.launch = trialLaunch s.settings.binary s.settings.toolEnv
  signIn_launch : ∀ r ∈ t.signIn, r.launch = signInLaunch s.settings.binary s.settings.toolEnv
  status_iff : t.status.isSome ↔ s.settings.authMode = .chatGpt
  trial_iff : t.trial.isSome ↔ ∃ r ∈ t.status, r.reply.RefusesReport
  signIn_iff : t.signIn.isSome ↔ s.settings.authMode = .chatGpt ∧
    (tool.authStatus s.settings.binary s.settings.toolEnv history).1.authenticated = false

/-- The runs of a session, each answered by the tool.  The main run is made exactly when
signing in was not needed or succeeded, and the prompt can be built; it sends that
prompt. -/
structure Lawful (t : Trace) (s : Session) (tool : Tool) (system : String)
    (messages : List Message) (history : List Run) : Prop extends t.SignsIn s tool history where
  answered : tool.Answered history t.runs
  main_launch : ∀ r ∈ t.main, ∃ prompt, Prompt.build system messages = .ok prompt ∧
    r.launch = (s.request prompt).launch
  main_iff : t.main.isSome ↔ (∀ r ∈ t.signIn, r.Succeeded) ∧
    ∃ prompt, Prompt.build system messages = .ok prompt

variable {t : Trace} {s : Session} {tool : Tool} {system : String} {messages : List Message}
  {history : List Run}

/-- How a session signs in does not depend on its main run. -/
theorem SignsIn.withMain (h : t.SignsIn s tool history) (main : Option Run) :
    { t with main := main }.SignsIn s tool history where
  status_launch := h.status_launch
  trial_launch := h.trial_launch
  signIn_launch := h.signIn_launch
  status_iff := h.status_iff
  trial_iff := h.trial_iff
  signIn_iff := h.signIn_iff

theorem runs_withMain (ht : t.main = none) (r : Run) :
    { t with main := some r }.runs = t.runs ++ [r] := by
  simp [runs, ht]

end Trace

namespace Session

/-- A session makes the runs by which it signs in, and goes on exactly when signing in was not
needed or succeeded. -/
theorem exists_makes_authorize (s : Session) (tool : Tool) (history : List Run) :
    ∃ result, ∃ t : Trace, t.main = none ∧ t.SignsIn s tool history ∧
      Makes tool (s.authorize tool) history result t.runs ∧
      (result = .ok () ↔ ∀ r ∈ t.signIn, r.Succeeded) := by
  unfold authorize
  cases hmode : s.settings.authMode with
  | apiKey =>
    refine ⟨.ok (), ⟨none, none, none, none⟩, rfl, ?_, .pure tool _ history, by simp⟩
    constructor <;> simp [hmode]
  | chatGpt =>
    obtain ⟨result, trial, signIn, hmakes, htrialLaunch, htrial, hsignInLaunch, hsignIn, hresult⟩ :=
      tool.exists_makes_ensureSignedIn s.settings.binary s.settings.toolEnv history
    let asked := tool.answer history (statusLaunch s.settings.binary s.settings.toolEnv)
    refine ⟨result, ⟨some asked, trial, signIn, none⟩, rfl, ?_, ?_, hresult⟩
    · constructor
      · simp [asked, Tool.answer]
      · exact htrialLaunch
      · exact hsignInLaunch
      · simp [hmode]
      · simpa [asked, Tool.answer] using htrial
      · simpa [hmode] using hsignIn
    · simpa [Trace.runs] using hmakes

/-- Every session makes the runs of a lawful trace, whatever is reported about the main
run. -/
theorem exists_makes_streamAlong (s : Session) (tool : Tool) (system : String)
    (messages : List Message) (history : List Run) :
    ∃ t : Trace, t.Lawful s tool system messages history ∧
      ∀ course, ∃ items,
        Makes tool (s.streamAlong course tool system messages) history items t.runs := by
  obtain ⟨result, t, hmain, hsigns, hmakes, hresult⟩ := exists_makes_authorize s tool history
  cases hauth : result with
  | error e =>
    have hfailed : ¬ ∀ r ∈ t.signIn, r.Succeeded := by
      rw [← hresult, hauth]
      exact nofun
    refine ⟨t, ⟨hsigns, hmakes.answered, by simp [hmain], ?_⟩, ?_⟩
    · simp only [hmain, Option.isSome_none, Bool.false_eq_true, false_iff, not_and]
      exact fun h => absurd h hfailed
    · intro course
      refine ⟨[.error e], ?_⟩
      apply hmakes.bind_pure
      rw [hauth]
  | ok _ =>
    have hgoesOn : ∀ r ∈ t.signIn, r.Succeeded := hresult.1 hauth
    cases hprompt : Prompt.build system messages with
    | error e =>
      refine ⟨t, ⟨hsigns, hmakes.answered, by simp [hmain], ?_⟩, ?_⟩
      · simp [hmain, hprompt]
      · intro course
        refine ⟨[.error e], ?_⟩
        apply hmakes.bind_pure
        simp only [hauth, hprompt]
    | ok prompt =>
      let main := tool.answer (history ++ t.runs) (s.request prompt).launch
      have hrun := Makes.run tool (s.request prompt).launch (history ++ t.runs)
      refine ⟨{ t with main := some main }, ⟨hsigns.withMain _, ?_, ?_, ?_⟩, ?_⟩
      · rw [Trace.runs_withMain hmain]
        exact hmakes.answered.append hrun.answered
      · simp [main, hprompt, Tool.answer]
      · simpa [hprompt] using hgoesOn
      · intro course
        refine ⟨itemsOfReply s.model.model main.launch course main.reply, ?_⟩
        rw [Trace.runs_withMain hmain]
        apply hmakes.bind
        simp only [hauth, hprompt]
        exact hrun.bind_pure rfl

end Session

/-! ## The kinds of runs -/

/-- What a run asks of the tool, as its arguments tell. -/
def Run.request (r : Run) : Request :=
  .ofArgs r.launch.args

/-- No option of a main run is taken for the prompt of a trial run. -/
theorem Invocation.ofArgs_launch (i : Invocation) : Request.ofArgs i.launch.args = .exec := by
  have hflags : ∀ flag ∈ ["--model", "--output-schema", "--sandbox", "--full-auto"],
      flag ≠ trialPrompt := by decide
  have hrest (first second third : String) (rest : List String) (h : third ≠ trialPrompt)
      (hfirst : first = "exec") :
      Request.ofArgs (first :: second :: third :: rest) = .exec := by
    subst hfirst
    simp [Request.ofArgs, h]
  unfold launch args
  cases hmodel : i.requestedModel with
  | some model => exact hrest _ _ _ _ (hflags _ (by decide)) rfl
  | none =>
    cases hschema : i.outputSchema with
    | some schema => exact hrest _ _ _ _ (hflags _ (by decide)) rfl
    | none =>
      cases hsandbox : i.sandbox with
      | some sandbox => exact hrest _ _ _ _ (hflags _ (by decide)) rfl
      | none =>
        cases hauto : i.fullAuto with
        | true => exact hrest _ _ _ _ (hflags _ (by decide)) rfl
        | false => rfl

namespace Trace

variable {t : Trace} {s : Session} {tool : Tool} {system : String} {messages : List Message}
  {history : List Run}

theorem sublist_singleton {r? : Option Run} {request : Request}
    (h : ∀ r ∈ r?, r.request = request) : (r?.toList.map Run.request).Sublist [request] := by
  cases r? with
  | none => exact List.nil_sublist _
  | some r =>
    have hrequest : (some r).toList.map Run.request = [request] := by
      rw [Option.toList_some, List.map_singleton, h r rfl]
    exact hrequest ▸ List.Sublist.refl [request]

/-- A session makes at most one run of each kind, in a fixed order, and the main run last. -/
theorem Lawful.requests_sublist (h : t.Lawful s tool system messages history) :
    (t.runs.map Run.request).Sublist [.status, .probe, .login, .exec] := by
  have hstatus : ∀ r ∈ t.status, r.request = .status := by
    intro r hr
    rw [Run.request, h.status_launch r hr]
    rfl
  have htrial : ∀ r ∈ t.trial, r.request = .probe := by
    intro r hr
    rw [Run.request, h.trial_launch r hr]
    rfl
  have hsignIn : ∀ r ∈ t.signIn, r.request = .login := by
    intro r hr
    rw [Run.request, h.signIn_launch r hr]
    rfl
  have hmain : ∀ r ∈ t.main, r.request = .exec := by
    intro r hr
    obtain ⟨prompt, -, hlaunch⟩ := h.main_launch r hr
    rw [Run.request, hlaunch]
    exact Invocation.ofArgs_launch _
  simp only [runs, List.map_append]
  exact (((sublist_singleton hstatus).append (sublist_singleton htrial)).append
    (sublist_singleton hsignIn)).append (sublist_singleton hmain)

/-- Every run of a session launches the program of the settings and sets the variables of the
settings. -/
theorem Lawful.launch_of_mem (h : t.Lawful s tool system messages history) {r : Run}
    (hr : r ∈ t.runs) :
    r.launch.binary = s.settings.binary ∧ r.launch.env = s.settings.toolEnv := by
  simp only [runs, List.mem_append, Option.mem_toList] at hr
  rcases hr with ((hr | hr) | hr) | hr
  · rw [h.status_launch r hr]
    exact ⟨rfl, rfl⟩
  · rw [h.trial_launch r hr]
    exact ⟨rfl, rfl⟩
  · rw [h.signIn_launch r hr]
    exact ⟨rfl, rfl⟩
  · obtain ⟨prompt, -, hlaunch⟩ := h.main_launch r hr
    rw [hlaunch]
    exact ⟨rfl, rfl⟩

/-- A session with a key makes no run but the main one. -/
theorem Lawful.runs_of_apiKey (h : t.Lawful s tool system messages history)
    (hmode : s.settings.authMode = .apiKey) : t.runs = t.main.toList := by
  have hstatus : t.status = none := by
    rw [← Option.not_isSome_iff_eq_none, h.status_iff, hmode]
    decide
  have htrial : t.trial = none := by
    rw [← Option.not_isSome_iff_eq_none, h.trial_iff, hstatus]
    simp
  have hsignIn : t.signIn = none := by
    rw [← Option.not_isSome_iff_eq_none, h.signIn_iff, hmode]
    simp
  simp [runs, hstatus, htrial, hsignIn]

end Trace

namespace Session

/-- The launches of a session.  For every conversation and every behaviour of the tool there
is a lawful trace of at most four runs, and whatever is reported about the main run, these
are the runs that are made, and as soon as the first item is asked for; without that nothing
is launched.  In them each kind of request occurs at most once, in a fixed order with the
main run last, and all launch the same program with the same variables. -/
theorem exists_trace (s : Session) (tool : Tool) (system : String) (messages : List Message)
    (history : List Run) :
    ∃ t : Trace, t.Lawful s tool system messages history ∧
      (∀ course, (s.streamAlong course tool system messages history).2 = history ++ t.runs) ∧
      (∀ n, (s.streamTake tool system messages n history).2 =
        if n = 0 then history else history ++ t.runs) ∧
      (s.settings.authMode = .apiKey → t.runs = t.main.toList) ∧
      (t.runs.map Run.request).Sublist [.status, .probe, .login, .exec] ∧
      (∀ r ∈ t.runs,
        r.launch.binary = s.settings.binary ∧ r.launch.env = s.settings.toolEnv) := by
  obtain ⟨t, hlawful, hmakes⟩ := exists_makes_streamAlong s tool system messages history
  refine ⟨t, hlawful, ?_, ?_, hlawful.runs_of_apiKey, hlawful.requests_sublist,
    fun r hr => hlawful.launch_of_mem hr⟩
  · intro course
    obtain ⟨items, hitems⟩ := hmakes course
    exact hitems.history_eq
  · intro n
    unfold streamTake
    by_cases hn : n = 0
    · rw [if_pos hn, if_pos hn]
      rfl
    · obtain ⟨items, hitems⟩ := hmakes Output.calm
      have htake := hitems.bind_pure (b := items.take n)
        (f := fun items => (Pure.pure (items.take n) : Runs (List Item))) rfl
      rw [if_neg hn, if_neg hn]
      exact htake.history_eq

end Session
end AgentRelay
