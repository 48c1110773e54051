import AgentRelay.Session
import Mathlib

/-!
# The items of a session

A session gives the chunks of the events that the tool writes, in their order,
and at most one error, which is its last item.  An error before the first line
of output is the only item.  The first event that reports a failure ends the
stream, whatever comes after it; without such an event the exit code decides.

Main definitions:

- {lit}`Ending.ReportedAs` and {lit}`Output.KeptAs`: the code and the diagnostics
  that a run is reported with.
- {lit}`Tool.SignsIn`: how a session comes to be signed in through the tool.
- {lit}`ItemsOfRun`: the items of a run, told by its events, its code and its
  diagnostics.

Main results:

- Theorem {lit}`itemsOfReader_of_calm`: reading line by line gives the items of
  the events, when nothing is reported about the run but its exit.
- Theorem {lit}`itemsOfReader_shape`: whatever is reported about the run, the
  items are chunks and at most one error after them.
- Theorem {lit}`streamAlong_items`: the items of a whole session.
-/

namespace AgentRelay

/-! ## Events and their items -/

/-- The events that segments of output write; noise writes none. -/
def eventsOfSegments (segs : List (List UInt8)) : List Json :=
  (segs.filterMap Text.line?).filterMap Event.ofLine?

/-- The events that an output writes, in order. -/
def Output.events (o : Output) : List Json :=
  eventsOfSegments (Text.segments o.stdout)

/-- The failure that an exit stands for. -/
def exitFailure? (code : Int) (stderr : String) : Option ToolError :=
  if code = 0 then none else some (.processExit code stderr)

/-- The items of events, and of the failure that follows them when there is
one. -/
def itemsOfEvents (model : Model) (failure : Option ToolError) : List Json → List Item
  | [] => failure.toList.map .error
  | event :: rest =>
    match Event.check event with
    | .error e => [.error e]
    | .ok () => (Event.chunks event model).map .ok ++ itemsOfEvents model failure rest

theorem itemsOfEvents_cons_of_error {event : Json} {e : ToolError}
    (h : Event.check event = .error e) (model : Model) (failure : Option ToolError)
    (rest : List Json) : itemsOfEvents model failure (event :: rest) = [.error e] := by
  simp [itemsOfEvents, h]

theorem itemsOfEvents_cons_of_ok {event : Json} (h : Event.check event = .ok ())
    (model : Model) (failure : Option ToolError) (rest : List Json) :
    itemsOfEvents model failure (event :: rest) =
      (Event.chunks event model).map .ok ++ itemsOfEvents model failure rest := by
  simp [itemsOfEvents, h]

/-- Accepted events give their chunks, in order, before everything later. -/
theorem itemsOfEvents_append {accepted : List Json}
    (h : ∀ event ∈ accepted, Event.check event = .ok ()) (model : Model)
    (failure : Option ToolError) (rest : List Json) :
    itemsOfEvents model failure (accepted ++ rest) =
      (accepted.flatMap (Event.chunks · model)).map .ok ++
        itemsOfEvents model failure rest := by
  induction accepted with
  | nil => rfl
  | cons event accepted ih =>
    have hevent : Event.check event = .ok () := h event List.mem_cons_self
    have haccepted : ∀ e ∈ accepted, Event.check e = .ok () :=
      fun e he => h e (List.mem_cons_of_mem event he)
    rw [List.cons_append, itemsOfEvents_cons_of_ok hevent, ih haccepted]
    simp

/-- Without a reported failure the items are all chunks and what follows them. -/
theorem itemsOfEvents_of_accepted {events : List Json}
    (h : ∀ event ∈ events, Event.check event = .ok ()) (model : Model)
    (failure : Option ToolError) :
    itemsOfEvents model failure events =
      (events.flatMap (Event.chunks · model)).map .ok ++ failure.toList.map .error := by
  simpa [itemsOfEvents] using itemsOfEvents_append h model failure []

/-- The first event that reports a failure is the end, whatever comes later. -/
theorem itemsOfEvents_of_rejected {before after : List Json} {event : Json} {e : ToolError}
    (h : ∀ b ∈ before, Event.check b = .ok ()) (he : Event.check event = .error e)
    (model : Model) (failure : Option ToolError) :
    itemsOfEvents model failure (before ++ event :: after) =
      (before.flatMap (Event.chunks · model)).map .ok ++ [.error e] := by
  rw [itemsOfEvents_append h, itemsOfEvents_cons_of_error he]

/-- A rejected event is rejected for the text that it reports. -/
theorem Event.eq_reported_of_check {event : Json} {e : ToolError}
    (h : Event.check event = .error e) :
    ∃ text, Event.failure? event = some text ∧ e = .reported text := by
  unfold Event.check at h
  split at h
  next text htext =>
    cases h
    exact ⟨text, htext, rfl⟩
  next => cases h

/-! ## Endings and diagnostics -/

/-- How the ending of a process is reported: by the code that it exited with, or
by {lit}`-1` when a signal ended it, as one ends a process that lingers. -/
inductive Ending.ReportedAs : Ending → Int → Prop where
  | exited (code : Int) : ReportedAs (.exited code) code
  | signalled : ReportedAs .signalled (-1)
  | lingering : ReportedAs .lingering (-1)

theorem Ending.reportedAs_code (e : Ending) : e.ReportedAs e.code := by
  cases e with
  | exited code => exact .exited code
  | signalled => exact .signalled
  | lingering => exact .lingering

/-- What is kept of the diagnostics of a process: they arrive in reads, and the
text of one read follows the text of another. -/
def Output.KeptAs (o : Output) (stderr : String) : Prop :=
  ∃ reads, ReadsOf readSize o.stderr reads ∧
    stderr = String.join (reads.map Text.Utf8.decodeLossy)

theorem Output.keptAs_diagnostics (o : Output) : o.KeptAs o.diagnostics :=
  ⟨inReads readSize o.stderr, readsOf_inReads (by decide) o.stderr,
    Text.Utf8.decodeReads_eq_join _⟩

/-! ## Reading line by line -/

/-- Nothing is reported about a run but its exit, and its diagnostics are the
given ones. -/
structure Course.Calm (seen : Course) (code : Int) (stderr : String) : Prop where
  before : ∀ n, (seen n).before.error? = none
  after : ∀ n, (seen n).after.error? = none
  final : ∀ n, (seen n).final = .exited code
  diagnostics : ∀ n, (seen n).stderr = stderr

/-- A calm course stays calm. -/
theorem Course.Calm.later {seen : Course} {code : Int} {stderr : String}
    (h : seen.Calm code stderr) : seen.later.Calm code stderr where
  before n := h.before (n + 1)
  after n := h.after (n + 1)
  final n := h.final (n + 1)
  diagnostics n := h.diagnostics (n + 1)

/-- The course of a session is calm. -/
theorem Output.calm_calm (o : Output) : o.calm.Calm o.ending.code o.diagnostics where
  before _ := rfl
  after _ := rfl
  final _ := rfl
  diagnostics _ := rfl

/-- A clean exit is no failure, every other one is. -/
theorem Reader.outcome_exited (code : Int) (stderr : String) :
    Reader.outcome (.exited code) stderr =
      (exitFailure? code stderr).elim (.ok ()) .error := by
  unfold Reader.outcome exitFailure?
  by_cases h : code = 0 <;> simp [h]

/-- On a calm course a read gives the next line, and after the lines what the exit
stands for. -/
theorem Course.Calm.next_eq {seen : Course} {code : Int} {stderr : String} {r : Reader}
    (h : seen.Calm code stderr) (hr : r.finished = false) :
    r.next (seen 0) =
      match Reader.nextLine r.segments with
      | (some line, rest) => (.ok (some line), ⟨rest, false⟩)
      | (none, rest) => ((exitFailure? code stderr).elim (.ok none) .error, ⟨rest, true⟩) := by
  rcases hl : Reader.nextLine r.segments with ⟨_ | line, rest⟩
  · rw [Reader.next_of_end hr (h.before 0) (h.after 0) hl, h.final, h.diagnostics,
      Reader.outcome_exited]
    cases exitFailure? code stderr <;> rfl
  · exact Reader.next_of_line hr (h.before 0) (h.after 0) hl

/-- A read on a calm course that gives no line comes after the last event, and
gives what the exit stands for. -/
theorem Course.Calm.next_at_end {seen : Course} {code : Int} {stderr : String}
    {r r' : Reader} {result : Except ToolError (Option String)} (h : seen.Calm code stderr)
    (hr : r.finished = false) (hnext : r.next (seen 0) = (result, r'))
    (hresult : ∀ line, result ≠ .ok (some line)) :
    eventsOfSegments r.segments = [] ∧
      (exitFailure? code stderr).elim (.ok none) .error = result := by
  rw [h.next_eq hr] at hnext
  rcases hl : Reader.nextLine r.segments with ⟨_ | line, rest⟩
  · rw [hl] at hnext
    have hrest : rest = [] := Reader.eq_nil_of_nextLine_none hl
    refine ⟨?_, congrArg Prod.fst hnext⟩
    simp [eventsOfSegments, Reader.filterMap_line?_of_nextLine hl, hrest]
  · rw [hl] at hnext
    exact absurd (congrArg Prod.fst hnext).symm (hresult line)

/-- Reading line by line gives the items of the events, when nothing is reported
about the run but its exit. -/
theorem itemsOfReader_of_calm {seen : Course} {code : Int} {stderr : String} {r : Reader}
    (h : seen.Calm code stderr) (hr : r.finished = false) (model : Model) :
    itemsOfReader model seen r =
      itemsOfEvents model (exitFailure? code stderr) (eventsOfSegments r.segments) := by
  -- The induction is on the reads: each one either ends the stream or takes a line.
  induction seen, r using itemsOfReader.induct with
  | case1 seen r e r' hnext =>
    obtain ⟨hevents, hfailure⟩ := h.next_at_end hr hnext (by simp)
    rw [itemsOfReader_of_next_error hnext, hevents]
    cases hexit : exitFailure? code stderr with
    | none => simp [hexit] at hfailure
    | some e' =>
      rw [hexit] at hfailure
      cases hfailure
      rfl
  | case2 seen r r' hnext =>
    obtain ⟨hevents, hfailure⟩ := h.next_at_end hr hnext (by simp)
    rw [itemsOfReader_of_next_none hnext, hevents]
    cases hexit : exitFailure? code stderr with
    | none => rfl
    | some e' => simp [hexit] at hfailure
  | case3 seen r line r' hnext hline ih =>
    obtain ⟨-, hr', hl⟩ := Reader.next_eq_line hnext
    have hevents : eventsOfSegments r.segments = eventsOfSegments r'.segments := by
      simp [eventsOfSegments, Reader.filterMap_line?_of_nextLine hl, hline]
    rw [itemsOfReader_of_noise hnext hline, ih h.later hr', hevents]
  | case4 seen r line r' hnext event hline e he =>
    obtain ⟨-, hr', hl⟩ := Reader.next_eq_line hnext
    have hevents : eventsOfSegments r.segments = event :: eventsOfSegments r'.segments := by
      simp [eventsOfSegments, Reader.filterMap_line?_of_nextLine hl, hline]
    rw [itemsOfReader_of_check_error hnext hline he, hevents, itemsOfEvents_cons_of_error he]
  | case5 seen r line r' hnext event hline he ih =>
    obtain ⟨-, hr', hl⟩ := Reader.next_eq_line hnext
    have hevents : eventsOfSegments r.segments = event :: eventsOfSegments r'.segments := by
      simp [eventsOfSegments, Reader.filterMap_line?_of_nextLine hl, hline]
    rw [itemsOfReader_of_check_ok hnext hline he, ih h.later hr', hevents,
      itemsOfEvents_cons_of_ok he]

/-! ## The shape of the items -/

/-- Items are chunks and at most one error after them. -/
def ErrorLast (items : List Item) : Prop :=
  ∃ (chunks : List Chunk) (failure : Option ToolError),
    items = chunks.map .ok ++ failure.toList.map .error

theorem ErrorLast.error (e : ToolError) : ErrorLast [.error e] :=
  ⟨[], some e, rfl⟩

/-- Chunks may be put in front. -/
theorem ErrorLast.append {items : List Item} (h : ErrorLast items) (front : List Chunk) :
    ErrorLast (front.map .ok ++ items) := by
  obtain ⟨chunks, failure, rfl⟩ := h
  exact ⟨front ++ chunks, failure, by simp⟩

/-- Whatever is reported about a run, its items are chunks and at most one error
after them. -/
theorem itemsOfReader_shape (model : Model) (seen : Course) (r : Reader) :
    ErrorLast (itemsOfReader model seen r) := by
  induction seen, r using itemsOfReader.induct with
  | case1 seen r e r' hnext =>
    rw [itemsOfReader_of_next_error hnext]
    exact ErrorLast.error e
  | case2 seen r r' hnext =>
    rw [itemsOfReader_of_next_none hnext]
    exact ⟨[], none, rfl⟩
  | case3 seen r line r' hnext hline ih =>
    rw [itemsOfReader_of_noise hnext hline]
    exact ih
  | case4 seen r line r' hnext event hline e he =>
    rw [itemsOfReader_of_check_error hnext hline he]
    exact ErrorLast.error e
  | case5 seen r line r' hnext event hline he ih =>
    rw [itemsOfReader_of_check_ok hnext hline he]
    exact ih.append _

/-! ## Signing in -/

/-- What an attempt to sign in comes to. -/
inductive Reply.SignsIn (launch : Launch) : Reply → Except ToolError Unit → Prop where
  | failed (failure : LaunchFailure) :
      SignsIn launch (.failed failure) (.error (failure.toError launch))
  | done {o : Output} (h : o.ending = .exited 0) : SignsIn launch (.ran o) (.ok ())
  | denied {o : Output} (h : o.ending ≠ .exited 0) :
      SignsIn launch (.ran o) (.error o.signInError)

/-- How a session comes to be signed in through the tool: the tool knows that
somebody is, or it is asked to sign in, once. -/
inductive Tool.SignsIn (tool : Tool) (binary : String) (env : Environment) (history : List Run) :
    Except ToolError Unit × List Run → Prop where
  | known {status : AuthStatus} {runs : List Run}
      (hstatus : tool.authStatus binary env history = (status, runs))
      (h : status.authenticated = true) : SignsIn tool binary env history (.ok (), runs)
  | asked {status : AuthStatus} {runs : List Run} {result : Except ToolError Unit}
      (hstatus : tool.authStatus binary env history = (status, runs))
      (h : status.authenticated = false)
      (hresult : (tool runs (signInLaunch binary env)).SignsIn (signInLaunch binary env) result) :
      SignsIn tool binary env history
        (result, runs ++ [⟨signInLaunch binary env, tool runs (signInLaunch binary env)⟩])

/-- An attempt to sign in is one launch. -/
theorem Tool.exists_signIn_eq (tool : Tool) (binary : String) (env : Environment)
    (runs : List Run) :
    ∃ result, (tool runs (signInLaunch binary env)).SignsIn (signInLaunch binary env) result ∧
      tool.signIn binary env runs =
        (result, runs ++ [⟨signInLaunch binary env, tool runs (signInLaunch binary env)⟩]) := by
  unfold Tool.signIn Tool.capture Tool.run
  simp only [bind, StateT.bind]
  generalize tool runs (signInLaunch binary env) = reply
  cases reply with
  | failed failure => exact ⟨_, .failed failure, rfl⟩
  | ran output =>
    cases hsucceeded : output.succeeded with
    | true =>
      refine ⟨.ok (), .done (decide_eq_true_iff.1 hsucceeded), ?_⟩
      simp only [pure, StateT.pure, hsucceeded, if_true]
    | false =>
      refine ⟨_, .denied (decide_eq_false_iff_not.1 hsucceeded), ?_⟩
      simp only [pure, StateT.pure, hsucceeded, Bool.false_eq_true, if_false]

/-- A session is signed in through the tool as it should be. -/
theorem Tool.ensureSignedIn_signsIn (tool : Tool) (binary : String) (env : Environment)
    (history : List Run) :
    tool.SignsIn binary env history (tool.ensureSignedIn binary env history) := by
  unfold Tool.ensureSignedIn
  simp only [bind, StateT.bind]
  rcases hstatus : tool.authStatus binary env history with ⟨status, runs⟩
  cases hauth : status.authenticated with
  | true =>
    simp only [hauth, if_true]
    exact .known hstatus hauth
  | false =>
    obtain ⟨result, hresult, hsignIn⟩ := tool.exists_signIn_eq binary env runs
    simp only [hauth, Bool.false_eq_true, if_false, hsignIn]
    exact .asked hstatus hauth hresult

/-! ## Whole sessions -/

/-- Items are those of a run: the chunks of its events, followed by its exit when
the code is not zero, unless an event reports a failure.  The first such event
ends the items with that failure, whatever comes later and however the run
ends. -/
structure ItemsOfRun (model : Model) (events : List Json) (code : Int) (stderr : String)
    (items : List Item) : Prop where
  accepted : (∀ event ∈ events, Event.check event = .ok ()) →
    items = (events.flatMap (Event.chunks · model)).map .ok ++
      if code = 0 then [] else [.error (.processExit code stderr)]
  rejected : ∀ before event after e, events = before ++ event :: after →
    (∀ b ∈ before, Event.check b = .ok ()) → Event.check event = .error e →
    (∃ text, Event.failure? event = some text ∧ e = .reported text) ∧
      items = (before.flatMap (Event.chunks · model)).map .ok ++ [.error e]

/-- The items of events and of an exit are those of a run. -/
theorem itemsOfRun_itemsOfEvents (model : Model) (events : List Json) (code : Int)
    (stderr : String) :
    ItemsOfRun model events code stderr
      (itemsOfEvents model (exitFailure? code stderr) events) where
  accepted haccepted := by
    rw [itemsOfEvents_of_accepted haccepted, exitFailure?]
    by_cases hcode : code = 0 <;> simp [hcode]
  rejected before event after e hevents hbefore hevent := by
    rw [hevents, itemsOfEvents_of_rejected hbefore hevent]
    exact ⟨Event.eq_reported_of_check hevent, rfl⟩

namespace Session

variable {s : Session} {tool : Tool} {system : String} {messages : List Message}
  {history : List Run}

/-- An error while signing in is the only item, and nothing else is launched. -/
theorem streamAlong_of_authorize_error {e : ToolError}
    (h : (s.authorize tool history).1 = .error e) (course : Output → Course) :
    s.streamAlong course tool system messages history =
      ([.error e], (s.authorize tool history).2) := by
  unfold streamAlong
  simp only [bind, StateT.bind]
  rcases hauth : s.authorize tool history with ⟨result, runs⟩
  rw [hauth] at h
  cases h
  rfl

/-- A prompt that cannot be built is the only item, and nothing is launched for
it. -/
theorem streamAlong_of_build_error {e : ToolError}
    (h : (s.authorize tool history).1 = .ok ())
    (hprompt : Prompt.build system messages = .error e) (course : Output → Course) :
    s.streamAlong course tool system messages history =
      ([.error e], (s.authorize tool history).2) := by
  unfold streamAlong
  simp only [bind, StateT.bind, hprompt]
  rcases hauth : s.authorize tool history with ⟨result, runs⟩
  rw [hauth] at h
  cases h
  rfl

/-- Once the prompt is built it is sent, and the items are those of the answer. -/
theorem streamAlong_of_build_ok {prompt : Prompt}
    (h : (s.authorize tool history).1 = .ok ())
    (hprompt : Prompt.build system messages = .ok prompt) (course : Output → Course) :
    s.streamAlong course tool system messages history =
      (itemsOfReply s.model.model (s.request prompt).launch course
          (tool (s.authorize tool history).2 (s.request prompt).launch),
        (tool.run (s.request prompt).launch (s.authorize tool history).2).2) := by
  unfold streamAlong
  simp only [bind, StateT.bind, hprompt]
  rcases hauth : s.authorize tool history with ⟨result, runs⟩
  rw [hauth] at h
  cases h
  rfl

/-- Whatever the tool does and whatever is reported about its run, the items are
chunks and at most one error after them. -/
theorem streamAlong_shape (s : Session) (course : Output → Course) (tool : Tool)
    (system : String) (messages : List Message) (history : List Run) :
    ErrorLast (s.streamAlong course tool system messages history).1 := by
  cases hauth : (s.authorize tool history).1 with
  | error e =>
    rw [streamAlong_of_authorize_error hauth]
    exact ErrorLast.error e
  | ok _ =>
    cases hprompt : Prompt.build system messages with
    | error e =>
      rw [streamAlong_of_build_error hauth hprompt]
      exact ErrorLast.error e
    | ok prompt =>
      rw [streamAlong_of_build_ok hauth hprompt]
      cases tool (s.authorize tool history).2 (s.request prompt).launch with
      | failed failure => exact ErrorLast.error _
      | ran output => exact itemsOfReader_shape _ _ _

/-- On a calm course the items of a started run are those of the events it
writes, and of its exit. -/
theorem streamAlong_of_ran {prompt : Prompt} {output : Output} {course : Output → Course}
    {code : Int} {stderr : String} (h : (s.authorize tool history).1 = .ok ())
    (hprompt : Prompt.build system messages = .ok prompt)
    (hran : tool (s.authorize tool history).2 (s.request prompt).launch = .ran output)
    (hcalm : (course output).Calm code stderr) :
    (s.streamAlong course tool system messages history).1 =
      itemsOfEvents s.model.model (exitFailure? code stderr) output.events := by
  rw [streamAlong_of_build_ok h hprompt, hran]
  exact itemsOfReader_of_calm hcalm rfl _

/-- With a key nothing is launched before the prompt is built. -/
theorem authorize_of_apiKey (hmode : s.settings.authMode = .apiKey) :
    s.authorize tool history = (.ok (), history) := by
  unfold authorize
  rw [hmode]
  rfl

/-- Without a key a session is signed in through the tool. -/
theorem authorize_of_chatGpt (hmode : s.settings.authMode = .chatGpt) :
    s.authorize tool history =
      tool.ensureSignedIn s.settings.binary s.settings.toolEnv history := by
  unfold authorize
  rw [hmode]

/-- The items of a session.  A session with a key launches nothing before its
prompt is built, and one without a key is signed in through the tool.  A step
that fails before the first line of output, which is signing in, building the
prompt or starting the tool, gives its error and nothing else.  When nothing is
reported about the started run but its exit, with whatever code and diagnostics,
the items are those of its events and of that exit; so the items of a stream end
in the code that the process exited with, or in {lit}`-1` when a signal ended it,
with the diagnostics that were kept of it.  In every case there is at most one
error, and it is the last item. -/
theorem streamAlong_items (s : Session) (course : Output → Course) (tool : Tool)
    (system : String) (messages : List Message) (history : List Run) :
    let auth := s.authorize tool history
    let items := (s.streamAlong course tool system messages history).1
    (s.settings.authMode = .apiKey → auth = (.ok (), history)) ∧
    (s.settings.authMode = .chatGpt →
      auth = tool.ensureSignedIn s.settings.binary s.settings.toolEnv history ∧
      tool.SignsIn s.settings.binary s.settings.toolEnv history auth) ∧
    (∀ e, auth.1 = .error e → items = [.error e]) ∧
    (∀ e, auth.1 = .ok () → Prompt.build system messages = .error e →
      items = [.error e]) ∧
    (∀ prompt failure, auth.1 = .ok () → Prompt.build system messages = .ok prompt →
      tool auth.2 (s.request prompt).launch = .failed failure →
      items = [.error (failure.toError (s.request prompt).launch)]) ∧
    (∀ prompt output code stderr, auth.1 = .ok () →
      Prompt.build system messages = .ok prompt →
      tool auth.2 (s.request prompt).launch = .ran output →
      (course output).Calm code stderr →
      ItemsOfRun s.model.model output.events code stderr items) ∧
    (∀ prompt output, auth.1 = .ok () → Prompt.build system messages = .ok prompt →
      tool auth.2 (s.request prompt).launch = .ran output →
      ∃ code stderr, output.ending.ReportedAs code ∧ output.KeptAs stderr ∧
        ItemsOfRun s.model.model output.events code stderr
          (s.stream tool system messages history).1) ∧
    ErrorLast items := by
  refine ⟨authorize_of_apiKey, ?_, ?_, ?_, ?_, ?_, ?_,
    streamAlong_shape s course tool system messages history⟩
  · intro hmode
    rw [authorize_of_chatGpt hmode]
    exact ⟨rfl, tool.ensureSignedIn_signsIn _ _ history⟩
  · intro e hauth
    exact congrArg Prod.fst (streamAlong_of_authorize_error hauth course)
  · intro e hauth hprompt
    exact congrArg Prod.fst (streamAlong_of_build_error hauth hprompt course)
  · intro prompt failure hauth hprompt hfailed
    rw [streamAlong_of_build_ok hauth hprompt, hfailed]
    rfl
  · intro prompt output code stderr hauth hprompt hran hcalm
    rw [streamAlong_of_ran hauth hprompt hran hcalm]
    exact itemsOfRun_itemsOfEvents _ _ code stderr
  · intro prompt output hauth hprompt hran
    refine ⟨output.ending.code, output.diagnostics, output.ending.reportedAs_code,
      output.keptAs_diagnostics, ?_⟩
    rw [stream, streamAlong_of_ran hauth hprompt hran output.calm_calm]
    exact itemsOfRun_itemsOfEvents _ _ _ _

/-- A text and an exit with code seven: the exit is the last item, with what the
run wrote about it.  When a reported failure and another text come between, that
failure is the last item. -/
theorem streamAlong_items_of_failing_run :
    let text := "\x7b\"text\":\"a\"\x7d\n"
    let accepted : Output := ⟨Text.Utf8.encode text, Text.Utf8.encode "x", .exited 7⟩
    let rejected : Output :=
      { accepted with stdout := Text.Utf8.encode (text ++ "\x7b\"error\":\"b\"\x7d\n" ++ text) }
    let s : Session := ⟨{ authMode := .apiKey }, ⟨"m", .unknown "m"⟩⟩
    (s.stream (fun _ _ => .ran accepted) "" [] []).1 =
        [.ok (.text "a"), .error (.processExit 7 "x")] ∧
      (s.stream (fun _ _ => .ran rejected) "" [] []).1 =
        [.ok (.text "a"), .error (.reported "b")] := by
  intro text accepted rejected s
  obtain ⟨prompt, hprompt⟩ : ∃ prompt, Prompt.build "" [] = .ok prompt := ⟨_, rfl⟩
  let shown : Json := .object [("text", .string "a")]
  let reported : Json := .object [("error", .string "b")]
  have haccepted : accepted.events = [shown] := by cbv
  have hrejected : rejected.events = [shown] ++ reported :: [shown] := by cbv
  have hcheck : ∀ event ∈ [shown], Event.check event = .ok () := by
    rw [List.forall_mem_singleton]
    cbv
  obtain ⟨-, -, -, -, -, -, hstream, -⟩ :=
    streamAlong_items s Output.calm (fun _ _ => .ran accepted) "" [] []
  obtain ⟨-, -, -, -, -, hrun, -⟩ :=
    streamAlong_items s Output.calm (fun _ _ => .ran rejected) "" [] []
  obtain ⟨code, stderr, hcode, ⟨reads, hreads, hkept⟩, hitems⟩ :=
    hstream prompt accepted rfl hprompt rfl
  have hitems' := hrun prompt rejected 7 rejected.diagnostics rfl hprompt rfl rejected.calm_calm
  -- A single byte is a single read, so the diagnostics are known.
  have hone : reads = [Text.Utf8.encode "x"] := hreads.eq_singleton
  cases hcode
  have hx : stderr = "x" := by
    rw [hkept, hone]
    decide
  refine ⟨?_, ?_⟩
  · rw [hitems.accepted (haccepted ▸ hcheck), haccepted, hx]
    cbv
  · obtain ⟨-, h⟩ := hitems'.rejected _ _ _ (.reported "b") hrejected hcheck (by cbv)
    rw [stream, h]
    cbv

end Session
end AgentRelay
