import AgentRelay.Tool.Reader

/-!
# Supervised runs

Three helpers work beside the caller who reads a run.  The feeder writes the
prompt, the monitor waits for the end of the process, and the collector keeps the
diagnostics.  The caller and the helpers report to one run state, and their steps
come in any order.

A call for the next line is taken apart into its single accesses: a look at the
state, a read of one segment at a time, a second look, and after the end of the
output the waiting for each helper before the last look.  {lit}`Reader.next` is a
whole call, told from what its accesses observed.

Main definitions:

- {lit}`Shared`: what the caller and the helpers share.
- {lit}`HelperStep` and {lit}`CallerStep`: one step of a helper or of the caller.
- {lit}`Supervised.Step`: one step of a supervised run.
-/

namespace AgentRelay

/-! ## Helpers -/

/-- The tasks beside the caller. -/
inductive Helper where
  | feeder
  | monitor
  | collector
deriving DecidableEq, Repr

/-- How far a helper is: at work, with its last report made, ended, or broken off. -/
inductive Progress where
  | working
  | settled
  | ended
  | broken (reason : String)
deriving DecidableEq, Repr

/-- What the caller and the helpers share: the run state, the reports that led to
it, the diagnostics kept so far, and how far the helpers are. -/
structure Shared where
  state : RunState := .running
  reports : List Report := []
  stderr : String := ""
  progress : Helper → Progress := fun _ => .working

/-- What is reported when the prompt cannot be written. -/
def feedingFailure (reason : String) : Report :=
  .error ("Failed to write prompt to stdin: " ++ reason)

/-- What is reported when the end of the process cannot be awaited. -/
def waitingFailure (reason : String) : Report :=
  .error ("Failed to wait for Codex CLI process: " ++ reason)

/-- What is reported when the output cannot be read. -/
def readingFailure (reason : String) : Report :=
  .error ("Failed to read Codex CLI stdout: " ++ reason)

/-- What is reported about a helper that broke off. -/
def helperFailure (reason : String) : Report :=
  .error ("Codex CLI supervisor task failed: " ++ reason)

namespace Shared

/-- A report is made. -/
def report (s : Shared) (r : Report) : Shared :=
  { s with state := s.state.after r, reports := s.reports ++ [r] }

/-- A helper gets on. -/
def advance (s : Shared) (helper : Helper) (progress : Progress) : Shared :=
  { s with progress := fun other => if other = helper then progress else s.progress other }

/-- A helper may end: with its last report made, or without one unless it is the
monitor, which has to report how the process ended. -/
def MayEnd (s : Shared) (helper : Helper) : Prop :=
  s.progress helper = .settled ∨ (s.progress helper = .working ∧ helper ≠ .monitor)

@[simp]
theorem report_state (s : Shared) (r : Report) : (s.report r).state = s.state.after r :=
  rfl

@[simp]
theorem report_reports (s : Shared) (r : Report) : (s.report r).reports = s.reports ++ [r] :=
  rfl

@[simp]
theorem advance_state (s : Shared) (helper : Helper) (p : Progress) :
    (s.advance helper p).state = s.state :=
  rfl

@[simp]
theorem advance_reports (s : Shared) (helper : Helper) (p : Progress) :
    (s.advance helper p).reports = s.reports :=
  rfl

@[simp]
theorem advance_progress_self (s : Shared) (helper : Helper) (p : Progress) :
    (s.advance helper p).progress helper = p := by
  simp [advance]

/-- A known error stays whatever is reported later. -/
theorem error?_report_of_some {s : Shared} {message : String}
    (h : s.state.error? = some message) (r : Report) :
    (s.report r).state.error? = some message :=
  RunState.error?_after_of_some h r

/-- After a report the run is known to have ended. -/
theorem report_ne_running (s : Shared) (r : Report) : (s.report r).state ≠ .running :=
  RunState.after_ne_running s.state r

/-- The other helpers stay where they are. -/
theorem advance_progress_of_ne (s : Shared) {helper other : Helper} (h : other ≠ helper)
    (p : Progress) : (s.advance helper p).progress other = s.progress other := by
  simp [advance, h]

end Shared

/-- One step of a helper. -/
inductive HelperStep : Shared → Shared → Prop where
  | feedingFails (s : Shared) (reason : String) (h : s.progress .feeder = .working) :
      HelperStep s ((s.report (feedingFailure reason)).advance .feeder .settled)
  | exits (s : Shared) (code : Int) (h : s.progress .monitor = .working) :
      HelperStep s ((s.report (.exit code)).advance .monitor .settled)
  | waitingFails (s : Shared) (reason : String) (h : s.progress .monitor = .working) :
      HelperStep s ((s.report (waitingFailure reason)).advance .monitor .settled)
  | collects (s : Shared) (text : String) (h : s.progress .collector = .working) :
      HelperStep s { s with stderr := s.stderr ++ text }
  | ends (s : Shared) (helper : Helper) (h : s.MayEnd helper) :
      HelperStep s (s.advance helper .ended)
  | breaksOff (s : Shared) (helper : Helper) (reason : String)
      (h : s.progress helper = .working ∨ s.progress helper = .settled) :
      HelperStep s (s.advance helper (.broken reason))

/-! ## The caller -/

/-- What the call under way has to do next, with what it has observed so far. -/
inductive Stage where
  | idle
  | entered
  | reading (before : RunState)
  | lookingAgain (before : RunState) (line : Option String)
  | joining (before after : RunState) (left : List Helper)
deriving DecidableEq, Repr

/-- A supervised run: what is shared, what is left to read, the call under way and
the reader it began with, and what the calls before it observed and gave. -/
structure Supervised where
  shared : Shared
  reader : Reader
  stage : Stage
  entry : Reader
  seen : List Observation
  results : List LineResult

namespace Supervised

/-- A run that has just begun, with the output it is going to have. -/
def start (segments : List (List UInt8)) : Supervised where
  shared := {}
  reader := ⟨segments, false⟩
  stage := .idle
  entry := ⟨segments, false⟩
  seen := []
  results := []

/-- The call under way gives a result. -/
def give (w : Supervised) (result : LineResult) (observed : Observation) (finished : Bool) :
    Supervised :=
  { w with
    reader := ⟨w.reader.segments, finished⟩
    stage := .idle
    seen := w.seen ++ [observed]
    results := w.results ++ [result] }

/-- The state and the diagnostics as they are now. -/
def now (w : Supervised) : Observation :=
  ⟨w.shared.state, w.shared.state, w.shared.state, w.shared.stderr⟩

end Supervised

/-- The helpers in the order in which the caller waits for them. -/
def joinOrder : List Helper :=
  [.feeder, .monitor, .collector]

/-- One step of the caller. -/
inductive CallerStep : Supervised → Supervised → Prop where
  | callAfterEnd (w : Supervised) (h : w.stage = .idle) (hf : w.reader.finished = true) :
      CallerStep w (w.give (.ok none) w.now true)
  | call (w : Supervised) (h : w.stage = .idle) (hf : w.reader.finished = false) :
      CallerStep w { w with stage := .entered, entry := w.reader }
  | look (w : Supervised) (h : w.stage = .entered) (he : w.shared.state.error? = none) :
      CallerStep w { w with stage := .reading w.shared.state }
  | lookFails (w : Supervised) (message : String) (h : w.stage = .entered)
      (he : w.shared.state.error? = some message) :
      CallerStep w (w.give (.error (.processError message)) w.now true)
  | readLine (w : Supervised) (before : RunState) (seg : List UInt8)
      (rest : List (List UInt8)) (line : String) (h : w.stage = .reading before)
      (hs : w.reader.segments = seg :: rest) (hl : Text.line? seg = some line) :
      CallerStep w { w with
        reader := ⟨rest, w.reader.finished⟩, stage := .lookingAgain before (some line) }
  | readNoise (w : Supervised) (before : RunState) (seg : List UInt8)
      (rest : List (List UInt8)) (h : w.stage = .reading before)
      (hs : w.reader.segments = seg :: rest) (hl : Text.line? seg = none) :
      CallerStep w { w with reader := ⟨rest, w.reader.finished⟩ }
  | readEnd (w : Supervised) (before : RunState) (h : w.stage = .reading before)
      (hs : w.reader.segments = []) :
      CallerStep w { w with stage := .lookingAgain before none }
  | readFails (w : Supervised) (before : RunState) (reason : String)
      (h : w.stage = .reading before) :
      CallerStep w { w with
        shared := w.shared.report (readingFailure reason), stage := .lookingAgain before none }
  | lookAgainFails (w : Supervised) (before : RunState) (line : Option String)
      (message : String) (h : w.stage = .lookingAgain before line)
      (he : w.shared.state.error? = some message) :
      CallerStep w (w.give (.error (.processError message)) { w.now with before := before } true)
  | giveLine (w : Supervised) (before : RunState) (line : String)
      (h : w.stage = .lookingAgain before (some line)) (he : w.shared.state.error? = none) :
      CallerStep w (w.give (.ok (some line)) { w.now with before := before } false)
  | finish (w : Supervised) (before : RunState) (h : w.stage = .lookingAgain before none)
      (he : w.shared.state.error? = none) :
      CallerStep w { w with
        reader := ⟨w.reader.segments, true⟩
        stage := .joining before w.shared.state joinOrder }
  | join (w : Supervised) (before after : RunState) (helper : Helper) (left : List Helper)
      (h : w.stage = .joining before after (helper :: left))
      (hp : w.shared.progress helper = .ended) :
      CallerStep w { w with stage := .joining before after left }
  | joinBroken (w : Supervised) (before after : RunState) (helper : Helper)
      (left : List Helper) (reason : String)
      (h : w.stage = .joining before after (helper :: left))
      (hp : w.shared.progress helper = .broken reason) :
      CallerStep w { w with
        shared := w.shared.report (helperFailure reason)
        stage := .joining before after left }
  | conclude (w : Supervised) (before after : RunState)
      (h : w.stage = .joining before after []) :
      CallerStep w (w.give
        ((Reader.outcome w.shared.state w.shared.stderr).map fun _ => none)
        { w.now with before := before, after := after } true)

/-- One step of a supervised run: a helper or the caller does something. -/
inductive Supervised.Step : Supervised → Supervised → Prop where
  | helper (w : Supervised) (s : Shared) (h : HelperStep w.shared s) :
      Step w { w with shared := s }
  | caller (w w' : Supervised) (h : CallerStep w w') : Step w w'

end AgentRelay
