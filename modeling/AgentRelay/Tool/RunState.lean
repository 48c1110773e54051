/-!
# The state of a run

Several observers report how a run ends.  The first error that is reported
stays; an exit is kept only while nothing else was reported.

Main definitions:

- {lit}`RunState`: what is known about a run.
- {lit}`RunState.withError` and {lit}`RunState.withExit`: reports.
- {lit}`RunState.ofReports`: the state after a sequence of reports.
-/

namespace AgentRelay

/-- What is known about a run. -/
inductive RunState where
  | running
  | failed (message : String)
  | exited (code : Int)
deriving DecidableEq, Repr

/-- What is reported about a run: an error or an exit. -/
inductive Report where
  | error (message : String)
  | exit (code : Int)
deriving DecidableEq, Repr

namespace Report

/-- The message of a reported error. -/
def error? : Report → Option String
  | .error message => some message
  | .exit _ => none

/-- The code of a reported exit. -/
def exit? : Report → Option Int
  | .error _ => none
  | .exit code => some code

/-- The first error among reports. -/
def firstError? (reports : List Report) : Option String :=
  reports.findSome? error?

/-- The exits among reports. -/
def exits (reports : List Report) : List Int :=
  reports.filterMap exit?

@[simp]
theorem firstError?_cons_error (message : String) (reports : List Report) :
    firstError? (.error message :: reports) = some message :=
  rfl

@[simp]
theorem firstError?_cons_exit (code : Int) (reports : List Report) :
    firstError? (.exit code :: reports) = firstError? reports :=
  rfl

@[simp]
theorem exits_concat_error (reports : List Report) (message : String) :
    exits (reports ++ [.error message]) = exits reports := by
  simp [exits, exit?]

@[simp]
theorem exits_concat_exit (reports : List Report) (code : Int) :
    exits (reports ++ [.exit code]) = exits reports ++ [code] := by
  simp [exits, exit?]

/-- Reports without an error are all exits. -/
theorem length_exits_of_firstError?_eq_none {reports : List Report}
    (h : firstError? reports = none) : (exits reports).length = reports.length := by
  induction reports with
  | nil => rfl
  | cons report reports ih =>
    cases report with
    | error message => simp at h
    | exit code =>
      rw [firstError?_cons_exit] at h
      simpa [exits, exit?] using ih h

end Report

namespace RunState

/-- A failure is reported: it takes the place of an exit, but not of an earlier
failure. -/
def withError (message : String) : RunState → RunState
  | .failed first => .failed first
  | _ => .failed message

/-- An exit is reported: it counts only while the run is not known to have
ended. -/
def withExit (code : Int) : RunState → RunState
  | .running => .exited code
  | state => state

/-- The message of a failed run. -/
def error? : RunState → Option String
  | .failed message => some message
  | _ => none

/-- After a report of an error the run is known to have failed. -/
theorem error?_withError_isSome (message : String) (state : RunState) :
    (withError message state).error?.isSome = true := by
  cases state <;> rfl

/-- The first error is the one that counts. -/
@[simp]
theorem error?_withError (message : String) (state : RunState) :
    (withError message state).error? = state.error?.or (some message) := by
  cases state <;> rfl

/-- An exit is no error and hides none. -/
@[simp]
theorem error?_withExit (code : Int) (state : RunState) :
    (withExit code state).error? = state.error? := by
  cases state <;> rfl

/-- After a report of an exit the run is known to have ended. -/
theorem withExit_ne_running (code : Int) (state : RunState) : withExit code state ≠ .running := by
  cases state <;> simp [withExit]

/-- After a report of an error the run is known to have ended. -/
theorem withError_ne_running (message : String) (state : RunState) :
    withError message state ≠ .running := by
  cases state <;> simp [withError]

theorem eq_failed_of_error? {state : RunState} {message : String}
    (h : state.error? = some message) : state = .failed message := by
  cases state with
  | failed first =>
    cases h
    rfl
  | running => cases h
  | exited code => cases h

/-- A run that is known to have failed has not exited. -/
theorem error?_eq_none_of_exited {state : RunState} {code : Int} (h : state = .exited code) :
    state.error? = none := by
  rw [h]
  rfl

/-! ## Reports one after another -/

/-- The state after one more report. -/
def after (state : RunState) : Report → RunState
  | .error message => state.withError message
  | .exit code => state.withExit code

/-- The state of a run about which reports were made, in their order. -/
def ofReports (reports : List Report) : RunState :=
  reports.foldl after .running

/-- A known error stays whatever is reported later. -/
theorem error?_after_of_some {state : RunState} {message : String}
    (h : state.error? = some message) (report : Report) :
    (state.after report).error? = some message := by
  cases report <;> simp [after, h]

/-- No report makes a run be running again. -/
theorem after_ne_running (state : RunState) (report : Report) : state.after report ≠ .running := by
  cases report with
  | error message => exact withError_ne_running message state
  | exit code => exact withExit_ne_running code state

/-- The error after further reports: the one known before, or else the first that
is reported. -/
theorem error?_foldl_after (reports : List Report) (state : RunState) :
    (reports.foldl after state).error? = state.error?.or (Report.firstError? reports) := by
  induction reports generalizing state with
  | nil => simp [Report.firstError?]
  | cons report reports ih =>
    rw [List.foldl_cons, ih]
    cases report with
    | error message => cases h : state.error? <;> simp [after, h]
    | exit code => simp [after]

/-- The error of a run is the first that was reported. -/
theorem error?_ofReports (reports : List Report) :
    (ofReports reports).error? = Report.firstError? reports := by
  rw [ofReports, error?_foldl_after]
  rfl

theorem ofReports_concat (reports : List Report) (report : Report) :
    ofReports (reports ++ [report]) = (ofReports reports).after report := by
  simp [ofReports]

end RunState
end AgentRelay
