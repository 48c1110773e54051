import AgentRelay.Tool.RunState
import Mathlib

/-!
# The report that counts

Several observers report about a run, in an order that nobody controls.  Of all their reports one
decides what is known in the end: the first error, or else the first exit.  On the way the state
changes at most twice, from running to exited and from there, or at once, to failed; a failed run
never changes again.  So it does not matter where the exits stand among the errors.

Main definitions:

- {lit}`Report.firstExit?`: the first exit among reports.
- {lit}`RunState.ofFirst`: the state that a first error and a first exit come to.
- {lit}`RunState.Moves`: the changes that reports make.

Main results:

- Theorem {lit}`RunState.ofReports_eq_ofFirst`: a state is known from the first error and the first
  exit.
- Theorem {lit}`RunState.moves_iff`: every change is made by a report, and no other.
- Theorem {lit}`RunState.ofReports_of_first`: the state after any reports, and how it came about.
-/

namespace AgentRelay

namespace Report

/-! ## First errors and first exits -/

/-- The first exit among reports. -/
def firstExit? (reports : List Report) : Option Int :=
  (exits reports).head?

theorem firstError?_concat (reports : List Report) (report : Report) :
    firstError? (reports ++ [report]) = (firstError? reports).or report.error? := by
  rw [firstError?, List.findSome?_append, List.findSome?_singleton]
  rfl

theorem firstExit?_concat (reports : List Report) (report : Report) :
    firstExit? (reports ++ [report]) = (firstExit? reports).or report.exit? := by
  rw [firstExit?, exits, List.filterMap_append, List.head?_append]
  cases report <;> rfl

@[simp]
theorem firstError?_map_exit (codes : List Int) : firstError? (codes.map .exit) = none := by
  induction codes with
  | nil => rfl
  | cons code codes ih => rw [List.map_cons, firstError?_cons_exit, ih]

/-- Reports without an error are exits. -/
theorem firstError?_eq_none_iff (reports : List Report) :
    firstError? reports = none ↔ ∃ codes : List Int, reports = codes.map .exit := by
  constructor
  · intro h
    induction reports with
    | nil => exact ⟨[], rfl⟩
    | cons report reports ih =>
      cases report with
      | error message => cases h
      | exit code =>
        obtain ⟨codes, rfl⟩ := ih h
        exact ⟨code :: codes, rfl⟩
  · rintro ⟨codes, rfl⟩
    exact firstError?_map_exit codes

/-- The first error has only exits before it. -/
theorem firstError?_eq_some_iff (reports : List Report) (message : String) :
    firstError? reports = some message ↔
      ∃ (codes : List Int) (later : List Report),
        reports = codes.map .exit ++ .error message :: later := by
  constructor
  · intro h
    induction reports with
    | nil => cases h
    | cons report reports ih =>
      cases report with
      | error first =>
        cases h
        exact ⟨[], reports, rfl⟩
      | exit code =>
        obtain ⟨codes, later, rfl⟩ := ih h
        exact ⟨code :: codes, later, rfl⟩
  · rintro ⟨codes, later, rfl⟩
    rw [firstError?, List.findSome?_append, ← firstError?, firstError?_map_exit, Option.none_or]
    rfl

@[simp]
theorem firstExit?_map_exit (codes : List Int) : firstExit? (codes.map .exit) = codes.head? := by
  cases codes <;> rfl

end Report

namespace RunState

open Report (firstError? firstExit?)

/-! ## The state after reports -/

/-- The state that a first error and a first exit come to: the error counts more. -/
def ofFirst : Option String → Option Int → RunState
  | some message, _ => .failed message
  | none, some code => .exited code
  | none, none => .running

/-- One more report counts only as far as there was none of its kind before it. -/
theorem after_ofFirst (failure : Option String) (code : Option Int) (report : Report) :
    (ofFirst failure code).after report =
      ofFirst (failure.or report.error?) (code.or report.exit?) := by
  cases failure with
  | some message => cases report <;> rfl
  | none => cases code <;> cases report <;> rfl

/-- A state is known from the first error and the first exit. -/
theorem ofReports_eq_ofFirst (reports : List Report) :
    ofReports reports = ofFirst (firstError? reports) (firstExit? reports) := by
  -- The induction is from the back: the report that comes last is the last step of the state.
  induction reports using List.reverseRecOn with
  | nil => rfl
  | append_singleton reports report ih =>
    rw [ofReports_concat, ih, after_ofFirst, Report.firstError?_concat, Report.firstExit?_concat]

/-- A run is known to have failed when an error was reported, with the first one. -/
theorem ofReports_eq_failed_iff (reports : List Report) (message : String) :
    ofReports reports = .failed message ↔ firstError? reports = some message := by
  rw [ofReports_eq_ofFirst]
  cases firstError? reports with
  | some first => simp [ofFirst]
  | none => cases firstExit? reports <;> simp [ofFirst]

/-- A run is known to have exited when nothing but exits was reported, with the first one. -/
theorem ofReports_eq_exited_iff (reports : List Report) (code : Int) :
    ofReports reports = .exited code ↔
      ∃ codes : List Int, reports = (code :: codes).map .exit := by
  constructor
  · intro h
    have hnone : firstError? reports = none := by
      rw [← error?_ofReports, h]
      rfl
    obtain ⟨codes, rfl⟩ := (Report.firstError?_eq_none_iff reports).1 hnone
    rw [ofReports_eq_ofFirst, hnone, Report.firstExit?_map_exit] at h
    cases codes with
    | nil => cases h
    | cons first codes =>
      cases h
      exact ⟨codes, rfl⟩
  · rintro ⟨codes, rfl⟩
    rw [ofReports_eq_ofFirst, Report.firstError?_map_exit, Report.firstExit?_map_exit]
    rfl

/-- A run is running as long as nothing was reported. -/
theorem ofReports_eq_running_iff (reports : List Report) :
    ofReports reports = .running ↔ reports = [] := by
  constructor
  · intro h
    cases reports using List.reverseRecOn with
    | nil => rfl
    | append_singleton reports report =>
      rw [ofReports_concat] at h
      exact absurd h (after_ne_running _ _)
  · rintro rfl
    rfl

/-- Two runs are in the same state exactly when they have the same first error or, without an
error, the same first exit. -/
theorem ofReports_eq_iff (reports reports' : List Report) :
    ofReports reports' = ofReports reports ↔
      firstError? reports' = firstError? reports ∧
        (firstError? reports = none → firstExit? reports' = firstExit? reports) := by
  simp only [ofReports_eq_ofFirst]
  cases firstError? reports with
  | some message =>
    cases firstError? reports' with
    | some message' => simp [ofFirst]
    | none => cases firstExit? reports' <;> simp [ofFirst]
  | none =>
    cases firstError? reports' with
    | some message' => cases firstExit? reports <;> simp [ofFirst]
    | none => cases firstExit? reports <;> cases firstExit? reports' <;> simp [ofFirst]

/-! ## How the state changes -/

/-- The changes of a state: from running to exited, and from either of them to failed. -/
inductive Moves : RunState → RunState → Prop where
  | exit (code : Int) : Moves .running (.exited code)
  | error (message : String) : Moves .running (.failed message)
  | errorAfterExit (code : Int) (message : String) : Moves (.exited code) (.failed message)

/-- A report leaves the state as it is, or makes one of the changes. -/
theorem after_eq_or_moves (state : RunState) (report : Report) :
    state.after report = state ∨ Moves state (state.after report) := by
  cases state with
  | running =>
    right
    cases report with
    | error message => exact .error message
    | exit code => exact .exit code
  | exited code =>
    cases report with
    | error message => exact .inr (.errorAfterExit code message)
    | exit later => exact .inl rfl
  | failed message =>
    left
    cases report <;> rfl

/-- Every change is made by a report, and no other. -/
theorem moves_iff (state state' : RunState) :
    Moves state state' ↔ state' ≠ state ∧ ∃ report, state.after report = state' := by
  constructor
  · intro h
    cases h with
    | exit code => exact ⟨nofun, .exit code, rfl⟩
    | error message => exact ⟨nofun, .error message, rfl⟩
    | errorAfterExit code message => exact ⟨nofun, .error message, rfl⟩
  · rintro ⟨hne, report, rfl⟩
    exact (after_eq_or_moves state report).resolve_left hne

/-- Nothing changes a failed run. -/
theorem not_moves_failed (message : String) (state : RunState) : ¬ Moves (.failed message) state :=
  nofun

/-- Reports change the state step by step. -/
theorem moves_foldl_after (reports : List Report) (state : RunState) :
    Relation.ReflTransGen Moves state (reports.foldl after state) := by
  induction reports generalizing state with
  | nil => exact .refl
  | cons report reports ih =>
    rw [List.foldl_cons]
    rcases after_eq_or_moves state report with heq | hmoves
    · rw [heq]
      exact ih state
    · exact .head hmoves (ih _)

theorem ofReports_append (before later : List Report) :
    ofReports (before ++ later) = later.foldl after (ofReports before) := by
  rw [ofReports, List.foldl_append, ← ofReports]

/-- A failed run stays as it is, whatever is reported later. -/
theorem foldl_after_failed (message : String) (reports : List Report) :
    reports.foldl after (.failed message) = .failed message := by
  rcases Relation.ReflTransGen.cases_head (moves_foldl_after reports (.failed message)) with
    heq | ⟨state, hmoves, -⟩
  · exact heq.symm
  · exact absurd hmoves (not_moves_failed message state)

/-! ## Whole runs -/

/-- What the reports about a run come to, whoever makes them and in whatever order.  The run has
failed with the first error, even when exits were reported before it; without an error it has
exited with the first exit, and without any report it is running.  The changes that one more
report can make are those from running to exited and from either of them to failed, and later
reports only go on in this way, so that a failed run stays as it is.  Two sequences of reports
come to the same exactly when they have the same first error or, without one, the same first
exit; so reports in another order come to the same as long as the first error stays first. -/
theorem ofReports_of_first (reports : List Report) :
    (∀ message, ofReports reports = .failed message ↔
      ∃ (codes : List Int) (later : List Report),
        reports = codes.map .exit ++ .error message :: later) ∧
    (∀ code, ofReports reports = .exited code ↔
      ∃ codes : List Int, reports = (code :: codes).map .exit) ∧
    (ofReports reports = .running ↔ reports = []) ∧
    (∀ state, Moves (ofReports reports) state ↔
      state ≠ ofReports reports ∧ ∃ report, ofReports (reports ++ [report]) = state) ∧
    (∀ later, Relation.ReflTransGen Moves (ofReports reports) (ofReports (reports ++ later))) ∧
    (∀ message, ofReports reports = .failed message →
      ∀ later, ofReports (reports ++ later) = .failed message) ∧
    (∀ reports', ofReports reports' = ofReports reports ↔
      firstError? reports' = firstError? reports ∧
        (firstError? reports = none → firstExit? reports' = firstExit? reports)) ∧
    (∀ message, firstError? reports = some message →
      ∀ reports' : List Report, reports'.Perm reports → firstError? reports' = some message →
        ofReports reports' = ofReports reports) := by
  refine ⟨?_, ofReports_eq_exited_iff reports, ofReports_eq_running_iff reports, ?_, ?_, ?_,
    ofReports_eq_iff reports, ?_⟩
  · intro message
    rw [ofReports_eq_failed_iff, Report.firstError?_eq_some_iff]
  · intro state
    simp only [ofReports_concat]
    exact moves_iff _ state
  · intro later
    rw [ofReports_append]
    exact moves_foldl_after later _
  · intro message hfailed later
    rw [ofReports_append, hfailed, foldl_after_failed]
  · intro message hfirst reports' _ hfirst'
    rw [(ofReports_eq_failed_iff reports message).2 hfirst,
      (ofReports_eq_failed_iff reports' message).2 hfirst']

/-- An error after an exit counts more than the exit, and more than a later error.  It makes no
difference when the exits are reported after the errors. -/
theorem ofReports_of_first_of_lateError :
    let reports : List Report := [.exit 0, .error "feed", .exit 3, .error "read"]
    let reports' : List Report := [.error "feed", .error "read", .exit 3, .exit 0]
    ofReports reports = .failed "feed" ∧
      ofReports (reports ++ [.exit 0]) = .failed "feed" ∧
      ofReports reports' = ofReports reports := by
  intro reports reports'
  obtain ⟨hfailed, -, -, -, -, hsticky, -, hperm⟩ := ofReports_of_first reports
  have hstate : ofReports reports = .failed "feed" :=
    (hfailed "feed").2 ⟨[0], [.exit 3, .error "read"], rfl⟩
  refine ⟨hstate, hsticky "feed" hstate [.exit 0], ?_⟩
  exact hperm "feed" rfl reports' (by decide) rfl

end RunState
end AgentRelay
