import AgentRelay.Proofs.Supervision.Invariant

/-!
# The protocol of supervised runs

What the calls for the next line give when the steps of the caller and of the helpers
come in any order: lines, then one result that says how the run ended, then nothing.

Main definitions:

- {lit}`Supervised.Explains`: what the result that ends the lines says.
- {lit}`Supervised.Silent` and {lit}`Supervised.Gives`: what a step of the caller does to the
  results.
- {lit}`Supervised.Recorded`, {lit}`Supervised.Replayed` and {lit}`Supervised.Failing`:
  what every step keeps about the results.

Main result:

- {lit}`Supervised.Reachable.protocol`: the protocol, in every reachable state.
-/

namespace AgentRelay
namespace Supervised

/-! ## What the calls give -/

/-- A result that is a line. -/
def IsLine (result : LineResult) : Prop :=
  ∃ line, result = .ok (some line)

/-- Nothing more can happen to a run: its output is read and its helpers have
ended. -/
structure AtRest (w : Supervised) : Prop where
  ended : ∀ helper, w.shared.progress helper = .ended
  no_segment : w.reader.segments = []

/-- What the result that ends the lines says about the run. -/
def Explains (w : Supervised) : LineResult → Prop
  | .ok none => w.AtRest ∧ w.shared.reports = [.exit 0]
  | .error (.processExit code stderr) =>
    w.AtRest ∧ w.shared.reports = [.exit code] ∧ code ≠ 0 ∧ w.shared.stderr = stderr
  | .error (.processError message) => Report.firstError? w.shared.reports = some message
  | _ => False

/-- The results of an open run are lines. -/
def OpenResults (w : Supervised) : Prop :=
  ∀ result ∈ w.results, IsLine result

/-- The results of a closed run are lines, then one result that says how it ended,
then nothing. -/
def ClosedResults (w : Supervised) : Prop :=
  ∃ lines last n, w.results = lines ++ last :: List.replicate n (.ok none) ∧
    (∀ result ∈ lines, IsLine result) ∧ w.Explains last

/-- The call under way waits for the helpers. -/
def IsJoining (w : Supervised) : Prop :=
  ∃ before after left, w.stage = .joining before after left

/-- A run that has not given its last result yet: it is still read, or the call
under way waits for the helpers. -/
def IsOpen (w : Supervised) : Prop :=
  w.reader.finished = false ∨ w.IsJoining

/-- The results agree with whether the run is open. -/
structure Recorded (w : Supervised) : Prop where
  ofOpen : w.IsOpen → w.OpenResults
  ofClosed : ¬ w.IsOpen → w.ClosedResults

/-- A run that is idle and finished is closed. -/
theorem not_isOpen_of_idle {w : Supervised} (hidle : w.stage = .idle)
    (hf : w.reader.finished = true) : ¬ w.IsOpen := by
  rintro (hopen | ⟨_, _, _, hjoining⟩)
  · simp [hf] at hopen
  · simp [hidle] at hjoining

/-- A call that is the last one closes the run. -/
theorem not_isOpen_give (w : Supervised) (result : LineResult) (o : Observation) :
    ¬ (w.give result o true).IsOpen :=
  not_isOpen_of_idle rfl rfl

/-- A call that is under way was made while the run was open. -/
theorem StageSound.isOpen {w : Supervised} (hw : w.StageSound) (hstage : w.stage ≠ .idle) :
    w.IsOpen := by
  unfold StageSound at hw
  cases h : w.stage with
  | idle => exact absurd h hstage
  | entered =>
    simp only [h] at hw
    exact .inl (hw.1 ▸ hw.2)
  | reading before =>
    simp only [h] at hw
    exact .inl hw.1.reader_open
  | lookingAgain before line =>
    simp only [h] at hw
    exact .inl hw.1.reader_open
  | joining before after left => exact .inr ⟨before, after, left, h⟩

/-- A step of the caller that gives no result.  The run is open before it and after it,
and an error that was known stays known. -/
structure Silent (w w' : Supervised) : Prop where
  before : w.IsOpen
  after : w'.IsOpen
  results_eq : w'.results = w.results
  known : ∀ {message : String}, w.shared.state.error? = some message →
    w'.shared.state.error? = some message

/-- A step of the caller that gives a result: nothing after the end, a line while no
error is known, an error that is known, or what the run came to. -/
inductive Gives (w : Supervised) : Supervised → Prop where
  | nothing (hidle : w.stage = .idle) (hf : w.reader.finished = true) :
      Gives w (w.give (.ok none) w.now true)
  | line (line : String) (o : Observation) (hopen : w.IsOpen)
      (he : w.shared.state.error? = none) : Gives w (w.give (.ok (some line)) o false)
  | failure (message : String) (o : Observation) (hopen : w.IsOpen)
      (he : w.shared.state.error? = some message) :
      Gives w (w.give (.error (.processError message)) o true)
  | outcome (before after : RunState) (o : Observation)
      (hstage : w.stage = .joining before after []) :
      Gives w (w.give ((Reader.outcome w.shared.state w.shared.stderr).map fun _ => none) o true)

/-- Every step of the caller either gives a result or leaves the results as they are. -/
theorem Sound.silent_or_gives {w w' : Supervised} (hw : w.Sound) (h : CallerStep w w') :
    w.Silent w' ∨ w.Gives w' := by
  have hopen := hw.stage.isOpen
  have hopen' := (hw.of_callerStep h).stage.isOpen
  cases h with
  | callAfterEnd hidle hf => exact .inr (.nothing hidle hf)
  | call hidle hf => exact .inl ⟨.inl hf, hopen' (by simp), rfl, id⟩
  | look hstage he => exact .inl ⟨hopen (by simp [hstage]), hopen' (by simp), rfl, id⟩
  | lookFails message hstage he =>
    exact .inr (.failure message _ (hopen (by simp [hstage])) he)
  | readLine before seg rest line hstage hsegs hl =>
    exact .inl ⟨hopen (by simp [hstage]), hopen' (by simp), rfl, id⟩
  | readNoise before seg rest hstage hsegs hl =>
    exact .inl ⟨hopen (by simp [hstage]), hopen' (by simp [hstage]), rfl, id⟩
  | readEnd before hstage hsegs =>
    exact .inl ⟨hopen (by simp [hstage]), hopen' (by simp), rfl, id⟩
  | readFails before reason hstage =>
    exact .inl ⟨hopen (by simp [hstage]), hopen' (by simp), rfl,
      fun he => Shared.error?_report_of_some he _⟩
  | lookAgainFails before line message hstage he =>
    exact .inr (.failure message _ (hopen (by simp [hstage])) he)
  | giveLine before line hstage he =>
    exact .inr (.line line _ (hopen (by simp [hstage])) he)
  | finish before hstage he =>
    exact .inl ⟨hopen (by simp [hstage]), hopen' (by simp), rfl, id⟩
  | join before after helper left hstage hp =>
    exact .inl ⟨hopen (by simp [hstage]), hopen' (by simp), rfl, id⟩
  | joinBroken before after helper left reason hstage hp =>
    exact .inl ⟨hopen (by simp [hstage]), hopen' (by simp), rfl,
      fun he => Shared.error?_report_of_some he _⟩
  | conclude before after hstage => exact .inr (.outcome before after _ hstage)

theorem recorded_start (segments : List (List UInt8)) : (start segments).Recorded where
  ofOpen _ result h := by cases h
  ofClosed h := absurd (.inl rfl) h

/-- The helpers do not change what a result says. -/
theorem Explains.of_helperStep {w : Supervised} {s : Shared} {result : LineResult}
    (hr : w.Explains result) (hw : w.shared.Consistent) (h : HelperStep w.shared s) :
    Explains { w with shared := s } result := by
  match result, hr with
  | .ok none, ⟨hrest, _⟩ => exact (h.not_of_ended hrest.ended).elim
  | .error (.processExit _ _), ⟨hrest, _⟩ => exact (h.not_of_ended hrest.ended).elim
  | .error (.processError message), he =>
    have hs : w.shared.state.error? = some message := hw.error?_eq.trans he
    exact (h.consistent hw).error?_eq.symm.trans (h.error?_of_some hs)

/-- The helpers do not change the results. -/
theorem Recorded.of_helperStep {w : Supervised} {s : Shared} (hw : w.Recorded)
    (hsound : w.Sound) (h : HelperStep w.shared s) :
    Recorded { w with shared := s } where
  ofOpen := hw.ofOpen
  ofClosed hclosed := by
    obtain ⟨lines, last, n, hresults, hlines, hlast⟩ := hw.ofClosed hclosed
    exact ⟨lines, last, n, hresults, hlines, hlast.of_helperStep hsound.shared h⟩

/-- An open run stays recorded while its results stay the same and it stays open. -/
theorem Recorded.of_open {w w' : Supervised} (hw : w.Recorded) (hopen : w.IsOpen)
    (hresults : w'.results = w.results) (hopen' : w'.IsOpen) : w'.Recorded where
  ofOpen _ := by
    unfold OpenResults
    rw [hresults]
    exact hw.ofOpen hopen
  ofClosed hclosed := absurd hopen' hclosed

/-- A run is closed by a result that says how it ended. -/
theorem Recorded.of_give {w : Supervised} {result : LineResult} {o : Observation}
    (hw : w.Recorded) (hopen : w.IsOpen)
    (hresult : (w.give result o true).Explains result) :
    (w.give result o true).Recorded where
  ofOpen h := absurd h (not_isOpen_give w result o)
  ofClosed _ := ⟨w.results, result, 0, by simp [give], hw.ofOpen hopen, hresult⟩

/-- The last look, after the helpers were waited for, tells how the run ended. -/
theorem explains_outcome {w : Supervised} {before after : RunState} {o : Observation}
    (hw : w.Sound) (h : w.stage = .joining before after []) :
    (w.give ((Reader.outcome w.shared.state w.shared.stderr).map fun _ => none) o true).Explains
      ((Reader.outcome w.shared.state w.shared.stderr).map fun _ => none) := by
  have hs := hw.stage
  simp only [StageSound, h] at hs
  have hended : w.shared.state.error? = none → ∀ helper, w.shared.progress helper = .ended := by
    intro he helper
    rcases hs.joined helper (by simp) with hended | ⟨-, hsome⟩
    · exact hended
    · simp [he] at hsome
  cases hstate : w.shared.state with
  | running =>
    -- The monitor was waited for, so it has reported or broken off.
    have hmonitor := hended (by rw [hstate]; rfl) .monitor
    exact absurd hstate (hw.shared.reported (.inr hmonitor))
  | failed message =>
    have he : w.shared.state.error? = some message := by
      rw [hstate]
      rfl
    exact hw.shared.error?_eq.symm.trans he
  | exited code =>
    have hrest : w.AtRest :=
      ⟨hended (RunState.error?_eq_none_of_exited hstate), hs.no_segment⟩
    have hreports := hw.shared.reports_eq_of_exited hstate
    by_cases hcode : code = 0
    · subst hcode
      exact ⟨⟨hrest.ended, hrest.no_segment⟩, hreports⟩
    · simp only [Reader.outcome, if_neg hcode]
      exact ⟨⟨hrest.ended, hrest.no_segment⟩, hreports, hcode, rfl⟩

/-- A call after the end changes nothing but adds that there is nothing. -/
theorem Recorded.of_callAfterEnd {w : Supervised} (hw : w.Recorded)
    (hidle : w.stage = .idle) (hf : w.reader.finished = true) :
    (w.give (.ok none) w.now true).Recorded := by
  obtain ⟨lines, last, n, hresults, hlines, hlast⟩ := hw.ofClosed (not_isOpen_of_idle hidle hf)
  refine ⟨fun h => absurd h (not_isOpen_give w _ _), fun _ => ⟨lines, last, n + 1, ?_, hlines, ?_⟩⟩
  · simp [give, hresults, List.replicate_succ']
  · match last, hlast with
    | .ok none, ⟨hrest, hreports⟩ => exact ⟨⟨hrest.ended, hrest.no_segment⟩, hreports⟩
    | .error (.processExit _ _), ⟨hrest, hreports⟩ =>
      exact ⟨⟨hrest.ended, hrest.no_segment⟩, hreports⟩
    | .error (.processError _), he => exact he

/-- Every step of the caller keeps the results in agreement with whether the run is
open. -/
theorem Recorded.of_callerStep {w w' : Supervised} (hw : w.Recorded) (hsound : w.Sound)
    (h : CallerStep w w') : w'.Recorded := by
  rcases hsound.silent_or_gives h with hsilent | hgives
  · exact hw.of_open hsilent.before hsilent.results_eq hsilent.after
  cases hgives with
  | nothing hidle hf => exact hw.of_callAfterEnd hidle hf
  | line line o hopen he =>
    have hresults := hw.ofOpen hopen
    refine ⟨fun _ result hmem => ?_, fun hclosed => absurd (.inl rfl) hclosed⟩
    rcases List.mem_append.1 hmem with hmem | hmem
    · exact hresults result hmem
    · exact ⟨line, List.mem_singleton.1 hmem⟩
  | failure message o hopen he =>
    exact hw.of_give hopen (hsound.shared.error?_eq.symm.trans he)
  | outcome before after o hstage =>
    exact hw.of_give (.inr ⟨_, _, _, hstage⟩) (explains_outcome hsound hstage)

/-- In every reachable state the results agree with whether the run is open. -/
theorem Reachable.recorded {segments : List (List UInt8)} {w : Supervised}
    (h : Reachable segments w) : w.Recorded := by
  induction h with
  | refl => exact recorded_start segments
  | tail hreach hstep ih =>
    have hsound := Reachable.sound hreach
    cases hstep with
    | helper s h => exact ih.of_helperStep hsound h
    | caller w' h => exact ih.of_callerStep hsound h

/-! ## The calls as whole calls -/

/-- Two readers that no call tells apart. -/
def Alike (r r' : Reader) : Prop :=
  r = r' ∨ (r.finished = true ∧ r'.finished = true)

/-- The results are those that {lit}`Reader.next` gives for what the calls observed,
and the call under way began where the calls before it came to. -/
structure Replayed (segments : List (List UInt8)) (w : Supervised) : Prop where
  results_eq : Reader.results ⟨segments, false⟩ w.seen = w.results
  idle : w.stage = .idle → Alike (Reader.afterCalls ⟨segments, false⟩ w.seen) w.reader
  called : w.stage ≠ .idle → Reader.afterCalls ⟨segments, false⟩ w.seen = w.entry

variable {segments : List (List UInt8)}

theorem replayed_start (segments : List (List UInt8)) :
    (start segments).Replayed segments :=
  ⟨rfl, fun _ => .inl rfl, fun h => absurd rfl h⟩

/-- A call is replayed when it gives its result. -/
theorem Replayed.of_give {w : Supervised} {r : Reader} {result : LineResult}
    {o : Observation} {finished : Bool} (hw : w.Replayed segments)
    (hr : (Reader.afterCalls ⟨segments, false⟩ w.seen).next o = (result, r))
    (halike : Alike r ⟨w.reader.segments, finished⟩) :
    (w.give result o finished).Replayed segments where
  results_eq := by
    simp only [give]
    rw [Reader.results_concat, hw.results_eq, hr]
  idle _ := by
    simp only [give]
    rw [Reader.afterCalls_concat, hr]
    exact halike
  called h := absurd rfl h

/-- A call under way stays replayed until it gives its result. -/
theorem Replayed.of_called {w w' : Supervised} (hw : w.Replayed segments)
    (hstage : w.stage ≠ .idle) (hseen : w'.seen = w.seen) (hresults : w'.results = w.results)
    (hentry : w'.entry = w.entry) (hstage' : w'.stage ≠ .idle) : w'.Replayed segments where
  results_eq := by rw [hseen, hresults, hw.results_eq]
  idle h := absurd h hstage'
  called _ := by rw [hseen, hentry, hw.called hstage]

/-- Every step of the caller keeps the results to what whole calls give. -/
theorem Replayed.of_callerStep {w w' : Supervised} (hw : w.Replayed segments)
    (hsound : w.Sound) (h : CallerStep w w') : w'.Replayed segments := by
  have hs := hsound.stage
  unfold StageSound at hs
  cases h with
  | callAfterEnd hidle hf =>
    have hend : (Reader.afterCalls ⟨segments, false⟩ w.seen).finished = true := by
      rcases hw.idle hidle with heq | ⟨hend, -⟩
      · rw [heq, hf]
      · exact hend
    exact hw.of_give (Reader.next_of_finished hend _) (.inr ⟨hend, rfl⟩)
  | call hidle hf =>
    refine ⟨hw.results_eq, fun h => by simp at h, fun _ => ?_⟩
    rcases hw.idle hidle with heq | ⟨-, hend⟩
    · exact heq
    · simp [hf] at hend
  | look hstage he => exact hw.of_called (by simp [hstage]) rfl rfl rfl (by simp)
  | lookFails message hstage he =>
    simp only [hstage] at hs
    have hentry := hw.called (by simp [hstage])
    have hnext := Reader.next_of_before (o := w.now) hs.2 he
    exact hw.of_give (hentry ▸ hnext) (.inr ⟨rfl, rfl⟩)
  | readLine before seg rest line hstage hsegs hl =>
    exact hw.of_called (by simp [hstage]) rfl rfl rfl (by simp)
  | readNoise before seg rest hstage hsegs hl =>
    exact hw.of_called (by simp [hstage]) rfl rfl rfl (by simp [hstage])
  | readEnd before hstage hsegs => exact hw.of_called (by simp [hstage]) rfl rfl rfl (by simp)
  | readFails before reason hstage =>
    exact hw.of_called (by simp [hstage]) rfl rfl rfl (by simp)
  | lookAgainFails before line message hstage he =>
    simp only [hstage] at hs
    have hentry := hw.called (by simp [hstage])
    have hnext := Reader.next_of_after (o := { w.now with before := before })
      hs.1.entry_open hs.1.before_ok he
    exact hw.of_give (hentry ▸ hnext) (.inr ⟨rfl, rfl⟩)
  | giveLine before line hstage he =>
    simp only [hstage] at hs
    have hentry := hw.called (by simp [hstage])
    have hline : Reader.nextLine w.entry.segments = (some line, w.reader.segments) := by
      rcases hs.2 with hline | ⟨hnone, -⟩
      · exact hline
      · cases hnone
    have hnext := Reader.next_of_line (o := { w.now with before := before })
      hs.1.entry_open hs.1.before_ok he hline
    exact hw.of_give (hentry ▸ hnext) (.inl rfl)
  | finish before hstage he => exact hw.of_called (by simp [hstage]) rfl rfl rfl (by simp)
  | join before after helper left hstage hp =>
    exact hw.of_called (by simp [hstage]) rfl rfl rfl (by simp)
  | joinBroken before after helper left reason hstage hp =>
    exact hw.of_called (by simp [hstage]) rfl rfl rfl (by simp)
  | conclude before after hstage =>
    simp only [hstage] at hs
    have hentry := hw.called (by simp [hstage])
    have hnext := Reader.next_of_end (o := { w.now with before := before, after := after })
      hs.entry_open hs.before_ok hs.after_ok hs.no_line
    exact hw.of_give (hentry ▸ hnext) (.inr ⟨rfl, rfl⟩)

/-- Whatever the order of the steps, the results are those of whole calls. -/
theorem Reachable.replayed {w : Supervised} (h : Reachable segments w) :
    w.Replayed segments := by
  induction h with
  | refl => exact replayed_start segments
  | tail hreach hstep ih =>
    cases hstep with
    | helper s h => exact ⟨ih.results_eq, ih.idle, ih.called⟩
    | caller w' h => exact ih.of_callerStep (Reachable.sound hreach) h

/-! ## A known error -/

/-- The run after an error became known while it was open: either it is open still
and no call has given anything, or a call has given the error and the calls after it
nothing. -/
structure Failing (message : String) (given : List LineResult) (w : Supervised) : Prop where
  known : w.shared.state.error? = some message
  ofOpen : w.IsOpen → w.results = given
  ofClosed : ¬ w.IsOpen → ∃ n,
    w.results = given ++ .error (.processError message) :: List.replicate n (.ok none)

variable {message : String} {given : List LineResult}

/-- A run that was open when the error became known is failing while it is open. -/
theorem Failing.of_open {w w' : Supervised} (hw : w.Failing message given)
    (hopen : w.IsOpen) (hknown : w'.shared.state.error? = some message)
    (hresults : w'.results = w.results) (hopen' : w'.IsOpen) :
    w'.Failing message given where
  known := hknown
  ofOpen _ := hresults.trans (hw.ofOpen hopen)
  ofClosed hclosed := absurd hopen' hclosed

/-- A failing run is closed by its error. -/
theorem Failing.of_give {w : Supervised} {o : Observation} (hw : w.Failing message given)
    (hopen : w.IsOpen) :
    (w.give (.error (.processError message)) o true).Failing message given where
  known := hw.known
  ofOpen h := absurd h (not_isOpen_give w _ o)
  ofClosed _ := ⟨0, by simp [give, hw.ofOpen hopen]⟩

/-- Every step of the caller keeps a failing run failing. -/
theorem Failing.of_callerStep {w w' : Supervised} (hw : w.Failing message given)
    (hsound : w.Sound) (h : CallerStep w w') : w'.Failing message given := by
  have hknown := hw.known
  rcases hsound.silent_or_gives h with hsilent | hgives
  · exact hw.of_open hsilent.before (hsilent.known hknown) hsilent.results_eq hsilent.after
  cases hgives with
  | nothing hidle hf =>
    obtain ⟨n, hresults⟩ := hw.ofClosed (not_isOpen_of_idle hidle hf)
    refine ⟨hknown, fun h => absurd h (not_isOpen_give w _ _), fun _ => ⟨n + 1, ?_⟩⟩
    simp [give, hresults, List.replicate_succ']
  | line line o hopen he => simp [hknown] at he
  | failure message' o hopen he =>
    cases hknown.symm.trans he
    exact hw.of_give hopen
  | outcome before after o hstage =>
    rw [RunState.eq_failed_of_error? hknown]
    exact hw.of_give (.inr ⟨_, _, _, hstage⟩)

/-- A failing run stays failing however it goes on. -/
theorem Failing.of_steps {w w' : Supervised} (hw : w.Failing message given)
    (hsound : w.Sound) (h : Relation.ReflTransGen Step w w') : w'.Failing message given := by
  suffices w'.Failing message given ∧ w'.Sound from this.1
  induction h with
  | refl => exact ⟨hw, hsound⟩
  | tail _ hstep ih =>
    refine ⟨?_, ih.2.of_step hstep⟩
    cases hstep with
    | helper s h => exact ⟨h.error?_of_some ih.1.known, ih.1.ofOpen, ih.1.ofClosed⟩
    | caller w' h => exact ih.1.of_callerStep ih.2 h

/-- A call that has read its line comes to the known error by itself, whatever it
read. -/
theorem exists_failure_of_lookingAgain {w : Supervised} {before : RunState}
    {line : Option String} (hstage : w.stage = .lookingAgain before line)
    (he : w.shared.state.error? = some message) :
    ∃ w', Relation.ReflTransGen CallerStep w w' ∧
      w'.results = w.results ++ [.error (.processError message)] :=
  ⟨_, .single (.lookAgainFails w before line message hstage he), rfl⟩

/-- A call that is reading comes to the known error by itself, however much is left
to read. -/
theorem exists_failure_of_reading {segs : List (List UInt8)} {w : Supervised}
    {before : RunState} (hsegs : w.reader.segments = segs) (hstage : w.stage = .reading before)
    (he : w.shared.state.error? = some message) :
    ∃ w', Relation.ReflTransGen CallerStep w w' ∧
      w'.results = w.results ++ [.error (.processError message)] := by
  induction segs generalizing w with
  | nil =>
    obtain ⟨w', hsteps, hresults⟩ := exists_failure_of_lookingAgain
      (w := { w with stage := .lookingAgain before none }) rfl he
    exact ⟨w', .head (.readEnd w before hstage hsegs) hsteps, hresults⟩
  | cons seg rest ih =>
    cases hline : Text.line? seg with
    | none =>
      obtain ⟨w', hsteps, hresults⟩ :=
        ih (w := { w with reader := ⟨rest, w.reader.finished⟩ }) rfl hstage he
      exact ⟨w', .head (.readNoise w before seg rest hstage hsegs hline) hsteps, hresults⟩
    | some line =>
      obtain ⟨w', hsteps, hresults⟩ := exists_failure_of_lookingAgain
        (w := { w with
          reader := ⟨rest, w.reader.finished⟩, stage := .lookingAgain before (some line) })
        rfl he
      exact ⟨w', .head (.readLine w before seg rest line hstage hsegs hline) hsteps, hresults⟩

/-- Unless the caller waits for the helpers, it comes to the known error by
itself. -/
theorem Sound.exists_failure {w : Supervised} (hw : w.Sound)
    (he : w.shared.state.error? = some message) (hopen : w.reader.finished = false) :
    ∃ w', Relation.ReflTransGen CallerStep w w' ∧
      w'.results = w.results ++ [.error (.processError message)] := by
  cases hstage : w.stage with
  | idle =>
    refine ⟨_, .tail (.single (.call w hstage hopen)) (.lookFails _ message rfl he), rfl⟩
  | entered => exact ⟨_, .single (.lookFails w message hstage he), rfl⟩
  | reading before => exact exists_failure_of_reading rfl hstage he
  | lookingAgain before line => exact exists_failure_of_lookingAgain hstage he
  | joining before after left =>
    have hs := hw.stage
    simp only [StageSound, hstage] at hs
    have hdone : w.reader.finished = true := hs.reader_done
    simp [hopen] at hdone

/-! ## The protocol -/

/-- The protocol of a supervised run, for every output and every order of the steps.
The results are those of whole calls; they are lines of the output in their order,
then at most one result that says how the run ended, then nothing.  Once an error is
known the run gives no more lines: the first error that was reported is the next
result, and unless the caller waits for the helpers it comes to it by itself. -/
theorem Reachable.protocol {w : Supervised} (h : Reachable segments w) :
    Reader.results ⟨segments, false⟩ w.seen = w.results ∧
    Reader.linesOf w.results <+: segments.filterMap Text.line? ∧
    (w.IsOpen ∧ w.OpenResults ∨ ¬ w.IsOpen ∧ w.ClosedResults) ∧
    ∀ message, Report.firstError? w.shared.reports = some message → w.IsOpen →
      (∀ w', Relation.ReflTransGen Step w w' → w'.results = w.results ∨
        ∃ n, w'.results =
          w.results ++ .error (.processError message) :: List.replicate n (.ok none)) ∧
      (w.reader.finished = false → ∃ w', Relation.ReflTransGen CallerStep w w' ∧
        w'.results = w.results ++ [.error (.processError message)]) := by
  have hresults := h.replayed.results_eq
  refine ⟨hresults, ?_, ?_, ?_⟩
  · rw [← hresults]
    exact Reader.linesOf_results_prefix _ _
  · by_cases hopen : w.IsOpen
    · exact .inl ⟨hopen, h.recorded.ofOpen hopen⟩
    · exact .inr ⟨hopen, h.recorded.ofClosed hopen⟩
  · intro message hfirst hopen
    have hknown : w.shared.state.error? = some message :=
      h.sound.shared.error?_eq.trans hfirst
    have hfailing : w.Failing message w.results :=
      ⟨hknown, fun _ => rfl, fun hclosed => absurd hopen hclosed⟩
    refine ⟨fun w' hsteps => ?_, h.sound.exists_failure hknown⟩
    have hfailing' := hfailing.of_steps h.sound hsteps
    by_cases hopen' : w'.IsOpen
    · exact .inl (hfailing'.ofOpen hopen')
    · exact .inr (hfailing'.ofClosed hopen')

/-- After the first of two lines the prompt cannot be written.  The second line, which
has been read already, is not given. -/
theorem protocol_of_failed_feeding : ∃ w,
    Reachable [[111, 110, 101], [116, 119, 111]] w ∧ w.reader.segments = [] ∧
      w.results = [.ok (some "one")] ∧
      ∃ w', Relation.ReflTransGen CallerStep w w' ∧ w'.results = [.ok (some "one"),
        .error (.processError "Failed to write prompt to stdin: No space left on device")] := by
  have hone : Text.line? [111, 110, 101] = some "one" := by cbv
  have htwo : Text.line? [116, 119, 111] = some "two" := by cbv
  have hrun := Relation.ReflTransGen.refl (r := Step)
    (a := start [[111, 110, 101], [116, 119, 111]])
    |>.tail (.caller _ _ (.call _ rfl rfl))
    |>.tail (.caller _ _ (.look _ rfl rfl))
    |>.tail (.caller _ _ (.readLine _ _ _ _ _ rfl rfl hone))
    |>.tail (.caller _ _ (.giveLine _ _ _ rfl rfl))
    |>.tail (.caller _ _ (.call _ rfl rfl))
    |>.tail (.caller _ _ (.look _ rfl rfl))
    |>.tail (.caller _ _ (.readLine _ _ _ _ _ rfl rfl htwo))
    |>.tail (.helper _ _ (.feedingFails _ "No space left on device" rfl))
  obtain ⟨-, -, -, hfailing⟩ := Reachable.protocol hrun
  obtain ⟨-, hfailure⟩ := hfailing _ rfl (.inl rfl)
  exact ⟨_, hrun, rfl, rfl, hfailure rfl⟩

end Supervised
end AgentRelay
