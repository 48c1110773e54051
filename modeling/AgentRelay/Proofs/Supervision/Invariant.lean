import AgentRelay.Tool.Supervision
import Mathlib

/-!
# The invariant of supervised runs

The steps of a supervised run come in any order.  What they all keep is said once
here: the run state is what the reports come to, the monitor reports one exit or
error before it ends, and the call under way has seen what its stage says it has.

Main definitions:

- {lit}`Shared.Consistent`: the invariant of what is shared.
- {lit}`Supervised.Sound`: the invariant of a supervised run.
- {lit}`Supervised.Reachable`: the runs that are supervised over a given output.

Main results:

- {lit}`Supervised.Sound.of_step`: every step keeps the invariant.
- {lit}`Supervised.Reachable.sound`: the invariant holds in every reachable state.
-/

namespace AgentRelay

/-! ## What is shared -/

/-- Invariant of what is shared.  The state is what the reports come to, an exit is
reported only by the monitor and only once, and a monitor that has done its work has
reported. -/
structure Shared.Consistent (s : Shared) : Prop where
  state_eq : s.state = RunState.ofReports s.reports
  no_exit : s.progress .monitor = .working → Report.exits s.reports = []
  one_exit : (Report.exits s.reports).length ≤ 1
  reported : s.progress .monitor = .settled ∨ s.progress .monitor = .ended →
    s.state ≠ .running

/-- A helper that will not do anything any more. -/
def Progress.Over (p : Progress) : Prop :=
  p = .ended ∨ ∃ reason, p = .broken reason

namespace Shared

theorem consistent_initial : Consistent {} where
  state_eq := rfl
  no_exit _ := rfl
  one_exit := by decide
  reported h := by simp at h

variable {s : Shared}

/-- The error of the run is the first that was reported. -/
theorem Consistent.error?_eq (h : s.Consistent) :
    s.state.error? = Report.firstError? s.reports := by
  rw [h.state_eq, RunState.error?_ofReports]

/-- A run that exited had its exit reported, and nothing else. -/
theorem Consistent.reports_eq_of_exited (h : s.Consistent) {code : Int}
    (hs : s.state = .exited code) : s.reports = [.exit code] := by
  have hnone : Report.firstError? s.reports = none := by
    rw [← h.error?_eq, hs]
    rfl
  have hlength : s.reports.length ≤ 1 := by
    rw [← Report.length_exits_of_firstError?_eq_none hnone]
    exact h.one_exit
  have hstate : RunState.ofReports s.reports = .exited code := by
    rw [← h.state_eq, hs]
  match hreports : s.reports, hlength with
  | [], _ => simp [hreports, RunState.ofReports] at hstate
  | [.error message], _ => simp [hreports] at hnone
  | [.exit code'], _ =>
    rw [hreports] at hstate
    cases hstate
    rfl

/-- Reporting an error keeps the invariant. -/
theorem Consistent.report_error (h : s.Consistent) (message : String) :
    (s.report (.error message)).Consistent where
  state_eq := by
    rw [report_state, report_reports, RunState.ofReports_concat, h.state_eq]
  no_exit hp := by
    rw [report_reports, Report.exits_concat_error]
    exact h.no_exit hp
  one_exit := by
    rw [report_reports, Report.exits_concat_error]
    exact h.one_exit
  reported _ := report_ne_running s _

/-- A step of the monitor that reports keeps the invariant. -/
theorem Consistent.monitor_settled (h : s.Consistent) (hp : s.progress .monitor = .working)
    (r : Report) : ((s.report r).advance .monitor .settled).Consistent where
  state_eq := by
    rw [advance_state, advance_reports, report_state, report_reports,
      RunState.ofReports_concat, h.state_eq]
  no_exit hw := by simp at hw
  one_exit := by
    have hnone : Report.exits s.reports = [] := h.no_exit hp
    cases r <;> simp [hnone]
  reported _ := report_ne_running s r

/-- Another helper may get on as it likes. -/
theorem Consistent.advance_of_ne (h : s.Consistent) {helper : Helper}
    (hne : helper ≠ .monitor) (p : Progress) : (s.advance helper p).Consistent where
  state_eq := h.state_eq
  no_exit hp := h.no_exit (by rwa [advance_progress_of_ne s (Ne.symm hne)] at hp)
  one_exit := h.one_exit
  reported hp := h.reported (by rwa [advance_progress_of_ne s (Ne.symm hne)] at hp)

/-- The monitor may break off. -/
theorem Consistent.monitor_broken (h : s.Consistent) (reason : String) :
    (s.advance .monitor (.broken reason)).Consistent where
  state_eq := h.state_eq
  no_exit hp := by simp at hp
  one_exit := h.one_exit
  reported hp := by simp at hp

/-- A monitor that has reported may end. -/
theorem Consistent.monitor_ended (h : s.Consistent) (hp : s.progress .monitor = .settled) :
    (s.advance .monitor .ended).Consistent where
  state_eq := h.state_eq
  no_exit hp' := by simp at hp'
  one_exit := h.one_exit
  reported _ := h.reported (.inl hp)

end Shared

namespace HelperStep

variable {s s' : Shared}

/-- Every step of a helper keeps the invariant. -/
theorem consistent (h : HelperStep s s') (hs : s.Consistent) : s'.Consistent := by
  cases h with
  | feedingFails reason hp => exact (hs.report_error _).advance_of_ne (by decide) _
  | exits code hp => exact hs.monitor_settled hp _
  | waitingFails reason hp => exact hs.monitor_settled hp _
  | collects text hp => exact ⟨hs.state_eq, hs.no_exit, hs.one_exit, hs.reported⟩
  | ends helper hp =>
    by_cases hm : helper = .monitor
    · subst hm
      rcases hp with hp | ⟨-, hne⟩
      · exact hs.monitor_ended hp
      · exact absurd rfl hne
    · exact hs.advance_of_ne hm _
  | breaksOff helper reason hp =>
    by_cases hm : helper = .monitor
    · subst hm
      exact hs.monitor_broken reason
    · exact hs.advance_of_ne hm _

/-- A known error stays known. -/
theorem error?_of_some {message : String} (h : HelperStep s s')
    (he : s.state.error? = some message) : s'.state.error? = some message := by
  cases h with
  | feedingFails reason hp =>
    rw [Shared.advance_state]
    exact Shared.error?_report_of_some he _
  | exits code hp =>
    rw [Shared.advance_state]
    exact Shared.error?_report_of_some he _
  | waitingFails reason hp =>
    rw [Shared.advance_state]
    exact Shared.error?_report_of_some he _
  | collects text hp => exact he
  | ends helper hp => exact he
  | breaksOff helper reason hp => exact he

/-- A helper that is over stays as it is. -/
theorem progress_of_over {helper : Helper} (h : HelperStep s s')
    (ho : (s.progress helper).Over) : s'.progress helper = s.progress helper := by
  have hne : ∀ other, s.progress other = .working ∨ s.progress other = .settled →
      helper ≠ other := by
    rintro other hp rfl
    rcases ho with ho | ⟨reason, ho⟩ <;> rw [ho] at hp <;> simp at hp
  cases h with
  | feedingFails reason hp => exact Shared.advance_progress_of_ne _ (hne _ (.inl hp)) _
  | exits code hp => exact Shared.advance_progress_of_ne _ (hne _ (.inl hp)) _
  | waitingFails reason hp => exact Shared.advance_progress_of_ne _ (hne _ (.inl hp)) _
  | collects text hp => rfl
  | ends other hp =>
    exact Shared.advance_progress_of_ne _ (hne _ (hp.elim .inr fun h => .inl h.1)) _
  | breaksOff other reason hp => exact Shared.advance_progress_of_ne _ (hne _ hp) _

/-- Once every helper has ended none does anything. -/
theorem not_of_ended (h : HelperStep s s') (he : ∀ helper, s.progress helper = .ended) :
    False := by
  cases h with
  | feedingFails reason hp => simp [he] at hp
  | exits code hp => simp [he] at hp
  | waitingFails reason hp => simp [he] at hp
  | collects text hp => simp [he] at hp
  | ends helper hp => simp [Shared.MayEnd, he] at hp
  | breaksOff helper reason hp => simp [he] at hp

end HelperStep

/-! ## The call under way -/

namespace Supervised

/-- Between its two looks a call has seen no error, and the run is still open. -/
structure Looked (w : Supervised) (before : RunState) : Prop where
  entry_open : w.entry.finished = false
  reader_open : w.reader.finished = false
  before_ok : before.error? = none

/-- A helper that the caller has waited for: it has ended, or it broke off and that
was reported. -/
def Joined (s : Shared) (helper : Helper) : Prop :=
  s.progress helper = .ended ∨
    ((∃ reason, s.progress helper = .broken reason) ∧ s.state.error?.isSome = true)

/-- What holds of a call that has reached the end of the output. -/
structure AtEnd (w : Supervised) (before after : RunState) (left : List Helper) : Prop where
  entry_open : w.entry.finished = false
  reader_done : w.reader.finished = true
  before_ok : before.error? = none
  after_ok : after.error? = none
  no_line : Reader.nextLine w.entry.segments = (none, [])
  no_segment : w.reader.segments = []
  joined : ∀ helper, helper ∉ left → Joined w.shared helper

/-- What holds of the call under way, at each of its stages. -/
def StageSound (w : Supervised) : Prop :=
  match w.stage with
  | .idle => True
  | .entered => w.reader = w.entry ∧ w.entry.finished = false
  | .reading before =>
    w.Looked before ∧ Reader.nextLine w.entry.segments = Reader.nextLine w.reader.segments
  | .lookingAgain before line =>
    w.Looked before ∧
      (Reader.nextLine w.entry.segments = (line, w.reader.segments) ∨
        line = none ∧ w.shared.state.error?.isSome = true)
  | .joining before after left => w.AtEnd before after left

/-- Invariant of a supervised run: what is shared is consistent, and the call under
way is as its stage says. -/
structure Sound (w : Supervised) : Prop where
  shared : w.shared.Consistent
  stage : w.StageSound

theorem sound_start (segments : List (List UInt8)) : (start segments).Sound :=
  ⟨Shared.consistent_initial, trivial⟩

/-- A helper that was waited for stays so. -/
theorem Joined.of_helperStep {s s' : Shared} {helper : Helper} (hj : Joined s helper)
    (h : HelperStep s s') : Joined s' helper := by
  rcases hj with hended | ⟨⟨reason, hbroken⟩, he⟩
  · exact .inl (by rw [h.progress_of_over (.inl hended), hended])
  · refine .inr ⟨⟨reason, ?_⟩, ?_⟩
    · rw [h.progress_of_over (.inr ⟨reason, hbroken⟩), hbroken]
    · obtain ⟨message, hm⟩ := Option.isSome_iff_exists.1 he
      simp [h.error?_of_some hm]

/-- The helpers do not disturb the call under way. -/
theorem StageSound.of_helperStep {w : Supervised} {s : Shared} (hw : w.StageSound)
    (h : HelperStep w.shared s) : StageSound { w with shared := s } := by
  unfold StageSound at hw ⊢
  cases hstage : w.stage with
  | idle => trivial
  | entered => simpa [hstage] using hw
  | reading before =>
    simp only [hstage] at hw ⊢
    exact ⟨⟨hw.1.entry_open, hw.1.reader_open, hw.1.before_ok⟩, hw.2⟩
  | lookingAgain before line =>
    simp only [hstage] at hw ⊢
    refine ⟨⟨hw.1.entry_open, hw.1.reader_open, hw.1.before_ok⟩, hw.2.imp_right ?_⟩
    rintro ⟨hline, he⟩
    obtain ⟨message, hm⟩ := Option.isSome_iff_exists.1 he
    exact ⟨hline, by simp [h.error?_of_some hm]⟩
  | joining before after left =>
    simp only [hstage] at hw ⊢
    exact { hw with joined := fun helper hl => (hw.joined helper hl).of_helperStep h }

/-- Every step of the caller keeps the invariant. -/
theorem Sound.of_callerStep {w w' : Supervised} (hw : w.Sound) (h : CallerStep w w') :
    w'.Sound := by
  have hs := hw.stage
  unfold StageSound at hs
  cases h with
  | callAfterEnd hidle hf => exact ⟨hw.shared, trivial⟩
  | call hidle hf => exact ⟨hw.shared, rfl, hf⟩
  | look hentered he =>
    simp only [hentered] at hs
    have hopen : w.reader.finished = false := hs.1 ▸ hs.2
    exact ⟨hw.shared, ⟨hs.2, hopen, he⟩, by rw [hs.1]⟩
  | lookFails message hentered he => exact ⟨hw.shared, trivial⟩
  | readLine before seg rest line hreading hsegs hl =>
    simp only [hreading] at hs
    refine ⟨hw.shared, ⟨hs.1.entry_open, hs.1.reader_open, hs.1.before_ok⟩, .inl ?_⟩
    rw [hs.2, hsegs, Reader.nextLine_cons_of_line?_eq_some hl]
  | readNoise before seg rest hreading hsegs hl =>
    simp only [hreading] at hs
    refine ⟨hw.shared, ?_⟩
    simp only [StageSound, hreading]
    refine ⟨⟨hs.1.entry_open, hs.1.reader_open, hs.1.before_ok⟩, ?_⟩
    rw [hs.2, hsegs, Reader.nextLine_cons_of_line?_eq_none hl]
  | readEnd before hreading hsegs =>
    simp only [hreading] at hs
    refine ⟨hw.shared, ⟨hs.1.entry_open, hs.1.reader_open, hs.1.before_ok⟩, .inl ?_⟩
    rw [hs.2, hsegs, Reader.nextLine_nil]
  | readFails before reason hreading =>
    simp only [hreading] at hs
    refine ⟨hw.shared.report_error _, ⟨hs.1.entry_open, hs.1.reader_open, hs.1.before_ok⟩,
      .inr ⟨rfl, ?_⟩⟩
    exact RunState.error?_withError_isSome _ _
  | lookAgainFails before line message hagain he => exact ⟨hw.shared, trivial⟩
  | giveLine before line hagain he => exact ⟨hw.shared, trivial⟩
  | finish before hagain he =>
    simp only [hagain] at hs
    have hline : Reader.nextLine w.entry.segments = (none, w.reader.segments) := by
      rcases hs.2 with hline | ⟨-, hsome⟩
      · exact hline
      · simp [he] at hsome
    have hnil : w.reader.segments = [] := Reader.eq_nil_of_nextLine_none hline
    refine ⟨hw.shared, hs.1.entry_open, rfl, hs.1.before_ok, he, ?_, hnil, ?_⟩
    · rw [hline, hnil]
    · intro helper hl
      cases helper <;> simp [joinOrder] at hl
  | join before after helper left hjoining hp =>
    simp only [hjoining] at hs
    refine ⟨hw.shared, { hs with joined := ?_ }⟩
    intro other hl
    by_cases ho : other = helper
    · subst ho
      exact .inl hp
    · exact hs.joined other (by simp [ho, hl])
  | joinBroken before after helper left reason hjoining hp =>
    simp only [hjoining] at hs
    refine ⟨hw.shared.report_error _, { hs with joined := ?_ }⟩
    have hsome : (w.shared.report (helperFailure reason)).state.error?.isSome = true :=
      RunState.error?_withError_isSome _ _
    intro other hl
    by_cases ho : other = helper
    · subst ho
      exact .inr ⟨⟨reason, hp⟩, hsome⟩
    · rcases hs.joined other (by simp [ho, hl]) with hended | ⟨hbroken, -⟩
      · exact .inl hended
      · exact .inr ⟨hbroken, hsome⟩
  | conclude before after hjoining => exact ⟨hw.shared, trivial⟩

/-- Every step keeps the invariant. -/
theorem Sound.of_step {w w' : Supervised} (hw : w.Sound) (h : w.Step w') : w'.Sound := by
  cases h with
  | helper s h => exact ⟨h.consistent hw.shared, hw.stage.of_helperStep h⟩
  | caller w' h => exact hw.of_callerStep h

/-- The runs that are supervised over a given output. -/
def Reachable (segments : List (List UInt8)) (w : Supervised) : Prop :=
  Relation.ReflTransGen Step (start segments) w

/-- The invariant holds in every reachable state. -/
theorem Reachable.sound {segments : List (List UInt8)} {w : Supervised}
    (h : Reachable segments w) : w.Sound := by
  induction h with
  | refl => exact sound_start segments
  | tail _ hstep ih => exact ih.of_step hstep

end Supervised
end AgentRelay
