import AgentRelay.Proofs.ExitCodes
import AgentRelay.Proofs.Pieces
import AgentRelay.Proofs.ShownTexts
import AgentRelay.Proofs.Stream

/-!
# Answers in plain text

Without JSON an answer is shown as the text that it is.  The output is the pieces of text put
together, and a line break behind them, whether or not an error ends the answer; nothing else of an
answer can be found there.  The diagnostics are the pieces of reasoning, if they are wanted, and one
closing entry: the report of the error, or else a line for the last usage that was reported, or
else nothing.

What has been shown when some chunks have come does not depend on what comes later, so that every
chunk is shown as it comes, and only the end has to wait.

Main definitions:

- {lit}`asides`: what chunks add to the diagnostics.
- {lit}`lastUsage?`: the last usage that chunks report.
- {lit}`itemsOf`: the items of an answer with given chunks and a given error.
- {lit}`ShownAsText`: a screen shows an answer in plain text.
- {lit}`Interspersed`: chunks with others between them that hold no text.

Main results:

- Theorem {lit}`streamScreen_append`: what chunks show, whatever comes after them.
- Theorem {lit}`answers_in_text`: what is shown of an answer in plain text.
-/

namespace AgentRelay

/-! ## What chunks show -/

/-- The reasoning of a chunk that is some. -/
def Chunk.reasoning? : Chunk → Option String
  | .reasoning piece => some piece
  | _ => none

/-- The usage that a chunk reports. -/
def Chunk.usage? : Chunk → Option UsageSummary
  | .usage summary => some summary
  | _ => none

/-- What chunks add to the diagnostics in plain text: their reasoning, when that is wanted. -/
def asides (showReasoning : Bool) (chunks : List Chunk) : String :=
  if showReasoning then String.join (chunks.filterMap Chunk.reasoning?) else ""

/-- The last usage that chunks report. -/
def lastUsage? (chunks : List Chunk) : Option UsageSummary :=
  (chunks.filterMap Chunk.usage?).getLast?

/-- The items of an answer: its chunks, and the error that ends it, if one does. -/
def itemsOf (chunks : List Chunk) (failure : Option ToolError) : List Item :=
  chunks.map .ok ++ failure.toList.map .error

/-- The chunks and the error of an answer are known from its items. -/
theorem itemsOf_inj {chunks chunks' : List Chunk} {failure failure' : Option ToolError}
    (h : itemsOf chunks failure = itemsOf chunks' failure') :
    chunks = chunks' ∧ failure = failure' := by
  have hchunks : chunks = chunks' := by
    simpa [itemsOf, Except.toOption, List.filterMap_map, Function.comp_def] using
      congrArg (List.filterMap Except.toOption) h
  have hinjective : Function.Injective (Except.error : ToolError → Item) :=
    fun _ _ => Except.error.inj
  rw [hchunks, itemsOf, itemsOf, List.append_cancel_left_eq] at h
  have hfailure := List.map_injective_iff.2 hinjective h
  exact ⟨hchunks, by simpa using congrArg List.head? hfailure⟩

/-- Pieces that may be missing are put together as those that are there. -/
theorem join_map_getD (piece? : α → Option String) (as : List α) :
    String.join (as.map fun a => (piece? a).getD "") = String.join (as.filterMap piece?) := by
  induction as with
  | nil => rfl
  | cons a as ih =>
    rw [List.map_cons, String.join_cons, ih, List.filterMap_cons]
    cases piece? a with
    | none => rw [Option.getD_none, String.empty_append]
    | some piece => rw [Option.getD_some, String.join_cons]

/-- In plain text chunks add their pieces of text to the output. -/
theorem join_shown_text (chunks : List Chunk) :
    String.join (chunks.map (Chunk.shown false)) = String.join (chunks.filterMap Chunk.text?) := by
  have hshown : Chunk.shown false = fun c => c.text?.getD "" := by
    funext c
    cases c <;> rfl
  rw [hshown, join_map_getD]

/-- In plain text chunks add their reasoning to the diagnostics, when that is wanted. -/
theorem join_aside_text (showReasoning : Bool) (chunks : List Chunk) :
    String.join (chunks.map (Chunk.aside false showReasoning)) = asides showReasoning chunks := by
  cases showReasoning with
  | true =>
    have haside : Chunk.aside false true = fun c => c.reasoning?.getD "" := by
      funext c
      cases c <;> rfl
    rw [haside, join_map_getD, asides, if_pos rfl]
  | false =>
    have haside : Chunk.aside false false = fun _ => (none : Option String).getD "" := by
      funext c
      cases c <;> rfl
    rw [haside, join_map_getD (fun _ => none), List.filterMap_none]
    rfl

/-- The usage that is known after chunks is the last that they report, or else the one known
before. -/
theorem foldl_usageAfter (chunks : List Chunk) (usage : Option UsageSummary) :
    chunks.foldl Chunk.usageAfter usage = (lastUsage? chunks).or usage := by
  induction chunks using List.reverseRecOn with
  | nil => rfl
  | append_singleton chunks c ih =>
    rw [List.foldl_append, ih, lastUsage?, lastUsage?, List.filterMap_append,
      List.getLast?_append]
    cases c <;> rfl

/-- Chunks show what they add, each in its turn, and what is shown of the rest depends on them
only through the usage that they report. -/
theorem streamScreen_append (json showReasoning : Bool) (usage : Option UsageSummary)
    (chunks : List Chunk) (rest : List Item) :
    let later := streamScreen json showReasoning (chunks.foldl Chunk.usageAfter usage) rest
    streamScreen json showReasoning usage (chunks.map .ok ++ rest) =
      ⟨String.join (chunks.map (Chunk.shown json)) ++ later.stdout,
        String.join (chunks.map (Chunk.aside json showReasoning)) ++ later.stderr,
        later.code⟩ := by
  -- The usage is all that a chunk leaves behind for those after it.
  induction chunks generalizing usage with
  | nil => simp
  | cons c chunks ih =>
    intro later
    rw [List.map_cons, List.cons_append, streamScreen, ih]
    simp only [List.map_cons, String.join_cons, String.append_assoc]
    rfl

/-! ## Answers -/

/-- A screen shows an answer in plain text: in the output its pieces of text and a line break; in
the diagnostics its reasoning, when that is wanted, and behind it the report of the error that
ended the answer, or else one line that sums up the last usage, or else nothing. -/
structure ShownAsText (showReasoning : Bool) (chunks : List Chunk) (failure : Option ToolError)
    (screen : Screen) : Prop where
  stdout : screen.stdout = String.join (chunks.filterMap Chunk.text?) ++ "\n"
  failed : ∀ e, failure = some e →
    screen.stderr = asides showReasoning chunks ++ errorReport e ∧ ReportsError e (errorReport e)
  summed : failure = none → ∀ u, lastUsage? chunks = some u →
    screen.stderr = asides showReasoning chunks ++ usageLine u ++ "\n" ∧
      SumsUp u (usageLine u) ∧ '\n' ∉ (usageLine u).toList
  unsummed : failure = none → lastUsage? chunks = none →
    screen.stderr = asides showReasoning chunks

/-- Every answer is shown so. -/
theorem shownAsText_streamScreen (showReasoning : Bool) (chunks : List Chunk)
    (failure : Option ToolError) :
    ShownAsText showReasoning chunks failure
      (streamScreen false showReasoning none (itemsOf chunks failure)) := by
  have hscreen := streamScreen_append false showReasoning none chunks
    (failure.toList.map .error)
  rw [foldl_usageAfter, Option.or_none, join_shown_text, join_aside_text] at hscreen
  rw [itemsOf, hscreen]
  constructor
  · cases failure <;> rfl
  · rintro e rfl
    exact ⟨rfl, reportsError_errorReport e⟩
  · rintro rfl u hu
    rw [hu, String.append_assoc]
    exact ⟨rfl, sumsUp_usageLine u, newline_notMem_usageLine u⟩
  · rintro rfl hnone
    rw [hnone]
    exact String.append_empty

/-- Chunks with others between them that hold no text. -/
inductive Interspersed : List Chunk → List Chunk → Prop where
  | nil : Interspersed [] []
  | keep {chunks chunks' : List Chunk} (c : Chunk) (h : Interspersed chunks chunks') :
      Interspersed (c :: chunks) (c :: chunks')
  | insert {chunks chunks' : List Chunk} (c : Chunk) (hc : c.text? = none)
      (h : Interspersed chunks chunks') : Interspersed chunks (c :: chunks')

/-- Chunks that hold no text add no piece to the others. -/
theorem Interspersed.texts_eq {chunks chunks' : List Chunk} (h : Interspersed chunks chunks') :
    chunks'.filterMap Chunk.text? = chunks.filterMap Chunk.text? := by
  induction h with
  | nil => rfl
  | keep c _ ih => rw [List.filterMap_cons, List.filterMap_cons, ih]
  | insert c hc _ ih => rw [List.filterMap_cons, hc, ih]

/-- Answers in plain text.  Whatever chunks an answer has and whether or not an error ends it, the
output is its pieces of text and a line break, and nothing else.  The diagnostics are its reasoning,
when that is wanted, and then the report of the error, with its text and the advice that goes with
it, or else, if a usage was reported, one line with the counts and the price of the last one.
Chunks between the others that hold no text change nothing in the output, however the answers end.
This is what a whole command line shows that streams an answer in plain text, of the chunks and the
error that its session gives, when its log is off; only what the tool itself wrote on the shared
output stands before it. -/
theorem answers_in_text :
    (∀ (showReasoning : Bool) (chunks : List Chunk) (failure : Option ToolError),
      ShownAsText showReasoning chunks failure
        (streamScreen false showReasoning none (itemsOf chunks failure))) ∧
    (∀ (showReasoning showReasoning' : Bool) (chunks chunks' : List Chunk)
      (failure failure' : Option ToolError), Interspersed chunks chunks' →
      (streamScreen false showReasoning' none (itemsOf chunks' failure')).stdout =
        (streamScreen false showReasoning none (itemsOf chunks failure)).stdout) ∧
    (∀ (args : List String) (line : CommandLine) (w : World) (s : Settings)
      (options : StreamOptions) (prompt : String),
      CommandLine.parse args = .ok line → line.load w.surroundings = .ok s →
      line.command = .stream options → options.json = false →
      options.prompt? w.stdin = some prompt → (Text.nonBlank? prompt).isSome = true →
      ∃ (chunks : List Chunk) (failure : Option ToolError) (answer : Screen) (runs : List Run),
        (Session.ofSettings s w.catalog).streamAlong w.course w.tool (options.system.getD "")
            [⟨.user, .text prompt⟩] [] = (itemsOf chunks failure, runs) ∧
        ShownAsText options.showReasoning chunks failure answer ∧
        execute args w = (answer.after runs, runs)) := by
  refine ⟨shownAsText_streamScreen, ?_, ?_⟩
  · intro showReasoning showReasoning' chunks chunks' failure failure' h
    rw [(shownAsText_streamScreen showReasoning' chunks' failure').stdout,
      (shownAsText_streamScreen showReasoning chunks failure).stdout, h.texts_eq]
  · intro args line w s options prompt hparse hload hcommand hjson hprompt hnonblank
    rcases hstream : (Session.ofSettings s w.catalog).streamAlong w.course w.tool
      (options.system.getD "") [⟨.user, .text prompt⟩] [] with ⟨items, runs⟩
    obtain ⟨chunks, failure, hitems⟩ := (Session.ofSettings s w.catalog).streamAlong_shape
      w.course w.tool (options.system.getD "") [⟨.user, .text prompt⟩] []
    have hitems' : items = itemsOf chunks failure := by
      rwa [hstream] at hitems
    subst hitems'
    refine ⟨chunks, failure, _, runs, rfl,
      shownAsText_streamScreen options.showReasoning chunks failure, ?_⟩
    rw [execute_of_accepted hparse hload, hcommand,
      execute_stream_of_prompt hprompt hnonblank hstream, hjson]

/-- A text, some reasoning and an exit with code seven: the text and the line break are on the
output, and the reasoning and the report of the exit in the diagnostics.  A successful answer with
the same text between reasoning and a usage has the same output, and its diagnostics end in the
counts and the price of the usage. -/
theorem answers_in_text_of_failing_run :
    let output : Output :=
      ⟨Text.Utf8.encode ("\x7b\"text\":\"a\"\x7d\n" ++
        "\x7b\"item\":\x7b\"type\":\"reasoning\",\"text\":\"r\"\x7d\x7d\n"), [], .exited 7⟩
    let w : World :=
      { surroundings := ⟨.empty, fun _ => .missing, none⟩
        canLaunch := fun _ => true
        stdin := []
        tool := fun _ _ => .ran output }
    let args :=
      ["--home", "h", "--auth-mode", "api-key", "-p", "p", "--show-reasoning"]
    let usage : UsageSummary := ⟨1, 2, none, some 3, none, 0.5⟩
    let answer := streamScreen false true none
      (itemsOf [.reasoning "r", .text "a", .usage usage] none)
    (execute args w).1.stdout = "a\n" ∧
      (execute args w).1.stderr = "rerror: Codex CLI process exited with code 7\n" ∧
      answer.stdout = (execute args w).1.stdout ∧
      ∃ amount, Decimal.ShowsAmount 6 0.5 amount ∧
        answer.stderr = "rtokens: 1 in, 2 out, 3 cached | cost $" ++ amount ++ "\n" := by
  intro output w args usage answer
  obtain ⟨hshows, hinsert, hexecute⟩ := answers_in_text
  let options : StreamOptions := ⟨some "p", none, false, true⟩
  let line : CommandLine := ⟨{ home := some "h", authMode := some .apiKey }, .stream options⟩
  let s : Settings := { authMode := .apiKey }
  let e : ToolError := .processExit 7 ""
  have hparse : CommandLine.parse args = .ok line := by cbv
  have hload : line.load w.surroundings = .ok s :=
    CommandLine.load_of_nothing rfl (fun _ => rfl) rfl
  obtain ⟨chunks, failure, shown, runs, hstream, hshown, hexecuted⟩ :=
    hexecute args line w s options "p" hparse hload rfl rfl rfl rfl
  have hitems : itemsOf chunks failure = itemsOf [.text "a", .reasoning "r"] (some e) := by
    let text : Json := .object [("text", .string "a")]
    let item : Json :=
      .object [("item", .object [("text", .string "r"), ("type", .string "reasoning")])]
    have hevents : output.events = [text, item] := by cbv
    have hdiagnostics : output.diagnostics = "" := by cbv
    have hchecked : ∀ event ∈ [text, item], Event.check event = .ok () := by
      rw [List.forall_mem_cons, List.forall_mem_cons]
      exact ⟨rfl, rfl, List.forall_mem_nil _⟩
    obtain ⟨built, hbuilt⟩ : ∃ built, Prompt.build "" [⟨.user, .text "p"⟩] = .ok built := ⟨_, rfl⟩
    have hran : ((Session.ofSettings s w.catalog).streamAlong w.course w.tool ""
        [⟨.user, .text "p"⟩] []).1 = _ :=
      Session.streamAlong_of_ran rfl hbuilt rfl output.calm_calm
    rw [hevents, itemsOfEvents_of_accepted hchecked, hdiagnostics] at hran
    exact (congrArg Prod.fst hstream).symm.trans hran
  obtain ⟨hchunks, hfailure⟩ := itemsOf_inj hitems
  rw [hchunks, hfailure] at hshown
  have hshared : sharedOutput runs = "" := by
    have hruns : _ = runs := congrArg Prod.snd hstream
    rw [← hruns]
    rfl
  have hstdout : (execute args w).1.stdout = "a\n" := by
    rw [hexecuted, Screen.after, hshared, hshown.stdout]
    rfl
  have hstderr : (execute args w).1.stderr =
      "rerror: Codex CLI process exited with code 7\n" := by
    obtain ⟨hstderr, -⟩ := hshown.failed e rfl
    rw [hexecuted, Screen.after, hstderr]
    rfl
  obtain ⟨hsummed, ⟨amount, hamount, hsum⟩, -⟩ :=
    (hshows true [.reasoning "r", .text "a", .usage usage] none).summed rfl usage rfl
  have haside : asides true [.reasoning "r", .text "a", .usage usage] = "r" := by decide
  have htexts : usage.countTexts = ["1 in", "2 out", "3 cached"] := by decide
  have hsame := hinsert true true [.text "a"] [.reasoning "r", .text "a", .usage usage]
    (some e) none (.insert _ rfl (.keep _ (.insert _ rfl .nil)))
  have halone := (hshows true [.text "a"] (some e)).stdout
  refine ⟨hstdout, hstderr, hsame.trans (halone.trans hstdout.symm), amount, hamount,
    hsummed.trans ?_⟩
  rw [haside, hsum, htexts]
  simp [← String.append_assoc]

end AgentRelay
