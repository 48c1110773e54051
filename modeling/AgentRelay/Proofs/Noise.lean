import AgentRelay.Proofs.Stream
import AgentRelay.Proofs.Utf8

/-!
# Noise between the events

What a tool prints besides its events does not change the items of a session: lines
that write no event may stand anywhere, the texts of lines may be padded with blank
characters, and a line may end in a carriage return before its newline.

Main definitions:

- {lit}`IsNoise`: a line that writes no event.
- {lit}`Disturbed`: lines with noise among them, padding and carriage returns.
- {lit}`Output.Disturbed` and {lit}`Tool.Disturbed`: the same for outputs and tools.

Main results:

- Theorem {lit}`Output.Disturbed.events_eq`: a disturbed output writes the same events.
- Theorem {lit}`streamAlong_of_disturbed`: a session with a disturbed tool gives the
  same items.
-/

namespace AgentRelay

open Text (newline carriageReturn)

/-! ## The event of a segment -/

/-- The event that a segment of output writes. -/
def eventOf? (seg : List UInt8) : Option Json :=
  (Text.line? seg).bind Event.ofLine?

theorem eventsOfSegments_eq (segs : List (List UInt8)) :
    eventsOfSegments segs = segs.filterMap eventOf? := by
  rw [eventsOfSegments, List.filterMap_filterMap]
  rfl

/-- A carriage return behind a text does not change what event it writes. -/
theorem Event.ofLine?_push_return (text : String) :
    ofLine? (text.push '\r') = ofLine? text := by
  have hblank : Text.isBlank '\r' = true := by decide
  have hreturn : ∀ c ∈ ['\r'], Text.isBlank c = true := by simpa using hblank
  have htrim := Text.trimChars_append_blank hreturn text.toList
  rw [ofLine?, String.toList_push, htrim, ofLine?]

/-- A carriage return behind a segment does not change what event its text writes. -/
theorem decode?_concat_return_bind (seg : List UInt8) :
    (Text.Utf8.decode? (seg ++ [carriageReturn])).bind Event.ofLine? =
      (Text.Utf8.decode? seg).bind Event.ofLine? := by
  rw [Text.Utf8.decode?_concat_ascii (by decide)]
  cases Text.Utf8.decode? seg with
  | none => rfl
  | some text => exact Event.ofLine?_push_return text

/-- The carriage return that is taken off a segment does not change what event it
writes. -/
theorem eventOf?_eq (seg : List UInt8) :
    eventOf? seg = (Text.Utf8.decode? seg).bind Event.ofLine? := by
  unfold eventOf? Text.line? Text.chompReturn
  split
  next hreturn =>
    have hne : seg ≠ [] := by
      rintro rfl
      cases hreturn
    have hseg : seg.dropLast ++ [carriageReturn] = seg := by
      rw [List.getLast?_eq_some_getLast hne, Option.some.injEq] at hreturn
      rw [← hreturn, List.dropLast_append_getLast]
    rw [← decode?_concat_return_bind, hseg]
  next => rfl

theorem eventOf?_concat_return (seg : List UInt8) :
    eventOf? (seg ++ [carriageReturn]) = eventOf? seg := by
  rw [eventOf?_eq, eventOf?_eq, decode?_concat_return_bind]

/-! ## Disturbed lines -/

/-- A line that writes no event: it is no text, it is blank, or what is left when it is
trimmed is not accepted by the JSON reader. -/
def IsNoise (seg : List UInt8) : Prop :=
  newline ∉ seg ∧
    (Text.Utf8.decode? seg = none ∨ ∃ text, Text.Utf8.decode? seg = some text ∧
      ((∀ c ∈ text.toList, Text.isBlank c = true) ∨ Json.parse? (Text.trim text) = none))

/-- Blank characters other than newlines. -/
def IsPadding (s : String) : Prop :=
  ∀ c ∈ s.toList, Text.isBlank c = true ∧ c ≠ '\n'

/-- A segment, and the segment with padding around it when it is a text. -/
inductive Padded : List UInt8 → List UInt8 → Prop where
  | same (seg : List UInt8) : Padded seg seg
  | around {seg : List UInt8} {text : String} (h : Text.Utf8.decode? seg = some text)
      {front back : String} (hfront : IsPadding front) (hback : IsPadding back) :
      Padded seg (Text.Utf8.encode front ++ seg ++ Text.Utf8.encode back)

/-- Lines, and the lines with noise put among them, padded, and with carriage returns
before their newlines. -/
inductive Disturbed : List (List UInt8) → List (List UInt8) → Prop where
  | nil : Disturbed [] []
  | noise {lines lines' : List (List UInt8)} {seg : List UInt8} (h : IsNoise seg)
      (rest : Disturbed lines lines') : Disturbed lines (seg :: lines')
  | line {lines lines' : List (List UInt8)} {seg seg' : List UInt8} (h : Padded seg seg')
      (rest : Disturbed lines lines') : Disturbed (seg :: lines) (seg' :: lines')
  | lineWithReturn {lines lines' : List (List UInt8)} {seg seg' : List UInt8}
      (h : Padded seg seg') (rest : Disturbed lines lines') :
      Disturbed (seg :: lines) ((seg' ++ [carriageReturn]) :: lines')

/-- A blank line writes no event. -/
theorem Event.ofLine?_of_blank {text : String}
    (h : ∀ c ∈ text.toList, Text.isBlank c = true) : ofLine? text = none := by
  rw [ofLine?, Text.trimChars_of_blank h]
  exact ofLine?_empty

/-- Noise writes no event. -/
theorem IsNoise.eventOf?_eq_none {seg : List UInt8} (h : IsNoise seg) :
    eventOf? seg = none := by
  rw [eventOf?_eq]
  rcases h.2 with hnone | ⟨text, htext, hblank | hrejected⟩
  · rw [hnone]
    rfl
  · rw [htext]
    exact Event.ofLine?_of_blank hblank
  · rw [htext]
    rw [Json.parse?, Text.toList_trim] at hrejected
    exact hrejected

/-- A padded segment writes the same event. -/
theorem Padded.eventOf?_eq {seg seg' : List UInt8} (h : Padded seg seg') :
    eventOf? seg' = eventOf? seg := by
  cases h with
  | same => rfl
  | around htext hfront hback =>
    rw [AgentRelay.eventOf?_eq, AgentRelay.eventOf?_eq,
      Text.Utf8.decode?_around htext, htext]
    simp only [Option.bind_some, Event.ofLine?, String.toList_append]
    rw [Text.trimChars_around (fun c hc => (hfront c hc).1) (fun c hc => (hback c hc).1)]

/-- Disturbed lines write the same events. -/
theorem Disturbed.filterMap_eventOf?_eq {lines lines' : List (List UInt8)}
    (h : Disturbed lines lines') :
    lines'.filterMap eventOf? = lines.filterMap eventOf? := by
  induction h with
  | nil => rfl
  | noise hnoise _ ih => rw [List.filterMap_cons_none hnoise.eventOf?_eq_none, ih]
  | line hpadded _ ih => simp only [List.filterMap_cons, hpadded.eventOf?_eq, ih]
  | lineWithReturn hpadded _ ih =>
    simp only [List.filterMap_cons, eventOf?_concat_return, hpadded.eventOf?_eq, ih]

/-- The bytes of a text without a newline hold no newline byte. -/
theorem newline_notMem_encode {s : String} (h : '\n' ∉ s.toList) :
    newline ∉ Text.Utf8.encode s := by
  intro hmem
  obtain ⟨c, hc, hbyte⟩ := List.mem_flatMap.1 hmem
  have hcode : c.toNat = newline.toNat :=
    Text.Utf8.toNat_eq_of_mem_encodeChar hbyte (by decide)
  have hnewline : c = '\n' := Char.toNat_inj.1 hcode
  exact h (hnewline ▸ hc)

/-- Padding has no newline byte. -/
theorem IsPadding.newline_notMem {s : String} (h : IsPadding s) :
    newline ∉ Text.Utf8.encode s :=
  newline_notMem_encode fun hmem => (h _ hmem).2 rfl

/-- Padding a line leaves it one line. -/
theorem Padded.newline_notMem {seg seg' : List UInt8} (h : Padded seg seg')
    (hseg : newline ∉ seg) : newline ∉ seg' := by
  cases h with
  | same => exact hseg
  | around htext hfront hback =>
    simp only [List.mem_append, not_or]
    exact ⟨⟨hfront.newline_notMem, hseg⟩, hback.newline_notMem⟩

/-- Disturbed lines are lines. -/
theorem Disturbed.newline_notMem {lines lines' : List (List UInt8)}
    (h : Disturbed lines lines') (hlines : ∀ seg ∈ lines, newline ∉ seg) :
    ∀ seg ∈ lines', newline ∉ seg := by
  induction h with
  | nil => exact hlines
  | noise hnoise _ ih =>
    rw [List.forall_mem_cons]
    exact ⟨hnoise.1, ih hlines⟩
  | line hpadded _ ih =>
    rw [List.forall_mem_cons] at hlines ⊢
    exact ⟨hpadded.newline_notMem hlines.1, ih hlines.2⟩
  | lineWithReturn hpadded _ ih =>
    rw [List.forall_mem_cons] at hlines ⊢
    refine ⟨?_, ih hlines.2⟩
    rw [List.mem_append, not_or]
    exact ⟨hpadded.newline_notMem hlines.1, by decide⟩

/-! ## Disturbed outputs -/

/-- The bytes of lines that end in newlines, and of what follows the last newline. -/
def joinLines (lines : List (List UInt8)) (last : List UInt8) : List UInt8 :=
  lines.flatMap (· ++ [newline]) ++ last

/-- Every byte string consists of lines and of what follows the last newline. -/
theorem exists_joinLines (bytes : List UInt8) : ∃ lines last, bytes = joinLines lines last ∧
    (∀ seg ∈ lines, newline ∉ seg) ∧ newline ∉ last := by
  induction bytes with
  | nil => exact ⟨[], [], rfl, by simp, by simp⟩
  | cons b bytes ih =>
    obtain ⟨lines, last, rfl, hlines, hlast⟩ := ih
    by_cases hb : b = newline
    · subst hb
      refine ⟨[] :: lines, last, by simp [joinLines], ?_, hlast⟩
      rw [List.forall_mem_cons]
      exact ⟨by simp, hlines⟩
    · have hne : ∀ seg, newline ∉ seg → newline ∉ b :: seg := by
        intro seg hseg hmem
        rcases List.mem_cons.1 hmem with heq | hmem
        · exact hb heq.symm
        · exact hseg hmem
      cases lines with
      | nil => exact ⟨[], b :: last, by simp [joinLines], by simp, hne last hlast⟩
      | cons seg lines =>
        rw [List.forall_mem_cons] at hlines
        refine ⟨(b :: seg) :: lines, last, by simp [joinLines], ?_, hlast⟩
        rw [List.forall_mem_cons]
        exact ⟨hne seg hlines.1, hlines.2⟩

/-- Bytes without a newline are one segment, or none when there are no bytes. -/
theorem segments_of_newline_notMem {seg : List UInt8} (h : newline ∉ seg) (hne : seg ≠ []) :
    Text.segments seg = [seg] := by
  induction seg with
  | nil => exact absurd rfl hne
  | cons b seg ih =>
    rw [List.mem_cons, not_or] at h
    have hb : b ≠ newline := fun e => h.1 e.symm
    by_cases hseg : seg = []
    · simp [hseg, Text.segments, hb]
    · simp [Text.segments, hb, ih h.2 hseg]

/-- Lines are segments, and so is what follows the last newline if it is not empty. -/
theorem segments_joinLines {lines : List (List UInt8)} {last : List UInt8}
    (hlines : ∀ seg ∈ lines, newline ∉ seg) (hlast : newline ∉ last) :
    Text.segments (joinLines lines last) = lines ++ if last = [] then [] else [last] := by
  induction lines with
  | nil =>
    rw [joinLines, List.flatMap_nil, List.nil_append, List.nil_append]
    split
    next hempty => rw [hempty, Text.segments_nil]
    next hne => exact segments_of_newline_notMem hlast hne
  | cons seg lines ih =>
    rw [List.forall_mem_cons] at hlines
    have hjoin : joinLines (seg :: lines) last = seg ++ newline :: joinLines lines last := by
      simp [joinLines]
    rw [hjoin, Text.segments_append_newline hlines.1, ih hlines.2, List.cons_append]

/-- The events of lines come first, then that of what follows the last newline. -/
theorem eventsOfSegments_joinLines {lines : List (List UInt8)} {last : List UInt8}
    (hlines : ∀ seg ∈ lines, newline ∉ seg) (hlast : newline ∉ last) :
    eventsOfSegments (Text.segments (joinLines lines last)) =
      lines.filterMap eventOf? ++ (eventOf? last).toList := by
  rw [eventsOfSegments_eq, segments_joinLines hlines hlast, List.filterMap_append]
  split
  next hempty =>
    have hnone : eventOf? [] = none := Event.ofLine?_empty
    rw [hempty, hnone]
    rfl
  next =>
    rw [List.filterMap_cons, List.filterMap_nil]
    cases eventOf? last <;> rfl

/-- An output, and the output with its lines disturbed and what follows its last
newline padded. -/
structure Output.Disturbed (o o' : Output) : Prop where
  stdout : ∃ lines lines' last last', (∀ seg ∈ lines, newline ∉ seg) ∧ newline ∉ last ∧
    o.stdout = joinLines lines last ∧ o'.stdout = joinLines lines' last' ∧
    AgentRelay.Disturbed lines lines' ∧ Padded last last'
  stderr : o'.stderr = o.stderr
  ending : o'.ending = o.ending

/-- A disturbed output writes the same events. -/
theorem Output.Disturbed.events_eq {o o' : Output} (h : o.Disturbed o') :
    o'.events = o.events := by
  obtain ⟨lines, lines', last, last', hlines, hlast, ho, ho', hdisturbed, hpadded⟩ := h.stdout
  have hlines' := hdisturbed.newline_notMem hlines
  have hlast' := hpadded.newline_notMem hlast
  unfold Output.events
  rw [ho, ho', eventsOfSegments_joinLines hlines hlast,
    eventsOfSegments_joinLines hlines' hlast', hdisturbed.filterMap_eventOf?_eq,
    hpadded.eventOf?_eq]

/-- The diagnostics of a disturbed output are the same. -/
theorem Output.Disturbed.diagnostics_eq {o o' : Output} (h : o.Disturbed o') :
    o'.diagnostics = o.diagnostics := by
  unfold Output.diagnostics
  rw [h.stderr]

/-! ## Sessions with disturbed tools -/

/-- An answer, and the answer with its output disturbed. -/
inductive Reply.Disturbed : Reply → Reply → Prop where
  | failed (failure : LaunchFailure) : Disturbed (.failed failure) (.failed failure)
  | ran {o o' : Output} (h : o.Disturbed o') : Disturbed (.ran o) (.ran o')

/-- A tool, and a tool whose answers to prompts are disturbed while all its other
answers are the same. -/
structure Tool.Disturbed (tool tool' : Tool) : Prop where
  prompted : ∀ history launch text, launch.channel = .text text →
    (tool history launch).Disturbed (tool' history launch)
  others : ∀ history launch, (∀ text, launch.channel ≠ .text text) →
    tool' history launch = tool history launch

variable {tool tool' : Tool}

/-- A launch that sends no prompt gives the same. -/
theorem Tool.Disturbed.capture_eq (h : tool.Disturbed tool') {launch : Launch}
    (hlaunch : ∀ text, launch.channel ≠ .text text) :
    tool'.capture launch = tool.capture launch := by
  have hrun : tool'.run launch = tool.run launch := by
    funext history
    simp only [Tool.run, h.others history launch hlaunch]
  unfold Tool.capture
  rw [hrun]

/-- Signing in gives the same and launches the same. -/
theorem Tool.Disturbed.ensureSignedIn_eq (h : tool.Disturbed tool') (binary : String)
    (env : Environment) :
    tool'.ensureSignedIn binary env = tool.ensureSignedIn binary env := by
  have hstatus : tool'.capture (statusLaunch binary env) = tool.capture (statusLaunch binary env) :=
    h.capture_eq (by simp [statusLaunch])
  have htrial : tool'.capture (trialLaunch binary env) = tool.capture (trialLaunch binary env) :=
    h.capture_eq (by simp [trialLaunch])
  have hsignIn : tool'.capture (signInLaunch binary env) = tool.capture (signInLaunch binary env) :=
    h.capture_eq (by simp [signInLaunch])
  unfold Tool.ensureSignedIn Tool.authStatus Tool.signIn
  rw [hstatus, htrial, hsignIn]

namespace Session

/-- Authorizing gives the same and launches the same. -/
theorem authorize_of_disturbed (h : tool.Disturbed tool') (s : Session) :
    s.authorize tool' = s.authorize tool := by
  unfold authorize
  rw [h.ensureSignedIn_eq]

/-- A session with a disturbed tool gives the same items, when nothing is reported
about the runs but their exits.  Noise lines may stand before and after every line of
the output, the texts of lines and of what follows the last newline may be padded with
blank characters, and lines may end in a carriage return; everything else that the tool
does is the same. -/
theorem streamAlong_of_disturbed (h : tool.Disturbed tool') {course course' : Output → Course}
    (hcourse : ∀ o, (course o).Calm o.ending.code o.diagnostics)
    (hcourse' : ∀ o, (course' o).Calm o.ending.code o.diagnostics) (s : Session)
    (system : String) (messages : List Message) (history : List Run) :
    (s.streamAlong course' tool' system messages history).1 =
      (s.streamAlong course tool system messages history).1 := by
  have hauthorize := authorize_of_disturbed h s
  cases hauth : (s.authorize tool history).1 with
  | error e =>
    have hauth' : (s.authorize tool' history).1 = .error e := by rw [hauthorize, hauth]
    rw [streamAlong_of_authorize_error hauth, streamAlong_of_authorize_error hauth']
  | ok _ =>
    have hauth' : (s.authorize tool' history).1 = .ok () := by rw [hauthorize, hauth]
    cases hprompt : Prompt.build system messages with
    | error e =>
      rw [streamAlong_of_build_error hauth hprompt, streamAlong_of_build_error hauth' hprompt]
    | ok prompt =>
      have hreply := h.prompted (s.authorize tool history).2 (s.request prompt).launch _ rfl
      rw [streamAlong_of_build_ok hauth hprompt, streamAlong_of_build_ok hauth' hprompt,
        hauthorize]
      generalize tool (s.authorize tool history).2 (s.request prompt).launch = reply at hreply
      generalize tool' (s.authorize tool history).2 (s.request prompt).launch = reply' at hreply
      cases hreply with
      | failed failure => rfl
      | @ran o o' hran =>
        have hcalm := hcourse' o'
        rw [hran.ending, hran.diagnostics_eq] at hcalm
        have hitems := itemsOfReader_of_calm (hcourse o) (r := o.reader) rfl s.model.model
        have hitems' := itemsOfReader_of_calm hcalm (r := o'.reader) rfl s.model.model
        exact hitems'.trans ((congrArg _ hran.events_eq).trans hitems.symm)

/-- A byte that is no text, an event padded with a no-break space and a space and ended
by a carriage return, and a line that is not JSON: the items are those of the event and
of the exit. -/
theorem streamAlong_of_noise_and_padding :
    let event := Text.Utf8.encode "\x7b\"text\":\"a\"\x7d"
    let padded := Text.Utf8.encode "\u00a0" ++ event ++ Text.Utf8.encode " "
    let o : Output := ⟨joinLines [event] [], [], .exited 3⟩
    let o' : Output := ⟨joinLines [[0xFF], padded ++ [carriageReturn], Text.Utf8.encode "no"] [],
      [], .exited 3⟩
    let tool : Tool := fun _ _ => .ran o
    let tool' : Tool := fun _ launch =>
      match launch.channel with
      | .text _ => .ran o'
      | _ => .ran o
    let s : Session := ⟨{ authMode := .apiKey }, ⟨"m", .unknown "m"⟩⟩
    (s.stream tool' "" [] []).1 = (s.stream tool "" [] []).1 ∧
      (s.stream tool "" [] []).1 = [.ok (.text "a"), .error (.processExit 3 "")] := by
  intro event padded o o' tool tool' s
  have hbroken : IsNoise [0xFF] := ⟨by decide, .inl (by decide)⟩
  have hno : IsNoise (Text.Utf8.encode "no") :=
    ⟨by decide, .inr ⟨"no", Text.Utf8.decode?_encode "no", .inr (by cbv)⟩⟩
  have hpadded : Padded event padded := .around (Text.Utf8.decode?_encode _)
    (by simp [IsPadding]; decide) (by simp [IsPadding]; decide)
  have hlines : AgentRelay.Disturbed [event]
      [[0xFF], padded ++ [carriageReturn], Text.Utf8.encode "no"] :=
    .noise hbroken (.lineWithReturn hpadded (.noise hno .nil))
  have ho : o.Disturbed o' :=
    ⟨⟨_, _, [], [], by decide, by decide, rfl, rfl, hlines, .same []⟩, rfl, rfl⟩
  have htool : tool.Disturbed tool' := by
    refine ⟨fun history launch text hlaunch => ?_, fun history launch hlaunch => ?_⟩
    · simp only [tool, tool', hlaunch]
      exact .ran ho
    · cases hchannel : launch.channel with
      | text text => exact absurd hchannel (hlaunch text)
      | closed => simp [tool, tool', hchannel]
      | shared => simp [tool, tool', hchannel]
  have hitems := streamAlong_of_disturbed htool Output.calm_calm Output.calm_calm s "" [] []
  obtain ⟨prompt, hprompt⟩ : ∃ prompt, Prompt.build "" [] = .ok prompt := ⟨_, rfl⟩
  have hevent : eventOf? event = some (.object [("text", .string "a")]) := by
    rw [eventOf?_eq, Text.Utf8.decode?_encode]
    cbv
  have hnone : eventOf? [] = none := Event.ofLine?_empty
  have hevents : o.events = [.object [("text", .string "a")]] := by
    rw [Output.events, eventsOfSegments_joinLines (by decide) (by decide)]
    simp [hevent, hnone]
  have hran : (s.streamAlong Output.calm tool "" [] []).1 =
      itemsOfEvents (.unknown "m") (exitFailure? 3 o.diagnostics) o.events :=
    streamAlong_of_ran rfl hprompt rfl o.calm_calm
  refine ⟨hitems, ?_⟩
  rw [stream, hran, hevents]
  cbv

end Session
end AgentRelay
