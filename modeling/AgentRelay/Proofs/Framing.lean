import AgentRelay.Proofs.Noise
import AgentRelay.Tool.Splitter

/-!
# Lines of a running tool

The calls for the next line give the lines of the output one after another and then nothing, as
long as no error is reported and the tool exits with code zero.  The lines are the segments
between the newlines, each without one trailing carriage return, except those that are no text.
How the output is cut while it arrives does not matter, and a segment that is no text changes
nothing for its neighbours.

Main definitions:

- {lit}`IsLineOf` and {lit}`Framed`: the text of a segment, and the lines of segments.
- {lit}`written`: texts as a tool writes them, each with a newline.
- {lit}`answers`: the results of calls that find some lines.

Main results:

- Theorem {lit}`SplitReader.results_eq`: a splitter is read as if all segments were there.
- Theorem {lit}`framed_iff`: the lines of segments are found in them.
- Theorem {lit}`Reader.results_of_calm`: the calls give the lines of the segments.
- Theorem {lit}`SplitReader.results_of_splitter`: the lines of an output, whatever cuts it.
-/

namespace AgentRelay

open Text (newline carriageReturn)
open Text.Utf8 (encode)

/-! ## Output that is cut while it arrives -/

/-- What is taken off bytes is their first segment. -/
theorem Takes.segments_eq {bytes seg rest : List UInt8} (h : Takes bytes (some seg) rest) :
    Text.segments bytes = seg :: Text.segments rest := by
  cases h with
  | line h hseg => rw [h, Text.segments_append_newline hseg]
  | last hne hbytes => rw [segments_of_newline_notMem hbytes hne, Text.segments_nil]

/-- The next line that a splitter takes is the next line of the segments. -/
theorem Splitter.nextLine_eq (S : Splitter) (s : S.State) :
    Reader.nextLine (Text.segments (S.bytes s)) =
      ((S.nextLine s).1, Text.segments (S.bytes (S.nextLine s).2)) := by
  -- One case for the end of the output, one for a line, one for a segment that is passed over.
  fun_induction nextLine with
  | case1 s rest h =>
    have htakes := S.takes s
    rw [h] at htakes
    generalize S.bytes rest = left at htakes ⊢
    cases htakes with
    | nothing hbytes =>
      rw [hbytes]
      rfl
  | case2 s seg rest h line hline =>
    have htakes := S.takes s
    rw [h] at htakes
    rw [htakes.segments_eq, Reader.nextLine_cons_of_line?_eq_some hline]
  | case3 s seg rest h hline _ ih =>
    have htakes := S.takes s
    rw [h] at htakes
    rw [htakes.segments_eq, Reader.nextLine_cons_of_line?_eq_none hline, ih]

namespace SplitReader

variable {S : Splitter}

/-- The reader of all segments that are still to come. -/
def reader (r : SplitReader S) : Reader :=
  ⟨Text.segments (S.bytes r.source), r.finished⟩

/-- A call gives the same as if all segments were there, and leaves the same to be read. -/
theorem next_eq (r : SplitReader S) (o : Observation) :
    r.reader.next o = ((r.next o).1, (r.next o).2.reader) := by
  have hfinished : r.reader.finished = r.finished := rfl
  unfold next Reader.next
  rw [hfinished]
  split
  · rfl
  · cases o.before.error? with
    | some message => rfl
    | none =>
      have hline := S.nextLine_eq r.source
      simp only [reader, hline]
      cases o.after.error? with
      | some message => rfl
      | none => cases (S.nextLine r.source).1 <;> rfl

/-- A splitter is read as if all segments were there. -/
theorem results_eq (r : SplitReader S) (seen : List Observation) :
    r.results seen = r.reader.results seen := by
  induction seen generalizing r with
  | nil => rfl
  | cons o seen ih => rw [results, ih, Reader.results, r.next_eq]

end SplitReader

/-! ## The lines of segments -/

/-- A segment is the line of a text: the bytes of the text, if they do not end in a carriage
return, or those bytes and one carriage return. -/
inductive IsLineOf (seg : List UInt8) (text : String) : Prop where
  | plain (h : seg = encode text) (hlast : text.toList.getLast? ≠ some '\r')
  | returned (h : seg = encode text ++ [carriageReturn])

/-- Segments have lines: each segment is the line of a text, or passed over because it is the
bytes of no text. -/
inductive Framed : List (List UInt8) → List String → Prop where
  | nil : Framed [] []
  | line {segs : List (List UInt8)} {lines : List String} {seg : List UInt8} {text : String}
      (h : IsLineOf seg text) (rest : Framed segs lines) : Framed (seg :: segs) (text :: lines)
  | passedOver {segs : List (List UInt8)} {lines : List String} {seg : List UInt8}
      (h : ∀ text, seg ≠ encode text) (rest : Framed segs lines) : Framed (seg :: segs) lines

/-- The bytes of a text with a carriage return behind it. -/
theorem encode_push_return (text : String) :
    encode (text.push '\r') = encode text ++ [carriageReturn] := by
  rw [encode, String.toList_push, List.flatMap_append]
  rfl

theorem exists_push_return {text : String} (h : text.toList.getLast? = some '\r') :
    ∃ front : String, text = front.push '\r' := by
  obtain ⟨cs, hcs⟩ := List.getLast?_eq_some_iff.1 h
  refine ⟨.ofList cs, ?_⟩
  rw [← String.toList_inj, hcs, String.toList_push, String.toList_ofList]

/-- The bytes of a text end in a carriage return when the text does. -/
theorem getLast?_encode_iff (text : String) :
    (encode text).getLast? = some carriageReturn ↔ text.toList.getLast? = some '\r' := by
  constructor
  · intro h
    obtain ⟨front, hfront⟩ := List.getLast?_eq_some_iff.1 h
    have htext := Text.Utf8.decode?_encode text
    rw [hfront, Text.Utf8.decode?_concat_ascii (by decide), Option.map_eq_some_iff] at htext
    obtain ⟨front', -, rfl⟩ := htext
    rw [String.toList_push, List.getLast?_concat]
    rfl
  · intro h
    obtain ⟨front, rfl⟩ := exists_push_return h
    rw [encode_push_return, List.getLast?_concat]

theorem chompReturn_concat (seg : List UInt8) :
    Text.chompReturn (seg ++ [carriageReturn]) = seg := by
  simp [Text.chompReturn]

/-- The text of a segment is the one whose line it is. -/
theorem line?_eq_some_iff {seg : List UInt8} {text : String} :
    Text.line? seg = some text ↔ IsLineOf seg text := by
  -- The last byte of the segment tells which of the two ways is open.
  by_cases hreturn : seg.getLast? = some carriageReturn
  · obtain ⟨front, rfl⟩ := List.getLast?_eq_some_iff.1 hreturn
    rw [Text.line?, chompReturn_concat, Text.Utf8.decode?_eq_some_iff_eq_encode]
    constructor
    · rintro rfl
      exact .returned rfl
    · rintro (⟨h, hlast⟩ | h)
      · rw [h, getLast?_encode_iff] at hreturn
        exact absurd hreturn hlast
      · exact List.append_cancel_right h
  · rw [Text.line?, Text.chompReturn, if_neg hreturn, Text.Utf8.decode?_eq_some_iff_eq_encode]
    constructor
    · rintro rfl
      rw [getLast?_encode_iff] at hreturn
      exact .plain rfl hreturn
    · rintro (⟨h, -⟩ | h)
      · exact h
      · rw [h, List.getLast?_concat] at hreturn
        exact absurd rfl hreturn

/-- A segment has no text exactly when it is the bytes of none: the carriage return that is taken
off does not count. -/
theorem line?_eq_none_iff {seg : List UInt8} :
    Text.line? seg = none ↔ ∀ text, seg ≠ encode text := by
  simp only [Option.eq_none_iff_forall_ne_some, ne_eq, line?_eq_some_iff]
  constructor
  · intro h text hseg
    by_cases hlast : text.toList.getLast? = some '\r'
    · obtain ⟨front, rfl⟩ := exists_push_return hlast
      exact h front (.returned (hseg.trans (encode_push_return front)))
    · exact h text (.plain hseg hlast)
  · rintro h text (⟨hseg, -⟩ | hseg)
    · exact h text hseg
    · exact h (text.push '\r') (hseg.trans (encode_push_return text).symm)

/-- The lines of segments are found in them. -/
theorem framed_iff {segs : List (List UInt8)} {lines : List String} :
    Framed segs lines ↔ segs.filterMap Text.line? = lines := by
  constructor
  · intro h
    induction h with
    | nil => rfl
    | line h _ ih => rw [List.filterMap_cons_some (line?_eq_some_iff.2 h), ih]
    | passedOver h _ ih => rw [List.filterMap_cons_none (line?_eq_none_iff.2 h), ih]
  · rintro rfl
    induction segs with
    | nil => exact .nil
    | cons seg segs ih =>
      cases hline : Text.line? seg with
      | none =>
        rw [List.filterMap_cons_none hline]
        exact .passedOver (line?_eq_none_iff.1 hline) ih
      | some text =>
        rw [List.filterMap_cons_some hline]
        exact .line (line?_eq_some_iff.1 hline) ih

theorem exists_framed (segs : List (List UInt8)) : ∃ lines, Framed segs lines :=
  ⟨_, framed_iff.2 rfl⟩

/-- A segment that is no text may be put among others. -/
theorem Framed.insert_passedOver {before after : List (List UInt8)} {seg : List UInt8}
    {lines : List String} (h : Framed (before ++ after) lines) (hseg : ∀ text, seg ≠ encode text) :
    Framed (before ++ seg :: after) lines := by
  rw [framed_iff] at h ⊢
  rwa [List.filterMap_append, List.filterMap_cons_none (line?_eq_none_iff.2 hseg),
    ← List.filterMap_append]

/-! ## Calls one after another -/

/-- No error is reported about a run, and it exits with code zero. -/
structure Observation.Calm (o : Observation) : Prop where
  before : o.before.error? = none
  after : o.after.error? = none
  final : o.final = .exited 0

/-- The results of some calls that find the given lines: one line after another, and then
nothing. -/
def answers (lines : List String) (calls : Nat) : List LineResult :=
  (List.range calls).map fun k => .ok lines[k]?

theorem answers_cons (line : String) (lines : List String) (calls : Nat) :
    answers (line :: lines) (calls + 1) = .ok (some line) :: answers lines calls := by
  simp [answers, List.range_succ_eq_map, Function.comp_def]

theorem answers_nil (calls : Nat) : answers [] (calls + 1) = .ok none :: answers [] calls := by
  simp [answers, List.range_succ_eq_map, Function.comp_def]

namespace Reader

variable {r : Reader} {seen : List Observation}

/-- After the end the calls give nothing. -/
theorem results_of_finished (h : r.finished = true) (seen : List Observation) :
    r.results seen = answers [] seen.length := by
  induction seen with
  | nil => rfl
  | cons o seen ih => rw [results, next_of_finished h, ih, List.length_cons, answers_nil]

/-- The calls give the lines of the segments, and then nothing. -/
theorem results_of_calm (hr : r.finished = false) (hseen : ∀ o ∈ seen, o.Calm) :
    r.results seen = answers (r.segments.filterMap Text.line?) seen.length := by
  -- A call leaves the segments behind its line, so the reader changes from call to call.
  induction seen generalizing r with
  | nil => rfl
  | cons o seen ih =>
    rw [List.forall_mem_cons] at hseen
    obtain ⟨ho, hseen⟩ := hseen
    rcases hl : nextLine r.segments with ⟨_ | line, rest⟩
    · have hnext := next_of_end hr ho.before ho.after hl
      rw [ho.final] at hnext
      rw [results, hnext, results_of_finished rfl, filterMap_line?_of_nextLine hl,
        eq_nil_of_nextLine_none hl]
      exact (answers_nil seen.length).symm
    · rw [results, next_of_line hr ho.before ho.after hl, ih rfl hseen,
        filterMap_line?_of_nextLine hl]
      exact (answers_cons line _ seen.length).symm

end Reader

/-! ## What a tool writes -/

/-- Texts as a tool writes them, each with a newline. -/
def written (texts : List String) : List UInt8 :=
  texts.flatMap fun text => encode text ++ [newline]

/-- A text that is written on one line and read back from it. -/
structure IsLineText (text : String) : Prop where
  newline_notMem : '\n' ∉ text.toList
  getLast?_ne : text.toList.getLast? ≠ some '\r'

theorem written_eq_joinLines (texts : List String) :
    written texts = joinLines (texts.map encode) [] := by
  rw [written, joinLines, List.append_nil, List.flatMap_map]

/-- Without the last newline the last text stands behind the lines of the others. -/
theorem dropLast_written_concat (texts : List String) (text : String) :
    (written (texts ++ [text])).dropLast = joinLines (texts.map encode) (encode text) := by
  rw [written, List.flatMap_append, List.flatMap_singleton, ← List.append_assoc,
    List.dropLast_concat, joinLines, List.flatMap_map]

theorem encode_ne_nil {text : String} (h : text ≠ "") : encode text ≠ [] := by
  intro hempty
  have htext := Text.Utf8.decode?_encode text
  rw [hempty, Text.Utf8.decode?_nil, Option.some.injEq] at htext
  exact h htext.symm

theorem newline_notMem_map_encode {texts : List String} (h : ∀ text ∈ texts, IsLineText text) :
    ∀ seg ∈ texts.map encode, newline ∉ seg := by
  intro seg hseg
  obtain ⟨text, htext, rfl⟩ := List.mem_map.1 hseg
  exact newline_notMem_encode (h text htext).newline_notMem

/-- The lines of the bytes of texts are the texts. -/
theorem framed_map_encode {texts : List String} (h : ∀ text ∈ texts, IsLineText text) :
    Framed (texts.map encode) texts := by
  induction texts with
  | nil => exact .nil
  | cons text texts ih =>
    rw [List.forall_mem_cons] at h
    exact .line (.plain rfl h.1.getLast?_ne) (ih h.2)

namespace SplitReader

variable {S : Splitter} {s : S.State} {seen : List Observation}

/-- The calls give the lines of the output, whatever cuts it. -/
theorem results_of_framed (hseen : ∀ o ∈ seen, o.Calm) {segs : List (List UInt8)}
    {last : List UInt8} {lines : List String} (hbytes : S.bytes s = joinLines segs last)
    (hsegs : ∀ seg ∈ segs, newline ∉ seg) (hlast : newline ∉ last)
    (hlines : Framed (segs ++ if last = [] then [] else [last]) lines) :
    (⟨s, false⟩ : SplitReader S).results seen = answers lines seen.length := by
  have hsegments : (⟨s, false⟩ : SplitReader S).reader.segments =
      segs ++ if last = [] then [] else [last] := by
    rw [← segments_joinLines hsegs hlast, ← hbytes]
    rfl
  rw [results_eq, Reader.results_of_calm rfl hseen, hsegments, framed_iff.1 hlines]

/-- Texts that are written are read, one after another. -/
theorem results_of_written (hseen : ∀ o ∈ seen, o.Calm) {texts : List String}
    (htexts : ∀ text ∈ texts, IsLineText text) (hbytes : S.bytes s = written texts) :
    (⟨s, false⟩ : SplitReader S).results seen = answers texts seen.length := by
  rw [written_eq_joinLines] at hbytes
  apply results_of_framed hseen hbytes (newline_notMem_map_encode htexts) List.not_mem_nil
  rw [if_pos rfl, List.append_nil]
  exact framed_map_encode htexts

/-- The last newline may be left out, unless the last text is empty: that text is not read
then. -/
theorem results_of_written_dropLast (hseen : ∀ o ∈ seen, o.Calm) {texts : List String}
    (htexts : ∀ text ∈ texts, IsLineText text) (hbytes : S.bytes s = (written texts).dropLast) :
    (⟨s, false⟩ : SplitReader S).results seen =
      answers (if texts.getLast? = some "" then texts.dropLast else texts) seen.length := by
  rcases List.eq_nil_or_concat texts with rfl | ⟨front, text, rfl⟩
  · exact results_of_written hseen htexts hbytes
  · rw [List.concat_eq_append] at htexts hbytes ⊢
    rw [List.forall_mem_append, List.forall_mem_singleton] at htexts
    obtain ⟨hfront, htext⟩ := htexts
    rw [dropLast_written_concat] at hbytes
    apply results_of_framed hseen hbytes (newline_notMem_map_encode hfront)
      (newline_notMem_encode htext.newline_notMem)
    by_cases hempty : text = ""
    · subst hempty
      rw [if_pos Text.Utf8.encode_empty, List.append_nil, List.getLast?_concat,
        List.dropLast_concat, if_pos rfl]
      exact framed_map_encode hfront
    · have hlast : (front ++ [text]).getLast? ≠ some "" := by
        rw [List.getLast?_concat]
        exact fun h => hempty (Option.some.inj h)
      have hlines : Framed ((front ++ [text]).map encode) (front ++ [text]) :=
        framed_map_encode (List.forall_mem_append.2 ⟨hfront, List.forall_mem_singleton.2 htext⟩)
      rw [List.map_append, List.map_singleton] at hlines
      rwa [if_neg (encode_ne_nil hempty), if_neg hlast]

/-- A segment that is no text changes nothing for the others. -/
theorem results_of_passedOver (hseen : ∀ o ∈ seen, o.Calm) {before after : List (List UInt8)}
    {seg last : List UInt8} (hsegs : ∀ other ∈ before ++ seg :: after, newline ∉ other)
    (hlast : newline ∉ last) (hseg : ∀ text, seg ≠ encode text)
    (hbytes : S.bytes s = joinLines (before ++ seg :: after) last) {S' : Splitter} {s' : S'.State}
    (hbytes' : S'.bytes s' = joinLines (before ++ after) last) :
    (⟨s', false⟩ : SplitReader S').results seen = (⟨s, false⟩ : SplitReader S).results seen := by
  have hrest : ∀ other ∈ before ++ after, newline ∉ other := by
    intro other hother
    rcases List.mem_append.1 hother with hbefore | hafter
    · exact hsegs other (List.mem_append_left _ hbefore)
    · exact hsegs other (List.mem_append_right _ (List.mem_cons_of_mem _ hafter))
  obtain ⟨lines, hlines⟩ := exists_framed (before ++ after ++ if last = [] then [] else [last])
  rw [results_of_framed hseen hbytes' hrest hlast hlines]
  rw [List.append_assoc] at hlines
  have hinserted := hlines.insert_passedOver hseg
  rw [← List.cons_append, ← List.append_assoc] at hinserted
  exact (results_of_framed hseen hbytes hsegs hlast hinserted).symm

/-- The results of calls for the next line, whatever cuts the output while it arrives.  They
depend on its bytes alone, and are those that {lit}`Reader` gives for the segments of the bytes.
Without a reported error and with exit code zero, the bytes are lines that end in newlines and
what follows the last one, and the calls give the texts of these segments one after another, and
then nothing; a segment is passed over exactly if it is no text.  Texts that are written, each
with a newline, are read as they are; without the last newline too, unless the last text is
empty, which is not read then.  A segment that is no text may be left out. -/
theorem results_of_splitter (S : Splitter) (s : S.State) (seen : List Observation) :
    let results := (⟨s, false⟩ : SplitReader S).results seen
    results = Reader.results ⟨Text.segments (S.bytes s), false⟩ seen ∧
    (∀ (S' : Splitter) (s' : S'.State), S'.bytes s' = S.bytes s →
      (⟨s', false⟩ : SplitReader S').results seen = results) ∧
    ((∀ o ∈ seen, o.Calm) →
      (∃ segs last lines, S.bytes s = joinLines segs last ∧ (∀ seg ∈ segs, newline ∉ seg) ∧
        newline ∉ last ∧ Framed (segs ++ if last = [] then [] else [last]) lines ∧
        results = answers lines seen.length) ∧
      (∀ texts, (∀ text ∈ texts, IsLineText text) →
        (S.bytes s = written texts → results = answers texts seen.length) ∧
        (S.bytes s = (written texts).dropLast →
          results =
            answers (if texts.getLast? = some "" then texts.dropLast else texts) seen.length)) ∧
      (∀ before seg after last, (∀ other ∈ before ++ seg :: after, newline ∉ other) →
        newline ∉ last → (∀ text, seg ≠ encode text) →
        S.bytes s = joinLines (before ++ seg :: after) last →
        ∀ (S' : Splitter) (s' : S'.State), S'.bytes s' = joinLines (before ++ after) last →
          (⟨s', false⟩ : SplitReader S').results seen = results)) := by
  intro results
  refine ⟨results_eq _ _, ?_, fun hseen => ⟨?_, ?_, ?_⟩⟩
  · intro S' s' hbytes
    have hreader : (⟨s', false⟩ : SplitReader S').reader = (⟨s, false⟩ : SplitReader S).reader := by
      rw [reader, reader, hbytes]
    rw [results_eq, hreader, ← results_eq]
  · obtain ⟨segs, last, hbytes, hsegs, hlast⟩ := exists_joinLines (S.bytes s)
    obtain ⟨lines, hlines⟩ := exists_framed (segs ++ if last = [] then [] else [last])
    exact ⟨segs, last, lines, hbytes, hsegs, hlast, hlines,
      results_of_framed hseen hbytes hsegs hlast hlines⟩
  · intro texts htexts
    exact ⟨results_of_written hseen htexts, results_of_written_dropLast hseen htexts⟩
  · intro before seg after last hsegs hlast hseg hbytes S' s' hbytes'
    exact results_of_passedOver hseen hsegs hlast hseg hbytes hbytes'

/-- Three texts without the last newline, with an accented letter in two reads: four calls give
them and nothing, and a byte that is no text changes nothing on a line of its own. -/
theorem results_of_splitter_of_cutLetter :
    let calm : Observation := ⟨.running, .exited 0, .exited 0, ""⟩
    let results (reads : List (List UInt8)) :=
      (⟨⟨[], reads⟩, false⟩ : SplitReader Incoming.splitter).results [calm, calm, calm, calm]
    results [[0x61, 0xC3], [0xA9, 0x0A, 0x0A], [0x62]] =
        [.ok (some "a\u00e9"), .ok (some ""), .ok (some "b"), .ok none] ∧
      results [[0x61, 0xC3], [0xA9, 0x0A, 0x0A], [0x62]] =
        results [[0x61], [0xC3, 0xA9, 0x0A, 0xFF], [0x0A, 0x0A, 0x62]] := by
  intro calm results
  have hcalm : ∀ o ∈ [calm, calm, calm, calm], o.Calm := by
    have : calm.Calm := ⟨rfl, rfl, rfl⟩
    simpa using this
  have htexts : ∀ text ∈ ["a\u00e9", "", "b"], IsLineText text := by
    rw [List.forall_mem_cons, List.forall_mem_cons, List.forall_mem_singleton]
    exact ⟨⟨by decide, by decide⟩, ⟨by decide, by decide⟩, by decide, by decide⟩
  have hseg : ∀ text, [0xFF] ≠ encode text := line?_eq_none_iff.1 (by decide)
  obtain ⟨-, -, hcalmly⟩ := results_of_splitter Incoming.splitter
    ⟨[], [[0x61, 0xC3], [0xA9, 0x0A, 0x0A], [0x62]]⟩ [calm, calm, calm, calm]
  obtain ⟨-, hwritten, -⟩ := hcalmly hcalm
  obtain ⟨-, -, hcalmly'⟩ := results_of_splitter Incoming.splitter
    ⟨[], [[0x61], [0xC3, 0xA9, 0x0A, 0xFF], [0x0A, 0x0A, 0x62]]⟩ [calm, calm, calm, calm]
  obtain ⟨-, -, hpassed⟩ := hcalmly' hcalm
  refine ⟨(hwritten _ htexts).2 (by decide), ?_⟩
  exact hpassed [[0x61, 0xC3, 0xA9]] [0xFF] [[]] [0x62] (by decide) (by decide) hseg rfl _ _ rfl

end SplitReader
end AgentRelay
