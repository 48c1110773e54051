import AgentRelay.Proofs.Stream
import AgentRelay.Proofs.Utf8

/-!
# Diagnostics that arrive in several reads

The diagnostics of a run arrive in reads, and each read is decoded on its own.  A read that
ends inside a character therefore breaks it: its beginning is shown as one replacement
character and each of its later bytes as another.  What is kept is the text of all the bytes
exactly when no read begins with a byte that goes on with the character left unfinished by the
read before.

Main definitions:

- {lit}`unfinished`: the character that a byte string leaves unfinished.
- {lit}`KeepsCharacters`: no cut between two reads goes through a character.

Main results:

- Theorem {lit}`pieces_append`: the reader may be stopped and resumed between any two bytes.
- Theorem {lit}`decodeReads_eq_decodeLossy_iff`: which cuts leave the text as it is.
- Theorem {lit}`decodeReads_eq_text_iff`: a text is kept when every read is a text.
- Theorem {lit}`diagnostics_of_reads`: the diagnostics that a failed run is reported with.
-/

namespace AgentRelay
namespace Text
namespace Utf8

/-! ## Stopping and resuming -/

/-- The character that a byte string leaves unfinished. -/
def unfinished (pending : Option Pending) (bs : List UInt8) : Option Pending :=
  bs.foldl (fun pending b => (feed pending b).2) pending

/-- The pieces that are known before it is known whether more bytes come. -/
def completed (pending : Option Pending) : List UInt8 → List Piece
  | [] => []
  | b :: bs => (feed pending b).1 ++ completed (feed pending b).2 bs

theorem unfinished_append (pending : Option Pending) (bs cs : List UInt8) :
    unfinished pending (bs ++ cs) = unfinished (unfinished pending bs) cs :=
  List.foldl_append

/-- The pieces of bytes one after another are the known ones of the first bytes, and those of
the other bytes after the character that the first leave unfinished. -/
theorem pieces_append (pending : Option Pending) (bs cs : List UInt8) :
    pieces pending (bs ++ cs) =
      completed pending bs ++ pieces (unfinished pending bs) cs := by
  induction bs generalizing pending with
  | nil => rfl
  | cons b bs ih =>
    rw [List.cons_append, pieces_cons, ih, completed, List.append_assoc]
    rfl

/-- At the end an unfinished character is broken. -/
theorem pieces_eq_completed (pending : Option Pending) (bs : List UInt8) :
    pieces pending bs = completed pending bs ++ pieces (unfinished pending bs) [] := by
  have happend := pieces_append pending bs []
  rwa [List.append_nil] at happend

/-- The first of some bytes goes on with the unfinished character. -/
def Continues : Option Pending → List UInt8 → Prop
  | some p, b :: _ => p.low ≤ b ∧ b ≤ p.high
  | _, _ => False

/-- The bytes that go on with the unfinished character are below C0. -/
def EndsBelowC0 (pending : Option Pending) : Prop :=
  ∀ p, pending = some p → p.high.toNat < 0xC0

theorem endsBelowC0_start (b : UInt8) : EndsBelowC0 (start b).2 := by
  intro p hp
  unfold start at hp
  split_ifs at hp <;> cases hp <;> simp

theorem EndsBelowC0.feed {pending : Option Pending} (h : EndsBelowC0 pending) (b : UInt8) :
    EndsBelowC0 (feed pending b).2 := by
  cases pending with
  | none => exact endsBelowC0_start b
  | some q =>
    intro p hp
    simp only [Utf8.feed] at hp
    split_ifs at hp with hbounds hmissing
    · cases hp
      simp
    · exact endsBelowC0_start b p hp

/-- An unfinished character is continued by bytes from 80 to BF only. -/
structure OnlyTails (pending : Option Pending) : Prop where
  refusesAscii : RefusesAscii pending
  endsBelowC0 : EndsBelowC0 pending

theorem onlyTails_none : OnlyTails none :=
  ⟨refusesAscii_none, fun _ h => by cases h⟩

theorem OnlyTails.feed {pending : Option Pending} (h : OnlyTails pending) (b : UInt8) :
    OnlyTails (feed pending b).2 :=
  ⟨h.refusesAscii.feed b, h.endsBelowC0.feed b⟩

theorem OnlyTails.unfinished {pending : Option Pending} (h : OnlyTails pending)
    (bs : List UInt8) : OnlyTails (unfinished pending bs) := by
  induction bs generalizing pending with
  | nil => exact h
  | cons b bs ih => exact ih (h.feed b)

/-- A byte that goes on with a character begins none: on its own it is broken. -/
theorem start_of_continues {p : Pending} (h : OnlyTails (some p)) {b : UInt8}
    (hb : p.low ≤ b ∧ b ≤ p.high) : start b = ([.broken], none) := by
  have hlow := h.refusesAscii p rfl
  have hhigh := h.endsBelowC0 p rfl
  rw [UInt8.le_iff_toNat_le, UInt8.le_iff_toNat_le] at hb
  simp only [start, UInt8.lt_iff_toNat_lt, UInt8.reduceToNat]
  rw [if_neg (by omega), if_pos (by omega)]

/-- On its own, a byte that goes on with a character is a broken piece. -/
theorem pieces_none_of_continues {p : Pending} (h : OnlyTails (some p)) {b : UInt8}
    (hb : p.low ≤ b ∧ b ≤ p.high) (bs : List UInt8) :
    pieces none (b :: bs) = .broken :: pieces none bs := by
  rw [pieces_cons, feed_none, start_of_continues h hb]
  rfl

/-! ## Reading afresh -/

/-- Bytes that do not go on with the unfinished character are read as if they stood alone. -/
theorem pieces_of_not_continues {pending : Option Pending} {bs : List UInt8}
    (h : ¬ Continues pending bs) :
    pieces pending bs = pieces pending [] ++ pieces none bs := by
  cases pending with
  | none => rfl
  | some p =>
    cases bs with
    | nil => rfl
    | cons b bs =>
      have hfeed : feed (some p) b = (.broken :: (start b).1, (start b).2) := if_neg h
      rw [pieces_cons, hfeed]
      rfl

/-- A byte that goes on with a character makes at most one piece with what follows it, if what
follows does. -/
theorem length_pieces_cons_of_continues {p : Pending} {b : UInt8} {bs : List UInt8}
    (hb : p.low ≤ b ∧ b ≤ p.high)
    (hbs : (pieces (feed (some p) b).2 bs).length ≤ (pieces none bs).length + 1) :
    (pieces (some p) (b :: bs)).length ≤ (pieces none bs).length + 1 := by
  simp only [feed, if_pos hb] at hbs
  rw [pieces_cons, List.length_append]
  simp only [feed, if_pos hb]
  split_ifs at hbs ⊢
  · rw [List.length_singleton, Nat.add_comm]
  · rwa [List.length_nil, Nat.zero_add]

/-- An unfinished character adds at most one piece. -/
theorem length_pieces_le {pending : Option Pending} (h : OnlyTails pending) (bs : List UInt8) :
    (pieces pending bs).length ≤ (pieces none bs).length + 1 := by
  induction bs generalizing pending with
  | nil => cases pending <;> simp [pieces]
  | cons b bs ih =>
    cases pending with
    | none => exact Nat.le_succ _
    | some p =>
      by_cases hb : p.low ≤ b ∧ b ≤ p.high
      · have hcons := length_pieces_cons_of_continues hb (ih (h.feed b))
        rw [pieces_none_of_continues h hb, List.length_cons]
        exact Nat.le_succ_of_le hcons
      · have hnot : ¬ Continues (some p) (b :: bs) := hb
        rw [pieces_of_not_continues hnot, List.length_append, Nat.add_comm]
        exact Nat.le_refl _

/-- Bytes that go on with the unfinished character make fewer pieces than on their own. -/
theorem length_pieces_lt_of_continues {pending : Option Pending} (h : OnlyTails pending)
    {bs : List UInt8} (hbs : Continues pending bs) :
    (pieces pending bs).length < (pieces pending []).length + (pieces none bs).length := by
  match pending, bs, hbs with
  | some p, b :: bs, hb =>
    have hcons := length_pieces_cons_of_continues hb (length_pieces_le (h.feed b) bs)
    have hend : (pieces (some p) []).length = 1 := rfl
    rw [hend, pieces_none_of_continues h hb, List.length_cons]
    omega

/-! ## Reads -/

/-- The pieces of reads, each of them read on its own. -/
def piecesOfReads (reads : List (List UInt8)) : List Piece :=
  reads.flatMap (pieces none)

theorem piecesOfReads_cons (r : List UInt8) (reads : List (List UInt8)) :
    piecesOfReads (r :: reads) = pieces none r ++ piecesOfReads reads :=
  List.flatMap_cons

theorem toList_decodeReads (reads : List (List UInt8)) :
    (decodeReads reads).toList = (piecesOfReads reads).map Piece.shown := by
  rw [decodeReads, String.toList_ofList, piecesOfReads, List.map_flatMap]

theorem toList_decodeLossy (bs : List UInt8) :
    (decodeLossy bs).toList = (pieces none bs).map Piece.shown := by
  rw [decodeLossy, String.toList_ofList]

/-- No cut goes through a character: what follows a read never goes on with the character that
the read leaves unfinished. -/
def KeepsCharacters : List (List UInt8) → Prop
  | [] => True
  | r :: reads => ¬ Continues (unfinished none r) reads.flatten ∧ KeepsCharacters reads

/-- The first of several reads, and the bytes of the others after what it leaves
unfinished. -/
theorem length_pieces_flatten_cons (r : List UInt8) (reads : List (List UInt8)) :
    (pieces none (r :: reads).flatten).length + (pieces (unfinished none r) []).length =
      (pieces none r).length + (pieces (unfinished none r) reads.flatten).length := by
  rw [List.flatten_cons, pieces_append, pieces_eq_completed none r]
  simp only [List.length_append]
  omega

/-- Reading in several reads never makes fewer pieces. -/
theorem length_pieces_flatten_le (reads : List (List UInt8)) :
    (pieces none reads.flatten).length ≤ (piecesOfReads reads).length := by
  induction reads with
  | nil => exact Nat.le_refl _
  | cons r reads ih =>
    have htails := onlyTails_none.unfinished r
    have hcons := length_pieces_flatten_cons r reads
    have hfirst : (pieces (unfinished none r) reads.flatten).length ≤
        (pieces (unfinished none r) []).length + (pieces none reads.flatten).length := by
      by_cases hcut : Continues (unfinished none r) reads.flatten
      · exact Nat.le_of_lt (length_pieces_lt_of_continues htails hcut)
      · rw [pieces_of_not_continues hcut, List.length_append]
    rw [piecesOfReads_cons, List.length_append]
    omega

/-- Reads that cut no character give the pieces of all the bytes. -/
theorem piecesOfReads_of_keepsCharacters {reads : List (List UInt8)}
    (h : KeepsCharacters reads) : piecesOfReads reads = pieces none reads.flatten := by
  induction reads with
  | nil => rfl
  | cons r reads ih =>
    obtain ⟨hcut, hrest⟩ := h
    rw [piecesOfReads_cons, ih hrest, List.flatten_cons, pieces_append,
      pieces_of_not_continues hcut, pieces_eq_completed none r, List.append_assoc]

/-- Reads with as many pieces as all the bytes cut no character. -/
theorem keepsCharacters_of_length {reads : List (List UInt8)}
    (h : (piecesOfReads reads).length = (pieces none reads.flatten).length) :
    KeepsCharacters reads := by
  induction reads with
  | nil => trivial
  | cons r reads ih =>
    have htails := onlyTails_none.unfinished r
    have hcons := length_pieces_flatten_cons r reads
    have hle := length_pieces_flatten_le reads
    rw [piecesOfReads_cons, List.length_append] at h
    have hcut : ¬ Continues (unfinished none r) reads.flatten := by
      intro hcut
      have hlt := length_pieces_lt_of_continues htails hcut
      omega
    rw [pieces_of_not_continues hcut, List.length_append] at hcons
    exact ⟨hcut, ih (by omega)⟩

/-- Reading in several reads never makes the text shorter. -/
theorem length_decodeLossy_le (reads : List (List UInt8)) :
    (decodeLossy reads.flatten).length ≤ (decodeReads reads).length := by
  rw [← String.length_toList, ← String.length_toList, toList_decodeLossy, toList_decodeReads,
    List.length_map, List.length_map]
  exact length_pieces_flatten_le reads

/-- What is kept is the text of all the bytes exactly when no cut goes through a character. -/
theorem decodeReads_eq_decodeLossy_iff {reads : List (List UInt8)} :
    decodeReads reads = decodeLossy reads.flatten ↔ KeepsCharacters reads := by
  rw [← String.toList_inj, toList_decodeReads, toList_decodeLossy]
  constructor
  · intro h
    have hlength := congrArg List.length h
    rw [List.length_map, List.length_map] at hlength
    exact keepsCharacters_of_length hlength
  · intro h
    rw [piecesOfReads_of_keepsCharacters h]

/-- Bytes are a text when none of their pieces is broken. -/
theorem isSome_decode?_iff {bs : List UInt8} :
    (decode? bs).isSome ↔ .broken ∉ pieces none bs := by
  constructor
  · intro h
    obtain ⟨text, htext⟩ := Option.isSome_iff_exists.1 h
    rw [decode?_eq_some_iff.1 htext]
    simp
  · intro h
    have hscalar : ∀ p ∈ pieces none bs, ∃ c, Piece.scalar c = p := by
      intro p hp
      cases p with
      | scalar c => exact ⟨c, rfl⟩
      | broken => exact absurd hp h
    obtain ⟨cs, hcs⟩ : pieces none bs ∈ Set.range (List.map Piece.scalar) := by
      rw [Set.range_list_map]
      exact hscalar
    have htext : decode? bs = some (String.ofList cs) := by
      rw [decode?_eq_some_iff, String.toList_ofList, hcs]
    rw [htext]
    rfl

/-- The bytes of a text are kept as that text exactly when every read is a text by itself. -/
theorem decodeReads_eq_text_iff {reads : List (List UInt8)} {text : String}
    (htext : reads.flatten = encode text) :
    decodeReads reads = text ↔ ∀ r ∈ reads, (decode? r).isSome := by
  have hpieces : pieces none reads.flatten = text.toList.map .scalar := by
    rw [htext]
    exact decode?_eq_some_iff.1 (decode?_encode text)
  have hlossy : decodeLossy reads.flatten = text := by
    rw [← String.toList_inj, toList_decodeLossy, hpieces, List.map_map]
    exact List.map_id _
  simp only [isSome_decode?_iff]
  constructor
  · intro h r hr hbroken
    have hkeeps := decodeReads_eq_decodeLossy_iff.1 (h.trans hlossy.symm)
    have hmem : .broken ∈ piecesOfReads reads := List.mem_flatMap.2 ⟨r, hr, hbroken⟩
    rw [piecesOfReads_of_keepsCharacters hkeeps, hpieces] at hmem
    simp at hmem
  · intro h
    have hflatten : piecesOfReads reads = pieces none reads.flatten := by
      clear hpieces hlossy htext
      induction reads with
      | nil => rfl
      | cons r reads ih =>
        rw [List.forall_mem_cons] at h
        rw [piecesOfReads_cons, List.flatten_cons, pieces_append_of_whole h.1, ih h.2]
    rw [← hlossy, ← String.toList_inj, toList_decodeReads, toList_decodeLossy, hflatten]

/-- Bytes below 80 go on with no character. -/
theorem keepsCharacters_of_ascii {reads : List (List UInt8)}
    (h : ∀ b ∈ reads.flatten, b.toNat < 0x80) : KeepsCharacters reads := by
  induction reads with
  | nil => trivial
  | cons r reads ih =>
    rw [List.flatten_cons, List.forall_mem_append] at h
    have hrefuses := (onlyTails_none.unfinished r).refusesAscii
    refine ⟨?_, ih h.2⟩
    match hpending : unfinished none r, hbytes : reads.flatten with
    | none, _ => exact id
    | some p, [] => exact id
    | some p, b :: bs =>
      have hlow := hrefuses p hpending
      have hb := h.2 b (by rw [hbytes]; exact List.mem_cons_self)
      rintro ⟨hle, -⟩
      rw [UInt8.le_iff_toNat_le] at hle
      omega

end Utf8
end Text

/-! ## The diagnostics of a session -/

/-- The diagnostics of a session are kept read by read. -/
theorem Output.diagnostics_eq_iff (o : Output) :
    o.diagnostics = Text.Utf8.decodeLossy o.stderr ↔
      Text.Utf8.KeepsCharacters (inReads readSize o.stderr) := by
  have hreads : (inReads readSize o.stderr).flatten = o.stderr :=
    (readsOf_inReads (by decide) o.stderr).flatten_eq
  rw [← Text.Utf8.decodeReads_eq_decodeLossy_iff, hreads]
  rfl

/-! ## Failed runs -/

namespace Session

open Text.Utf8

/-- The last item of a run that is accepted and exits with another code than zero carries the
diagnostics that were kept. -/
theorem getLast?_streamAlong_of_exit {s : Session} {tool : Tool} {system : String}
    {messages : List Message} {history : List Run} {prompt : Prompt} {output : Output}
    {course : Output → Course} {code : Int} {stderr : String}
    (hauth : (s.authorize tool history).1 = .ok ())
    (hprompt : Prompt.build system messages = .ok prompt)
    (hran : tool (s.authorize tool history).2 (s.request prompt).launch = .ran output)
    (hcalm : (course output).Calm code stderr)
    (haccepted : ∀ event ∈ output.events, Event.check event = .ok ()) (hcode : code ≠ 0) :
    (s.streamAlong course tool system messages history).1.getLast? =
      some (.error (.processExit code stderr)) := by
  rw [streamAlong_of_ran hauth hprompt hran hcalm, itemsOfEvents_of_accepted haccepted,
    exitFailure?, if_neg hcode]
  simp

/-- The diagnostics of a run, in whatever reads they arrive.  They are kept as the text of all
their bytes exactly when no cut between two reads goes through a character; a text is kept as
it is exactly when every read is a text by itself, and bytes below 80 always are.  Otherwise
the text that is kept is longer, never shorter.  It is the text that a run which exits with
another code than zero is reported with, and so the report has the text of all the bytes that
the run wrote exactly when no cut goes through a character. -/
theorem diagnostics_of_reads (reads : List (List UInt8)) :
    (decodeReads reads = decodeLossy reads.flatten ↔ KeepsCharacters reads) ∧
    (∀ text, reads.flatten = encode text →
      (decodeReads reads = text ↔ ∀ r ∈ reads, (decode? r).isSome)) ∧
    ((∀ b ∈ reads.flatten, b.toNat < 0x80) → decodeReads reads = decodeLossy reads.flatten) ∧
    (decodeLossy reads.flatten).length ≤ (decodeReads reads).length ∧
    (∀ (s : Session) (tool : Tool) (system : String) (messages : List Message)
      (history : List Run) (prompt : Prompt) (output : Output) (course : Output → Course)
      (code : Int), (s.authorize tool history).1 = .ok () →
      Prompt.build system messages = .ok prompt →
      tool (s.authorize tool history).2 (s.request prompt).launch = .ran output →
      output.stderr = reads.flatten → (course output).Calm code (decodeReads reads) →
      (∀ event ∈ output.events, Event.check event = .ok ()) → code ≠ 0 →
      (s.streamAlong course tool system messages history).1.getLast? =
        some (.error (.processExit code (decodeReads reads))) ∧
      ((s.streamAlong course tool system messages history).1.getLast? =
        some (.error (.processExit code (decodeLossy output.stderr))) ↔
          KeepsCharacters reads)) := by
  refine ⟨decodeReads_eq_decodeLossy_iff, fun _ => decodeReads_eq_text_iff, ?_,
    length_decodeLossy_le reads, ?_⟩
  · intro h
    exact decodeReads_eq_decodeLossy_iff.2 (keepsCharacters_of_ascii h)
  · intro s tool system messages history prompt output course code hauth hprompt hran hreads
      hcalm haccepted hcode
    have hlast := getLast?_streamAlong_of_exit hauth hprompt hran hcalm haccepted hcode
    refine ⟨hlast, ?_⟩
    rw [hlast, hreads, ← decodeReads_eq_decodeLossy_iff]
    simp

/-- The two bytes of an accented letter in two reads: the run fails with two replacement
characters in its diagnostics, where reads that keep the letter whole give the letter. -/
theorem diagnostics_of_reads_of_cut_letter :
    let cut : List (List UInt8) := [[0x61, 0xC3], [0xA9]]
    let whole : List (List UInt8) := [[0x61], [0xC3, 0xA9]]
    let o : Output := ⟨[], [0x61, 0xC3, 0xA9], .exited 3⟩
    let course : Output → Course := fun _ _ =>
      ⟨.running, .running, .exited 3, decodeReads cut⟩
    let s : Session := ⟨{ authMode := .apiKey }, ⟨"m", .unknown "m"⟩⟩
    (s.streamAlong course (fun _ _ => .ran o) "" [] []).1.getLast? =
        some (.error (.processExit 3 "a\uFFFD\uFFFD")) ∧
      ¬ KeepsCharacters cut ∧ decodeReads whole = "a\u00e9" := by
  intro cut whole o course s
  obtain ⟨prompt, hprompt⟩ : ∃ prompt, Prompt.build "" [] = .ok prompt := ⟨_, rfl⟩
  have hkept : decodeReads cut = "a\uFFFD\uFFFD" := by decide
  obtain ⟨hiff, -, -, -, hsession⟩ := diagnostics_of_reads cut
  obtain ⟨-, htext, -⟩ := diagnostics_of_reads whole
  have hcalm : (course o).Calm 3 (decodeReads cut) :=
    ⟨fun _ => rfl, fun _ => rfl, fun _ => rfl, fun _ => rfl⟩
  refine ⟨?_, ?_, ?_⟩
  · rw [← hkept]
    exact (hsession s _ "" [] [] prompt o course 3 rfl hprompt rfl rfl hcalm nofun (by decide)).1
  · rw [← hiff, hkept]
    decide
  · exact (htext "a\u00e9" (by decide)).2 (by decide)

/-- As many letters as one read holds less one, and an accented letter behind them: the
diagnostics of the run are not the text of its bytes, and so not every cut gives that text. -/
theorem diagnostics_ne_of_cut_letter :
    let o : Output := ⟨[], List.replicate 4095 0x61 ++ [0xC3, 0xA9], .exited 1⟩
    decode? o.stderr = some (String.ofList (List.replicate 4095 'a' ++ ['\u00e9'])) ∧
      o.diagnostics ≠ decodeLossy o.stderr ∧
      ¬ ∀ reads, decodeReads reads = decodeLossy reads.flatten := by
  intro o
  have hletter : String.utf8EncodeChar 'a' = [0x61] := by decide
  have haccented : String.utf8EncodeChar '\u00e9' = [0xC3, 0xA9] := by decide
  have hencode : o.stderr = encode (String.ofList (List.replicate 4095 'a' ++ ['\u00e9'])) := by
    rw [encode, String.toList_ofList, List.flatMap_append, List.flatMap_replicate, hletter,
      List.flatten_replicate_singleton, List.flatMap_singleton, haccented]
  have hreads : inReads readSize o.stderr = [List.replicate 4095 0x61 ++ [0xC3], [0xA9]] := by
    have hfull : (List.replicate 4095 (0x61 : UInt8) ++ [0xC3]).length = readSize := by
      rw [List.length_append, List.length_replicate]
      rfl
    have hsplit : o.stderr = (List.replicate 4095 0x61 ++ [0xC3]) ++ [0xA9] := by
      rw [List.append_assoc]
      rfl
    rw [hsplit, inReads_append (by decide) hfull]
    rfl
  have hpending : unfinished none (List.replicate 4095 0x61 ++ [0xC3]) =
      some ⟨1, 0x80, 0xBF, 3⟩ := by
    have hletters : ∀ n, unfinished none (List.replicate n 0x61) = none := by
      intro n
      induction n with
      | zero => rfl
      | succ n ih => exact ih
    rw [unfinished_append, hletters]
    decide
  have hcut : ¬ KeepsCharacters (inReads readSize o.stderr) := by
    rw [hreads]
    rintro ⟨hnot, -⟩
    rw [hpending] at hnot
    exact hnot (by simp [Continues])
  have hne : o.diagnostics ≠ decodeLossy o.stderr := fun h => hcut (o.diagnostics_eq_iff.1 h)
  refine ⟨?_, hne, ?_⟩
  · rw [hencode, decode?_encode]
  · intro h
    apply hne
    have hall := h (inReads readSize o.stderr)
    rwa [(readsOf_inReads (by decide) o.stderr).flatten_eq] at hall

end Session
end AgentRelay
