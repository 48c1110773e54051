import AgentRelay.Text.Lines
import AgentRelay.Tool.Launch
import AgentRelay.Tool.RunState

/-!
# Reading a run line by line

The output of a running tool is read one line at a time.  The state of the run
is looked at before and after every read, so a reported error is seen before
any output that is still waiting.  Once the output has ended, the final state
decides: nothing more after a clean exit, an error otherwise.  After the end
there is nothing to read.

Main definitions:

- {lit}`Reader.next`: the next line, given what is observed about the run.
- {lit}`Course`: what is observed at the reads of a run, one after another.
- {lit}`Handle`: a run whose output is known, under the hand of a caller.
-/

namespace AgentRelay

/-! ## Reading -/

/-- The output of a run that is still to be read. -/
structure Reader where
  segments : List (List UInt8)
  finished : Bool := false
deriving DecidableEq, Repr

/-- A result of a call for the next line. -/
abbrev LineResult :=
  Except ToolError (Option String)

/-- What is observed about a run during one read: its state before, its state
after, and, if the output has ended, its final state and its diagnostics. -/
structure Observation where
  before : RunState
  after : RunState
  final : RunState
  stderr : String
deriving DecidableEq, Repr

namespace Reader

/-- The first segment that is a line, and the segments after it. -/
def nextLine : List (List UInt8) → Option String × List (List UInt8)
  | [] => (none, [])
  | seg :: rest =>
    match Text.line? seg with
    | some line => (some line, rest)
    | none => nextLine rest

/-- What a run comes to after its output has ended. -/
def outcome (final : RunState) (stderr : String) : Except ToolError Unit :=
  match final with
  | .failed message => .error (.processError message)
  | .exited code => if code = 0 then .ok () else .error (.processExit code stderr)
  | .running => .error (.internal "Codex CLI process finished without an exit status")

/-- The next line of a run, or nothing after a clean end. -/
def next (r : Reader) (o : Observation) : LineResult × Reader :=
  if r.finished then (.ok none, r)
  else
    match o.before.error? with
    | some message => (.error (.processError message), { r with finished := true })
    | none =>
      let (line, rest) := nextLine r.segments
      match o.after.error? with
      | some message => (.error (.processError message), ⟨rest, true⟩)
      | none =>
        match line with
        | some line => (.ok (some line), ⟨rest, false⟩)
        | none => ((outcome o.final o.stderr).map fun _ => none, ⟨rest, true⟩)

@[simp]
theorem nextLine_nil : nextLine [] = (none, []) :=
  rfl

/-- Reading on from a segment that is no line is reading the segments after
it. -/
theorem nextLine_cons_of_line?_eq_none {seg : List UInt8} (h : Text.line? seg = none)
    (rest : List (List UInt8)) : nextLine (seg :: rest) = nextLine rest := by
  simp [nextLine, h]

/-- A segment that is a line is the next line. -/
theorem nextLine_cons_of_line?_eq_some {seg : List UInt8} {line : String}
    (h : Text.line? seg = some line) (rest : List (List UInt8)) :
    nextLine (seg :: rest) = (some line, rest) := by
  simp [nextLine, h]

/-- A line takes at least one segment away. -/
theorem length_lt_of_nextLine {segs rest : List (List UInt8)} {line : String}
    (h : nextLine segs = (some line, rest)) : rest.length < segs.length := by
  induction segs with
  | nil => cases h
  | cons seg segs ih =>
    cases hseg : Text.line? seg with
    | some l =>
      rw [nextLine_cons_of_line?_eq_some hseg] at h
      cases h
      exact Nat.lt_succ_self _
    | none =>
      rw [nextLine_cons_of_line?_eq_none hseg] at h
      exact Nat.lt_succ_of_lt (ih h)

/-- The lines of the segments are the next line and those of the segments after
it. -/
theorem filterMap_line?_of_nextLine {segs rest : List (List UInt8)} {line : Option String}
    (h : nextLine segs = (line, rest)) :
    segs.filterMap Text.line? = line.toList ++ rest.filterMap Text.line? := by
  induction segs with
  | nil =>
    cases h
    rfl
  | cons seg segs ih =>
    cases hseg : Text.line? seg with
    | some l =>
      rw [nextLine_cons_of_line?_eq_some hseg] at h
      cases h
      simp [hseg]
    | none =>
      rw [nextLine_cons_of_line?_eq_none hseg] at h
      simpa [hseg] using ih h

/-- Without a line nothing is left. -/
theorem eq_nil_of_nextLine_none {segs rest : List (List UInt8)}
    (h : nextLine segs = (none, rest)) : rest = [] := by
  induction segs with
  | nil =>
    cases h
    rfl
  | cons seg segs ih =>
    cases hseg : Text.line? seg with
    | some l => simp [nextLine_cons_of_line?_eq_some hseg] at h
    | none =>
      rw [nextLine_cons_of_line?_eq_none hseg] at h
      exact ih h

/-- After the end there is nothing to read. -/
theorem next_of_finished {r : Reader} (h : r.finished = true) (o : Observation) :
    r.next o = (.ok none, r) := by
  simp [next, h]

/-- An error that is seen before the read is the result. -/
theorem next_of_before {r : Reader} {o : Observation} {message : String}
    (hr : r.finished = false) (hb : o.before.error? = some message) :
    r.next o = (.error (.processError message), { r with finished := true }) := by
  simp [next, hr, hb]

/-- An error that is seen after the read is the result, whatever was read. -/
theorem next_of_after {r : Reader} {o : Observation} {message : String}
    (hr : r.finished = false) (hb : o.before.error? = none)
    (ha : o.after.error? = some message) :
    r.next o = (.error (.processError message), ⟨(nextLine r.segments).2, true⟩) := by
  simp [next, hr, hb, ha]

/-- Without an error the next line is the result. -/
theorem next_of_line {r : Reader} {o : Observation} {line : String} {rest : List (List UInt8)}
    (hr : r.finished = false) (hb : o.before.error? = none) (ha : o.after.error? = none)
    (hl : nextLine r.segments = (some line, rest)) :
    r.next o = (.ok (some line), ⟨rest, false⟩) := by
  simp [next, hr, hb, ha, hl]

/-- Without an error the final state decides once there is no line left. -/
theorem next_of_end {r : Reader} {o : Observation} {rest : List (List UInt8)}
    (hr : r.finished = false) (hb : o.before.error? = none) (ha : o.after.error? = none)
    (hl : nextLine r.segments = (none, rest)) :
    r.next o = ((outcome o.final o.stderr).map fun _ => none, ⟨rest, true⟩) := by
  simp [next, hr, hb, ha, hl]

/-- Only a reader that is not finished gives a line, and it is the next one; the
reader goes on from there. -/
theorem next_eq_line {r r' : Reader} {o : Observation} {line : String}
    (h : r.next o = (.ok (some line), r')) :
    r.finished = false ∧ r'.finished = false ∧
      nextLine r.segments = (some line, r'.segments) := by
  cases hr : r.finished with
  | true => simp [next_of_finished hr] at h
  | false =>
    refine ⟨rfl, ?_⟩
    cases hb : o.before.error? with
    | some message => simp [next_of_before hr hb] at h
    | none =>
      cases ha : o.after.error? with
      | some message => simp [next_of_after hr hb ha] at h
      | none =>
        rcases hl : nextLine r.segments with ⟨line?, rest⟩
        cases line? with
        | some l =>
          rw [next_of_line hr hb ha hl] at h
          cases h
          exact ⟨rfl, rfl⟩
        | none =>
          rw [next_of_end hr hb ha hl] at h
          cases ho : outcome o.final o.stderr <;> simp [ho, Except.map] at h

/-- A reader that gives a line has fewer segments left. -/
theorem length_lt_of_next {r r' : Reader} {o : Observation} {line : String}
    (h : r.next o = (.ok (some line), r')) : r'.segments.length < r.segments.length :=
  length_lt_of_nextLine (next_eq_line h).2.2

/-! ## Calls one after another -/

/-- The reader after calls that observed what is given. -/
def afterCalls (r : Reader) (seen : List Observation) : Reader :=
  seen.foldl (fun r o => (r.next o).2) r

/-- The results of calls that observe what is given. -/
def results : Reader → List Observation → List LineResult
  | _, [] => []
  | r, o :: seen => (r.next o).1 :: results (r.next o).2 seen

/-- The line that a call gave. -/
def lineOf? : LineResult → Option String
  | .ok line => line
  | .error _ => none

/-- The lines among results. -/
def linesOf (results : List LineResult) : List String :=
  results.filterMap lineOf?

theorem afterCalls_concat (r : Reader) (seen : List Observation) (o : Observation) :
    r.afterCalls (seen ++ [o]) = ((r.afterCalls seen).next o).2 := by
  simp [afterCalls]

/-- The last call starts from the reader that the calls before it left. -/
theorem results_concat (r : Reader) (seen : List Observation) (o : Observation) :
    r.results (seen ++ [o]) = r.results seen ++ [((r.afterCalls seen).next o).1] := by
  induction seen generalizing r with
  | nil => rfl
  | cons first seen ih => simp [results, afterCalls, ih]

/-- A call that gives no line is the last one that could have. -/
theorem finished_of_next {r r' : Reader} {o : Observation} {result : LineResult}
    (h : r.next o = (result, r')) (hline : lineOf? result = none) :
    r'.finished = true := by
  cases hr : r.finished with
  | true =>
    rw [next_of_finished hr] at h
    cases h
    exact hr
  | false =>
    cases hb : o.before.error? with
    | some message =>
      rw [next_of_before hr hb] at h
      cases h
      rfl
    | none =>
      cases ha : o.after.error? with
      | some message =>
        rw [next_of_after hr hb ha] at h
        cases h
        rfl
      | none =>
        rcases hl : nextLine r.segments with ⟨line?, rest⟩
        cases line? with
        | some line =>
          rw [next_of_line hr hb ha hl] at h
          cases h
          cases hline
        | none =>
          rw [next_of_end hr hb ha hl] at h
          cases h
          rfl

/-- After the end no call gives a line. -/
theorem linesOf_results_of_finished {r : Reader} (h : r.finished = true)
    (seen : List Observation) : linesOf (r.results seen) = [] := by
  induction seen with
  | nil => rfl
  | cons o seen ih =>
    rw [results, next_of_finished h]
    exact ih

/-- The calls give lines of the output in their order, from its first line on. -/
theorem linesOf_results_prefix (r : Reader) (seen : List Observation) :
    linesOf (r.results seen) <+: r.segments.filterMap Text.line? := by
  induction seen generalizing r with
  | nil => exact List.nil_prefix
  | cons o seen ih =>
    rcases hnext : r.next o with ⟨result, r'⟩
    rw [results, hnext]
    cases hline : lineOf? result with
    | none =>
      -- The call was the last that could have given a line.
      have hrest := linesOf_results_of_finished (finished_of_next hnext hline) seen
      have hnone : linesOf (result :: r'.results seen) = [] := by
        rw [linesOf, List.filterMap_cons_none hline]
        exact hrest
      rw [hnone]
      exact List.nil_prefix
    | some line =>
      have hresult : result = .ok (some line) := by
        cases result with
        | error e => cases hline
        | ok line? => exact congrArg Except.ok hline
      subst hresult
      obtain ⟨-, -, hsegs⟩ := next_eq_line hnext
      rw [filterMap_line?_of_nextLine hsegs]
      exact (List.prefix_cons_inj line).2 (ih r')

end Reader

/-! ## Courses -/

/-- What is observed at the reads of a run, one read after another. -/
abbrev Course :=
  Nat → Observation

/-- What is observed from the second read on. -/
def Course.later (seen : Course) : Course := fun n =>
  seen (n + 1)

/-! ## Diagnostics -/

/-- How many bytes of diagnostics are read at once. -/
def readSize : Nat :=
  4096

/-- A byte string in reads of a given size, the last one shorter. -/
def inReads (size : Nat) (bytes : List UInt8) : List (List UInt8) :=
  (List.range ((bytes.length + size - 1) / size)).map fun k => (bytes.drop (k * size)).take size

/-- Byte strings are reads of some bytes: nothing is lost or added, and every read
gets at least one byte and at most as many as fit. -/
structure ReadsOf (size : Nat) (bytes : List UInt8) (reads : List (List UInt8)) : Prop where
  flatten_eq : reads.flatten = bytes
  ne_nil : ∀ r ∈ reads, r ≠ []
  length_le : ∀ r ∈ reads, r.length ≤ size

section InReads

variable {size : Nat} {bs : List UInt8}

theorem inReads_nil (h : 0 < size) : inReads size [] = [] := by
  have hcount : (([] : List UInt8).length + size - 1) / size = 0 :=
    Nat.div_eq_of_lt (by rw [List.length_nil]; omega)
  rw [inReads, hcount]
  rfl

/-- The first read takes as many bytes as fit. -/
theorem inReads_of_ne_nil (h : 0 < size) (hbs : bs ≠ []) :
    inReads size bs = bs.take size :: inReads size (bs.drop size) := by
  have hlength : 0 < bs.length := List.length_pos_iff.2 hbs
  have hcount : (bs.length + size - 1) / size = (bs.length - size + size - 1) / size + 1 := by
    rcases Nat.lt_or_ge bs.length size with hlt | hge
    · rw [Nat.sub_eq_zero_of_le (Nat.le_of_lt hlt), Nat.div_eq_of_lt (a := 0 + size - 1) (by omega)]
      rw [show bs.length + size - 1 = bs.length - 1 + size by omega, Nat.add_div_right _ h,
        Nat.div_eq_of_lt (by omega)]
    · rw [show bs.length + size - 1 = bs.length - size + size - 1 + size by omega,
        Nat.add_div_right _ h]
  unfold inReads
  rw [hcount, List.range_succ_eq_map, List.map_cons, List.map_map, List.length_drop]
  congr 1
  · simp
  · apply List.map_congr_left
    intro k _
    simp [Nat.succ_mul, Nat.add_comm]

/-- As many bytes as fit are a read of their own. -/
theorem inReads_append {cs : List UInt8} (h : 0 < size) (hbs : bs.length = size) :
    inReads size (bs ++ cs) = bs :: inReads size cs := by
  have hne : bs ++ cs ≠ [] := by
    rw [← List.length_pos_iff, List.length_append]
    omega
  rw [inReads_of_ne_nil h hne, List.take_left' hbs, List.drop_left' hbs]

/-- One more read in front. -/
theorem ReadsOf.cons {reads : List (List UInt8)} {r : List UInt8} (h : ReadsOf size bs reads)
    (hne : r ≠ []) (hlength : r.length ≤ size) : ReadsOf size (r ++ bs) (r :: reads) where
  flatten_eq := by rw [List.flatten_cons, h.flatten_eq]
  ne_nil := List.forall_mem_cons.2 ⟨hne, h.ne_nil⟩
  length_le := List.forall_mem_cons.2 ⟨hlength, h.length_le⟩

/-- A single byte is a single read. -/
theorem ReadsOf.eq_singleton {reads : List (List UInt8)} {b : UInt8}
    (h : ReadsOf size [b] reads) : reads = [[b]] := by
  obtain ⟨hflatten, hne, -⟩ := h
  match reads with
  | [] => cases hflatten
  | [] :: rest => exact absurd rfl (hne [] List.mem_cons_self)
  | (c :: r) :: rest =>
    rw [List.flatten_cons, List.cons_append, List.cons.injEq, List.append_eq_nil_iff] at hflatten
    obtain ⟨rfl, rfl, hrest⟩ := hflatten
    match rest with
    | [] => rfl
    | r :: rest =>
      rw [List.flatten_cons, List.append_eq_nil_iff] at hrest
      exact absurd hrest.1 (hne r (List.mem_cons_of_mem _ List.mem_cons_self))

/-- Bytes in reads of a size are read completely. -/
theorem readsOf_inReads (h : 0 < size) (bs : List UInt8) : ReadsOf size bs (inReads size bs) := by
  induction hn : bs.length using Nat.strongRecOn generalizing bs with
  | _ n ih =>
    by_cases hbs : bs = []
    · rw [hbs, inReads_nil h]
      exact ⟨rfl, List.forall_mem_nil _, List.forall_mem_nil _⟩
    · have hlength : 0 < bs.length := List.length_pos_iff.2 hbs
      have hrest := ih (bs.drop size).length (by rw [List.length_drop]; omega) _ rfl
      have hne : bs.take size ≠ [] := by
        rw [← List.length_pos_iff, List.length_take]
        omega
      have hreads := hrest.cons hne (List.length_take_le size bs)
      rwa [List.take_append_drop, ← inReads_of_ne_nil h hbs] at hreads

end InReads

/-- The diagnostics of a run as they are kept: each read is decoded on its
own. -/
def Output.diagnostics (o : Output) : String :=
  Text.Utf8.decodeReads (inReads readSize o.stderr)

/-- The reader of an output from its beginning. -/
def Output.reader (o : Output) : Reader :=
  ⟨Text.segments o.stdout, false⟩

/-- The course of a run about which nothing is reported but its exit. -/
def Output.calm (o : Output) : Course := fun _ =>
  ⟨.running, .running, .exited o.ending.code, o.diagnostics⟩

/-! ## A run under the hand of a caller -/

/-- A run whose output is known: what is still to be read of it, and what is
known about it so far. -/
structure Handle where
  output : Output
  reader : Reader
  state : RunState := .running
deriving DecidableEq, Repr

namespace Handle

/-- A run that has just begun. -/
def ofOutput (o : Output) : Handle where
  output := o
  reader := o.reader

/-- The state that the run comes to.  Waiting for the end of a lingering run is
waiting for it to be killed. -/
def finalState (h : Handle) : RunState :=
  h.state.withExit h.output.ending.code

/-- Reads the next line. -/
def next (h : Handle) : Except ToolError (Option String) × Handle :=
  let (result, reader) := h.reader.next ⟨h.state, h.state, h.finalState, h.output.diagnostics⟩
  (result, { h with
    reader := reader
    state := if reader.finished then h.finalState else h.state })

/-- Kills the run.  Only a lingering run is still there to be killed. -/
def kill (h : Handle) : Handle :=
  if h.output.ending = .lingering then { h with output.ending := .signalled } else h

/-- The diagnostics of the run. -/
def stderr (h : Handle) : String :=
  h.output.diagnostics

end Handle
end AgentRelay
