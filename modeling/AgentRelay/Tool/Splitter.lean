import AgentRelay.Tool.Reader
import Mathlib.Data.List.TakeWhile

/-!
# Output that is cut while it arrives

The output of a running tool is not there at once.  A splitter takes one segment
after another off it, and all that is relied on is what it takes off: the part
before the next newline, and at the end what is left.  {lit}`Reader` is given all
segments at once; a reader over a splitter goes through the same steps.

A splitter of the usual kind waits for reads of any length.  It takes a segment
off at its newline; while the bytes that have arrived hold none, they are kept
and the next read is awaited.

Main definitions:

- {lit}`Splitter`: anything that takes segments off an output.
- {lit}`SplitReader.next`: the next line, given what is observed about the run.
- {lit}`Incoming.splitter`: the splitter of output that arrives in reads.
-/

namespace AgentRelay

open Text (newline)

/-! ## Splitters -/

/-- What is taken off bytes, and what is left of them: the part before the first
newline, or all bytes when there is no newline, or nothing when there are no
bytes. -/
inductive Takes (bytes : List UInt8) : Option (List UInt8) → List UInt8 → Prop where
  | line {seg rest : List UInt8} (h : bytes = seg ++ newline :: rest) (hseg : newline ∉ seg) :
      Takes bytes (some seg) rest
  | last (hne : bytes ≠ []) (h : newline ∉ bytes) : Takes bytes (some bytes) []
  | nothing (h : bytes = []) : Takes bytes none []

/-- A segment takes at least one byte away. -/
theorem Takes.length_lt {bytes seg rest : List UInt8} (h : Takes bytes (some seg) rest) :
    rest.length < bytes.length := by
  cases h with
  | line h =>
    rw [h, List.length_append, List.length_cons]
    omega
  | last hne => exact List.length_pos_iff.2 hne

/-- Anything that takes segments off an output.  In each of its states some bytes
are still to be taken, whether they have arrived or not. -/
structure Splitter where
  State : Type
  bytes : State → List UInt8
  next : State → Option (List UInt8) × State
  takes : ∀ s, Takes (bytes s) (next s).1 (bytes (next s).2)

namespace Splitter

theorem length_lt_of_next {S : Splitter} {s rest : S.State} {seg : List UInt8}
    (h : S.next s = (some seg, rest)) : (S.bytes rest).length < (S.bytes s).length := by
  have htakes := S.takes s
  rw [h] at htakes
  exact htakes.length_lt

/-- Takes the next segment that is a line, and passes over those before it. -/
def nextLine (S : Splitter) (s : S.State) : Option String × S.State :=
  match h : S.next s with
  | (none, rest) => (none, rest)
  | (some seg, rest) =>
    match Text.line? seg with
    | some line => (some line, rest)
    | none =>
      have := length_lt_of_next h
      S.nextLine rest
termination_by (S.bytes s).length

end Splitter

/-! ## Reading -/

/-- The output of a run that is still to be read, under the hand of a splitter. -/
structure SplitReader (S : Splitter) where
  source : S.State
  finished : Bool := false

namespace SplitReader

variable {S : Splitter}

/-- The next line of a run, or nothing after a clean end. -/
def next (r : SplitReader S) (o : Observation) : LineResult × SplitReader S :=
  if r.finished then (.ok none, r)
  else
    match o.before.error? with
    | some message => (.error (.processError message), { r with finished := true })
    | none =>
      let (line, rest) := S.nextLine r.source
      match o.after.error? with
      | some message => (.error (.processError message), ⟨rest, true⟩)
      | none =>
        match line with
        | some line => (.ok (some line), ⟨rest, false⟩)
        | none => ((Reader.outcome o.final o.stderr).map fun _ => none, ⟨rest, true⟩)

/-- The results of calls that observe what is given. -/
def results : SplitReader S → List Observation → List LineResult
  | _, [] => []
  | r, o :: seen => (r.next o).1 :: results (r.next o).2 seen

end SplitReader

/-! ## Reads -/

/-- Output of which a part has arrived: the bytes that wait to be taken, and the
reads that are still to come. -/
structure Incoming where
  buffered : List UInt8
  reads : List (List UInt8)
deriving DecidableEq, Repr

namespace Incoming

/-- All bytes that are still to be taken, whether they have arrived or not. -/
def bytes (i : Incoming) : List UInt8 :=
  i.buffered ++ i.reads.flatten

/-- Takes the next segment, of which some bytes were kept from earlier reads. -/
def takeSegment (kept buffered : List UInt8) (reads : List (List UInt8)) :
    Option (List UInt8) × Incoming :=
  let kept := kept ++ buffered.takeWhile (· ≠ newline)
  match buffered.dropWhile (· ≠ newline), reads with
  | _ :: rest, reads => (some kept, ⟨rest, reads⟩)
  | [], read :: reads => takeSegment kept read reads
  | [], [] => (if kept = [] then none else some kept, ⟨[], []⟩)

/-- Takes the next segment, if there is one. -/
def nextSegment (i : Incoming) : Option (List UInt8) × Incoming :=
  takeSegment [] i.buffered i.reads

theorem forall_ne_newline {bs : List UInt8} (h : newline ∉ bs) :
    ∀ b ∈ bs, decide (b ≠ newline) = true := by
  intro b hb
  exact decide_eq_true fun heq => h (heq ▸ hb)

/-- A newline that has arrived ends the segment. -/
theorem takeSegment_of_newline {front : List UInt8} (h : newline ∉ front)
    (kept rest : List UInt8) (reads : List (List UInt8)) :
    takeSegment kept (front ++ newline :: rest) reads = (some (kept ++ front), ⟨rest, reads⟩) := by
  have hfront := forall_ne_newline h
  unfold takeSegment
  rw [List.takeWhile_append_of_pos hfront, List.dropWhile_append_of_pos hfront]
  simp

/-- Without a newline all that has arrived is kept: the next read is awaited, and
at the end of the output it is the segment. -/
theorem takeSegment_of_notMem {buffered : List UInt8} (h : newline ∉ buffered)
    (kept : List UInt8) (reads : List (List UInt8)) :
    takeSegment kept buffered reads =
      match reads with
      | read :: reads => takeSegment (kept ++ buffered) read reads
      | [] => (if kept ++ buffered = [] then none else some (kept ++ buffered), ⟨[], []⟩) := by
  have hbuffered := forall_ne_newline h
  rw [takeSegment.eq_def kept buffered reads, List.takeWhile_eq_self_iff.2 hbuffered,
    List.dropWhile_eq_nil_iff.2 hbuffered]
  cases reads <;> rfl

/-- What is taken off is taken off the kept bytes and all bytes behind them. -/
theorem takes_takeSegment {kept : List UInt8} (hkept : newline ∉ kept) (buffered : List UInt8)
    (reads : List (List UInt8)) :
    Takes (kept ++ buffered ++ reads.flatten) (takeSegment kept buffered reads).1
      (takeSegment kept buffered reads).2.bytes := by
  -- The recursion is on the reads: one without a newline is added to the kept bytes.
  by_cases hmem : newline ∈ buffered
  · obtain ⟨front, rest, rfl, hfront⟩ := List.eq_append_cons_of_mem hmem
    rw [takeSegment_of_newline hfront]
    exact .line (by simp [bytes]) (by simp [hkept, hfront])
  · have hall : newline ∉ kept ++ buffered := by simp [hkept, hmem]
    rw [takeSegment_of_notMem hmem]
    cases reads with
    | cons read reads =>
      rw [List.flatten_cons, ← List.append_assoc]
      exact takes_takeSegment hall read reads
    | nil =>
      rw [List.flatten_nil, List.append_nil]
      by_cases hempty : kept ++ buffered = []
      · rw [if_pos hempty]
        exact .nothing hempty
      · rw [if_neg hempty]
        exact .last hempty hall

/-- The splitter of output that arrives in reads: what it takes off does not
depend on the reads. -/
def splitter : Splitter where
  State := Incoming
  bytes := bytes
  next := nextSegment
  takes i := takes_takeSegment List.not_mem_nil i.buffered i.reads

end Incoming
end AgentRelay
