import AgentRelay.Usage.Counts

/-!
# What a usage object tells

The counters of a usage object are settled in two steps.  First its recognised fields are
read: the counts that stand in fields of their own, and those inside the objects that detail
the input and the output.  Then the counters are made of what was read.  Only the second step
makes up an input count that is missing, and only the first one looks at the object; so what
holds of two usage objects that tell the same holds of their counters.

Main definitions:

- {lit}`Usage.Slot`: what a field can be recognised as, with its names.
- {lit}`Usage.Reading` and {lit}`Usage.read`: what is read of a usage object.
- {lit}`Usage.Reading.counts`: the counters that are made of it.
- {lit}`Usage.TellSame`: the same is read of two usage objects.

Main results:

- Theorem {lit}`resolve?_eq_counts`: the counters are those of what is read.
- Theorem {lit}`TellSame.resolve?_eq`: usage objects that tell the same have the same counters.
-/

namespace AgentRelay

/-- The first result is the same where all results are. -/
theorem findSome?_congr {α β : Type} {f g : α → Option β} {l : List α}
    (h : ∀ a ∈ l, f a = g a) : l.findSome? f = l.findSome? g := by
  induction l with
  | nil => rfl
  | cons a l ih =>
    rw [List.forall_mem_cons] at h
    rw [List.findSome?_cons, List.findSome?_cons, h.1, ih h.2]

/-- The first results are related where all results are. -/
theorem rel_findSome? {α β : Type} {R : β → β → Prop} {f g : α → Option β} {l : List α}
    (h : ∀ a ∈ l, Option.Rel R (f a) (g a)) :
    Option.Rel R (l.findSome? f) (l.findSome? g) := by
  induction l with
  | nil => exact .none
  | cons a l ih =>
    rw [List.forall_mem_cons] at h
    obtain ⟨ha, hl⟩ := h
    rw [List.findSome?_cons, List.findSome?_cons]
    generalize f a = result at ha
    generalize g a = result' at ha
    cases ha with
    | none => exact ih hl
    | some hR => exact .some hR

/-- Related results are related in every way that their values are. -/
theorem rel_imp {α β : Type} {R S : α → β → Prop} {o : Option α} {o' : Option β}
    (h : Option.Rel R o o') (hRS : ∀ a b, R a b → S a b) : Option.Rel S o o' := by
  cases h with
  | none => exact .none
  | some hR => exact .some (hRS _ _ hR)

/-- A result is related to itself where every value is. -/
theorem rel_self {α : Type} {R : α → α → Prop} (hR : ∀ a, R a a) (o : Option α) :
    Option.Rel R o o := by
  cases o with
  | none => exact .none
  | some a => exact .some (hR a)

namespace Usage

/-! ## Recognised fields -/

/-- What a field of a usage object can be recognised as: one of the counts, or an object that
details the input or the output. -/
inductive Slot where
  | input
  | output
  | cacheWrite
  | cacheRead
  | reasoning
  | inputDetails
  | outputDetails
deriving DecidableEq, Repr

namespace Slot

/-- The names of a slot, in the order in which they are tried. -/
def names : Slot → List String
  | input => inputNames
  | output => outputNames
  | cacheWrite => cacheWriteNames
  | cacheRead => cacheReadNames
  | reasoning => ["reasoning_output_tokens"]
  | inputDetails => inputDetailNames
  | outputDetails => outputDetailNames

/-- The names of the counts that are recognised inside a details object.  A count has none. -/
def innerNames : Slot → List String
  | inputDetails => ["cached_tokens", "cache_miss_tokens"]
  | outputDetails => ["reasoning_tokens"]
  | _ => []

/-- The slot that a name belongs to. -/
def ofName? (name : String) : Option Slot :=
  [input, output, cacheWrite, cacheRead, reasoning, inputDetails, outputDetails].find?
    fun slot => slot.names.contains name

/-- No name belongs to two slots. -/
theorem ofName?_of_mem_names {slot : Slot} {name : String} (h : name ∈ slot.names) :
    ofName? name = some slot := by
  have hall : ∀ name ∈ slot.names, ofName? name = some slot := by
    cases slot <;> decide
  exact hall name h

theorem ne_of_mem_names {slot slot' : Slot} {name name' : String} (h : name ∈ slot.names)
    (h' : name' ∈ slot'.names) (hne : slot ≠ slot') : name ≠ name' := by
  intro heq
  rw [← heq] at h'
  have hslots : some slot = some slot' := by
    rw [← ofName?_of_mem_names h, ← ofName?_of_mem_names h']
  exact hne (Option.some.inj hslots)

/-- The name of a count is not that of a details object. -/
theorem ne_of_innerNames {slot details : Slot} {name key : String} (hslot : slot.innerNames = [])
    (hname : name ∈ slot.names) (hdetails : details.innerNames ≠ [])
    (hkey : key ∈ details.names) : name ≠ key := by
  apply ne_of_mem_names hname hkey
  rintro rfl
  exact hdetails hslot

end Slot

/-! ## Reading and counting -/

/-- What is read of a usage object, before anything is made up from it. -/
@[ext]
structure Reading where
  input : Nat
  output : Nat
  cacheWrite : Nat
  cacheRead : Nat
  /-- The cached and the missed part of the input, where the input is detailed. -/
  split : Option (Nat × Nat)
  /-- The reasoning count in the details of the output, itself absent when it is no number. -/
  innerReasoning : Option (Option Nat)
  reasoning : Option Nat

/-- What is read of a usage object. -/
def read (usage : Json) : Reading where
  input := countUnder usage Slot.input.names
  output := countUnder usage Slot.output.names
  cacheWrite := countUnder usage Slot.cacheWrite.names
  cacheRead := countUnder usage Slot.cacheRead.names
  split := (objectIn? usage Slot.inputDetails.names).map fun details =>
    (countIn details "cached_tokens", countIn details "cache_miss_tokens")
  innerReasoning := ((objectIn? usage Slot.outputDetails.names).bind
    (·.get? "reasoning_tokens")).map count?
  reasoning := (usage.get? "reasoning_output_tokens").bind count?

/-- The counters that are made of what was read. -/
def Reading.counts (r : Reading) : TokenCounts where
  input := if r.input = 0 then r.split.elim 0 fun parts => Word.add parts.1 parts.2 else r.input
  output := r.output
  cacheWrite := r.cacheWrite
  cacheRead := if r.cacheRead = 0 then r.split.elim 0 Prod.fst else r.cacheRead
  reasoning := r.innerReasoning.getD r.reasoning

/-- The parts of the input are those in the details that are read. -/
theorem split_of_objectIn? {usage details : Json}
    (h : objectIn? usage Slot.inputDetails.names = some details) :
    (read usage).split =
      some (countIn details "cached_tokens", countIn details "cache_miss_tokens") := by
  simp only [read, h, Option.map_some]

theorem split_of_objectIn?_eq_none {usage : Json}
    (h : objectIn? usage Slot.inputDetails.names = none) : (read usage).split = none := by
  simp only [read, h, Option.map_none]

/-- The counters of a usage object are those of what is read of it. -/
theorem resolve?_eq_counts {usage : Json} (h : usage.isObject = true) :
    resolve? usage = some (read usage).counts := by
  have hreasoning (inner flat : Option Json) :
      (inner.or flat).bind count? = (inner.map count?).getD (flat.bind count?) := by
    cases inner <;> rfl
  rw [resolve?, if_pos h]
  simp only [read, Reading.counts, Option.elim_map, hreasoning]
  rfl

/-- Only objects have counters. -/
theorem resolve?_of_not_isObject {usage : Json} (h : usage.isObject = false) :
    resolve? usage = none := by
  rw [resolve?, h]
  rfl

/-! ## Usage objects that tell the same -/

/-- Two objects that detail the input give the same parts. -/
def SameParts (details details' : Json) : Prop :=
  ∀ name ∈ Slot.inputDetails.innerNames,
    (details'.get? name).bind count? = (details.get? name).bind count?

/-- Two objects that detail the output both have a reasoning count, or neither has. -/
def SameReasoning (details details' : Json) : Prop :=
  ∀ name ∈ Slot.outputDetails.innerNames,
    (details'.get? name).map count? = (details.get? name).map count?

theorem SameParts.refl (details : Json) : SameParts details details := by
  intro name _
  rfl

theorem SameReasoning.refl (details : Json) : SameReasoning details details := by
  intro name _
  rfl

/-- The same is read of two values, apart from what the details of the output give. -/
structure TellSameOutside (usage usage' : Json) : Prop where
  isObject : usage'.isObject = usage.isObject
  count : ∀ slot : Slot, slot.innerNames = [] → ∀ name ∈ slot.names,
    (usage'.get? name).bind count? = (usage.get? name).bind count?
  parts : ∀ name ∈ Slot.inputDetails.names,
    Option.Rel SameParts (usage.getObject? name) (usage'.getObject? name)

/-- The same is read of two values: the same counts, and details that give the same. -/
structure TellSame (usage usage' : Json) : Prop extends TellSameOutside usage usage' where
  innerReasoning : ∀ name ∈ Slot.outputDetails.names,
    Option.Rel SameReasoning (usage.getObject? name) (usage'.getObject? name)

section TellSame

variable {usage usage' : Json}

theorem TellSameOutside.countUnder_eq (h : TellSameOutside usage usage') (slot : Slot)
    (hslot : slot.innerNames = []) :
    countUnder usage' slot.names = countUnder usage slot.names := by
  unfold countUnder
  rw [findSome?_congr (h.count slot hslot)]

theorem TellSameOutside.split_eq (h : TellSameOutside usage usage') :
    (read usage').split = (read usage).split := by
  have hrel := rel_findSome? h.parts
  unfold read objectIn?
  generalize Slot.inputDetails.names.findSome? usage.getObject? = details at hrel
  generalize Slot.inputDetails.names.findSome? usage'.getObject? = details' at hrel
  cases hrel with
  | none => rfl
  | some hparts =>
    simp only [Option.map_some, countIn]
    rw [hparts "cached_tokens" (by decide), hparts "cache_miss_tokens" (by decide)]

/-- Only the reasoning count inside the details may be read in another way. -/
theorem TellSameOutside.read_eq (h : TellSameOutside usage usage') :
    read usage' = { read usage with innerReasoning := (read usage').innerReasoning } := by
  apply Reading.ext
  · exact h.countUnder_eq .input rfl
  · exact h.countUnder_eq .output rfl
  · exact h.countUnder_eq .cacheWrite rfl
  · exact h.countUnder_eq .cacheRead rfl
  · exact h.split_eq
  · rfl
  · exact h.count .reasoning rfl "reasoning_output_tokens" (by decide)

theorem TellSame.innerReasoning_eq (h : TellSame usage usage') :
    (read usage').innerReasoning = (read usage).innerReasoning := by
  have hrel := rel_findSome? h.innerReasoning
  unfold read objectIn?
  generalize Slot.outputDetails.names.findSome? usage.getObject? = details at hrel
  generalize Slot.outputDetails.names.findSome? usage'.getObject? = details' at hrel
  cases hrel with
  | none => rfl
  | some hreasoning => exact hreasoning "reasoning_tokens" (by decide)

/-- The same is read of usage objects that tell the same. -/
theorem TellSame.read_eq (h : TellSame usage usage') : read usage' = read usage := by
  rw [h.toTellSameOutside.read_eq, h.innerReasoning_eq]

/-- Usage objects that tell the same have the same counters. -/
theorem TellSame.resolve?_eq (h : TellSame usage usage') : resolve? usage' = resolve? usage := by
  cases hobject : usage.isObject with
  | false =>
    rw [resolve?_of_not_isObject hobject, resolve?_of_not_isObject (h.isObject.trans hobject)]
  | true =>
    rw [resolve?_eq_counts hobject, resolve?_eq_counts (h.isObject.trans hobject), h.read_eq]

end TellSame

/-! ## Unrecognised fields -/

/-- Two details objects have the same recognised counts. -/
def SameInside (slot : Slot) (details details' : Json) : Prop :=
  ∀ name ∈ slot.innerNames, details'.get? name = details.get? name

/-- Two values have the same recognised fields: the same counts, and under each name details
with the same recognised counts inside.  All other fields may differ. -/
structure SameRecognised (usage usage' : Json) : Prop where
  isObject : usage'.isObject = usage.isObject
  count : ∀ slot : Slot, slot.innerNames = [] → ∀ name ∈ slot.names,
    usage'.get? name = usage.get? name
  details : ∀ slot : Slot, slot.innerNames ≠ [] → ∀ name ∈ slot.names,
    Option.Rel (SameInside slot) (usage.getObject? name) (usage'.getObject? name)

/-- Usage objects with the same recognised fields tell the same. -/
theorem SameRecognised.tellSame {usage usage' : Json} (h : SameRecognised usage usage') :
    TellSame usage usage' where
  isObject := h.isObject
  count := by
    intro slot hslot name hname
    rw [h.count slot hslot name hname]
  parts := by
    intro name hname
    apply rel_imp (h.details .inputDetails (by decide) name hname)
    intro details details' hinside inner hinner
    rw [hinside inner hinner]
  innerReasoning := by
    intro name hname
    apply rel_imp (h.details .outputDetails (by decide) name hname)
    intro details details' hinside inner hinner
    rw [hinside inner hinner]

/-- Usage objects with the same values under all recognised names have the same recognised
fields. -/
theorem sameRecognised_of_get?_eq {usage usage' : Json} (hobject : usage'.isObject = usage.isObject)
    (h : ∀ slot : Slot, ∀ name ∈ slot.names, usage'.get? name = usage.get? name) :
    SameRecognised usage usage' where
  isObject := hobject
  count slot _ name hname := h slot name hname
  details := by
    intro slot _ name hname
    rw [Json.getObject?, Json.getObject?, h slot name hname]
    apply rel_self
    intro details inner _
    rfl

end Usage
end AgentRelay
