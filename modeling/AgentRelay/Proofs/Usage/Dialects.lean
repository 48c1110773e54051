import AgentRelay.Proofs.JsonOrder
import AgentRelay.Proofs.Usage.Reading
import Mathlib.Data.List.Nodup

/-!
# Dialects of usage objects

A dialect chooses a name for every counter; the count of cached tokens and the reasoning
count can also stand inside the details of the input and of the output.  Whatever the choice,
a usage object that a dialect writes is read back as the counts that were written.  Fields
that are not recognised and the order of the fields never matter.

An input count of zero is made up from the details, so a cached count inside the details
needs an input count beside it.

Main definitions:

- {lit}`Usage.Dialect`: the names that a dialect chooses.
- {lit}`Usage.Dialect.Writes`: a dialect writes counts in a usage object.
- {lit}`Usage.Dialect.entries`: the fields that a dialect writes.

Main results:

- Theorem {lit}`Dialect.writes_object`: every dialect writes all counts, among whatever other
  fields.
- Theorem {lit}`resolve?_of_written`: what a dialect writes is read back.
-/

namespace AgentRelay

namespace Json

/-- Of the fields with the given names an object has one alone, and it holds a value. -/
def HasOnly (j : Json) (names : List String) (name : String) (v : Json) : Prop :=
  j.get? name = some v ∧ ∀ other ∈ names, other ≠ name → j.get? other = none

/-- An object has no field with one of the given names. -/
def Lacks (j : Json) (names : List String) : Prop :=
  ∀ name ∈ names, j.get? name = none

end Json

/-- Where only one place has a result, it is the first one. -/
theorem findSome?_of_only {α β : Type} {f : α → Option β} {l : List α} {a : α} {b : β}
    (hmem : a ∈ l) (ha : f a = some b) (hothers : ∀ other ∈ l, other ≠ a → f other = none) :
    l.findSome? f = some b := by
  induction l with
  | nil => cases hmem
  | cons head l ih =>
    rw [List.forall_mem_cons] at hothers
    rw [List.findSome?_cons]
    by_cases hhead : head = a
    · rw [hhead, ha]
    · rw [hothers.1 hhead]
      have hmem' : a ∈ l := by
        rcases List.mem_cons.1 hmem with heq | hmem'
        · exact absurd heq.symm hhead
        · exact hmem'
      exact ih hmem' hothers.2

namespace Usage

/-! ## Dialects -/

/-- Where a count stands: in a field of its own, or inside a details object. -/
inductive Spot (own details : Slot) where
  | own (name : String) (h : name ∈ own.names)
  | inside (name : String) (h : name ∈ details.names)

/-- A dialect: a name for every counter, each chosen on its own. -/
structure Dialect where
  input : { name // name ∈ Slot.input.names }
  output : { name // name ∈ Slot.output.names }
  cacheWrite : { name // name ∈ Slot.cacheWrite.names }
  cacheRead : Spot .cacheRead .inputDetails
  reasoning : Spot .reasoning .outputDetails

/-- The slot that a count takes up. -/
def Spot.slot {own details : Slot} : Spot own details → Slot
  | .own _ _ => own
  | .inside _ _ => details

/-- The slot that a count leaves free. -/
def Spot.free {own details : Slot} : Spot own details → Slot
  | .own _ _ => details
  | .inside _ _ => own

/-- The count has a field of its own. -/
def Spot.IsOwn {own details : Slot} : Spot own details → Prop
  | .own _ _ => True
  | .inside _ _ => False

/-- A usage object has the count {lit}`n` at its spot and nowhere else: in its own field,
with nothing recognised inside any details; or inside the only details, under the name
{lit}`inner`. -/
def Spot.Writes {own details : Slot} (inner : String) (n : Nat) (usage : Json) :
    Spot own details → Prop
  | .own name _ =>
    usage.HasOnly own.names name (.nat n) ∧
      ∀ other ∈ details.names, ∀ d, usage.getObject? other = some d → d.Lacks details.innerNames
  | .inside name _ =>
    usage.Lacks own.names ∧
      (∃ d, usage.getObject? name = some d ∧ d.HasOnly details.innerNames inner (.nat n)) ∧
      ∀ other ∈ details.names, other ≠ name → usage.getObject? other = none

/-- A dialect writes counts in a usage object: each at its spot, and none of the other
recognised names is there.  Nothing is said of fields that are not recognised. -/
structure Dialect.Writes (d : Dialect) (input output cacheWrite cacheRead reasoning : Nat)
    (usage : Json) : Prop where
  input : usage.HasOnly Slot.input.names d.input (.nat input)
  output : usage.HasOnly Slot.output.names d.output (.nat output)
  cacheWrite : usage.HasOnly Slot.cacheWrite.names d.cacheWrite (.nat cacheWrite)
  cacheRead : d.cacheRead.Writes "cached_tokens" cacheRead usage
  reasoning : d.reasoning.Writes "reasoning_tokens" reasoning usage

/-! ## Reading what was written -/

variable {usage : Json} {names : List String} {name : String} {n : Nat}

/-- A whole number is read as the count that it is. -/
theorem count?_nat (n : Nat) : count? (.nat n) = some n :=
  rfl

theorem countUnder_of_hasOnly (hmem : name ∈ names) (h : usage.HasOnly names name (.nat n)) :
    countUnder usage names = n := by
  have hfirst : names.findSome? (fun name => (usage.get? name).bind count?) = some n := by
    apply findSome?_of_only hmem
    · rw [h.1]
      exact count?_nat n
    · intro other hother hne
      rw [h.2 other hother hne]
      rfl
  rw [countUnder, hfirst]
  rfl

theorem countUnder_of_lacks (h : usage.Lacks names) : countUnder usage names = 0 := by
  have hnone : names.findSome? (fun name => (usage.get? name).bind count?) = none := by
    rw [List.findSome?_eq_none_iff]
    intro name hname
    rw [h name hname]
    rfl
  rw [countUnder, hnone]
  rfl

theorem countIn_of_get? (h : usage.get? name = some (.nat n)) : countIn usage name = n := by
  rw [countIn, h]
  rfl

theorem countIn_of_get?_eq_none (h : usage.get? name = none) : countIn usage name = 0 := by
  rw [countIn, h]
  rfl

/-- The details that are read are those under the only name that holds an object. -/
theorem objectIn?_of_only {details : Json} (hmem : name ∈ names)
    (hdetails : usage.getObject? name = some details)
    (hothers : ∀ other ∈ names, other ≠ name → usage.getObject? other = none) :
    objectIn? usage names = some details :=
  findSome?_of_only hmem hdetails hothers

/-- The details that are read lack what all details lack. -/
theorem lacks_of_objectIn? {details : Json} {inner : List String}
    (h : ∀ name ∈ names, ∀ d, usage.getObject? name = some d → d.Lacks inner)
    (hdetails : objectIn? usage names = some details) : details.Lacks inner := by
  obtain ⟨name, hname, hobject⟩ := List.exists_of_findSome?_eq_some hdetails
  exact h name hname details hobject

/-- Where all details lack everything recognised, nothing is made of the parts of the input. -/
theorem elim_split_of_lacks
    (h : ∀ name ∈ Slot.inputDetails.names, ∀ d, usage.getObject? name = some d →
      d.Lacks Slot.inputDetails.innerNames) {f : Nat × Nat → Nat} (hf : f (0, 0) = 0) :
    (read usage).split.elim 0 f = 0 := by
  cases hdetails : objectIn? usage Slot.inputDetails.names with
  | none =>
    rw [split_of_objectIn?_eq_none hdetails]
    rfl
  | some details =>
    have hlacks := lacks_of_objectIn? h hdetails
    rw [split_of_objectIn? hdetails,
      countIn_of_get?_eq_none (hlacks "cached_tokens" (by decide)),
      countIn_of_get?_eq_none (hlacks "cache_miss_tokens" (by decide)), Option.elim_some, hf]

section CacheRead

variable {spot : Spot .cacheRead .inputDetails} (h : spot.Writes "cached_tokens" n usage)

include h

/-- The cached count is read from its spot. -/
theorem cacheRead_counts_of_writes : (read usage).counts.cacheRead = n := by
  cases spot with
  | own name hname =>
    obtain ⟨hown, hlacks⟩ := h
    have hflat : (read usage).cacheRead = n := countUnder_of_hasOnly hname hown
    simp only [Reading.counts, hflat]
    split
    next hzero =>
      rw [hzero]
      exact elim_split_of_lacks hlacks rfl
    next => rfl
  | inside name hname =>
    obtain ⟨hlacks, ⟨details, hdetails, hinner⟩, hothers⟩ := h
    have hflat : (read usage).cacheRead = 0 := countUnder_of_lacks hlacks
    have hsplit := split_of_objectIn? (objectIn?_of_only hname hdetails hothers)
    simp only [Reading.counts, hflat, if_true, hsplit, Option.elim_some,
      countIn_of_get? hinner.1]

/-- An input count is kept, when it is not zero or the cached count has a field of its
own. -/
theorem input_counts_of_writes {m : Nat} (hinput : (read usage).input = m)
    (hm : 0 < m ∨ spot.IsOwn) : (read usage).counts.input = m := by
  simp only [Reading.counts, hinput]
  split
  next hzero =>
    cases spot with
    | inside => simp [hzero, Spot.IsOwn] at hm
    | own name hname =>
      rw [hzero]
      exact elim_split_of_lacks h.2 rfl
  next => rfl

end CacheRead

/-- The reasoning count is read from its spot. -/
theorem reasoning_counts_of_writes {spot : Spot .reasoning .outputDetails}
    (h : spot.Writes "reasoning_tokens" n usage) : (read usage).counts.reasoning = some n := by
  cases spot with
  | own name hname =>
    obtain rfl : name = "reasoning_output_tokens" := List.mem_singleton.1 hname
    obtain ⟨hown, hlacks⟩ := h
    simp only [Reading.counts, read, hown.1, Option.bind_some, count?_nat]
    cases hdetails : objectIn? usage Slot.outputDetails.names with
    | none => rfl
    | some details =>
      rw [Option.bind_some, lacks_of_objectIn? hlacks hdetails _ (by decide)]
      rfl
  | inside name hname =>
    obtain ⟨-, ⟨details, hdetails, hinner⟩, hothers⟩ := h
    simp only [Reading.counts, read, objectIn?_of_only hname hdetails hothers, Option.bind_some,
      hinner.1, Option.map_some, count?_nat, Option.getD_some]

/-- A usage object that has a field is an object. -/
theorem Dialect.Writes.isObject {d : Dialect} {a b w c r : Nat} (h : d.Writes a b w c r usage) :
    usage.isObject = true :=
  Json.isObject_of_get? h.input.1

/-- What a dialect writes is read back. -/
theorem Dialect.Writes.resolve?_eq {d : Dialect} {a b w c r : Nat} (h : d.Writes a b w c r usage)
    (ha : 0 < a ∨ d.cacheRead.IsOwn) : resolve? usage = some ⟨a, b, w, c, some r⟩ := by
  have hinput : (read usage).input = a := countUnder_of_hasOnly d.input.2 h.input
  have houtput : (read usage).counts.output = b := countUnder_of_hasOnly d.output.2 h.output
  have hwrite : (read usage).counts.cacheWrite = w :=
    countUnder_of_hasOnly d.cacheWrite.2 h.cacheWrite
  rw [resolve?_eq_counts h.isObject, ← houtput, ← hwrite,
    ← input_counts_of_writes h.cacheRead hinput ha, ← cacheRead_counts_of_writes h.cacheRead,
    ← reasoning_counts_of_writes h.reasoning]

/-! ## Writing a usage object -/

/-- A field of a usage object under one of the names of a slot. -/
structure Entry where
  slot : Slot
  name : { name // name ∈ slot.names }
  value : Json

/-- The field of an entry. -/
def Entry.field (entry : Entry) : String × Json :=
  (entry.name, entry.value)

/-- The entry that holds a count: a count of its own, or details with the count among other
fields. -/
def Spot.entry {own details : Slot} (inner : String) (n : Nat) (extra : List (String × Json)) :
    Spot own details → Entry
  | .own name h => ⟨own, ⟨name, h⟩, .nat n⟩
  | .inside name h => ⟨details, ⟨name, h⟩, .object ((inner, .nat n) :: extra)⟩

/-- The entries that a dialect writes, with other fields inside its details. -/
def Dialect.entries (d : Dialect) (input output cacheWrite cacheRead reasoning : Nat)
    (inputExtra outputExtra : List (String × Json)) : List Entry :=
  [⟨.input, d.input, .nat input⟩, ⟨.output, d.output, .nat output⟩,
    ⟨.cacheWrite, d.cacheWrite, .nat cacheWrite⟩,
    d.cacheRead.entry "cached_tokens" cacheRead inputExtra,
    d.reasoning.entry "reasoning_tokens" reasoning outputExtra]

/-- A usage object with some entries and other fields. -/
def usageObject (entries : List Entry) (extra : List (String × Json)) : Json :=
  .object (entries.map Entry.field ++ extra)

section Entries

variable {entries : List Entry} {extra : List (String × Json)}
  (hextra : ∀ field ∈ extra, ∀ slot : Slot, field.1 ∉ slot.names)

include hextra

/-- Under the names of a slot only the entries count. -/
theorem get?_usageObject {slot : Slot} (hname : name ∈ slot.names) :
    (usageObject entries extra).get? name = (Json.object (entries.map Entry.field)).get? name := by
  have hnone : extra.lookup name = none := by
    apply Json.lookup_eq_none_of_ne
    rintro field hfield rfl
    exact hextra field hfield slot hname
  rw [usageObject, Json.get?_object, Json.get?_object, List.lookup_append, hnone, Option.or_none]

/-- What no entry is named by, the object does not have. -/
theorem get?_usageObject_eq_none {slot : Slot} (hname : name ∈ slot.names)
    (h : ∀ entry ∈ entries, entry.name ≠ name) :
    (usageObject entries extra).get? name = none := by
  rw [get?_usageObject hextra hname, Json.get?_object]
  apply Json.lookup_eq_none_of_ne
  intro field hfield
  obtain ⟨entry, hmem, rfl⟩ := List.mem_map.1 hfield
  exact h entry hmem

theorem lacks_usageObject {slot : Slot} (h : slot ∉ entries.map Entry.slot) :
    (usageObject entries extra).Lacks slot.names := by
  intro name hname
  apply get?_usageObject_eq_none hextra hname
  intro entry hmem
  apply Slot.ne_of_mem_names entry.name.2 hname
  rintro rfl
  exact h (List.mem_map_of_mem hmem)

/-- Of several entries for different slots each is found alone under the names of its
slot. -/
theorem hasOnly_usageObject (hslots : (entries.map Entry.slot).Nodup) {entry : Entry}
    (hentry : entry ∈ entries) :
    (usageObject entries extra).HasOnly entry.slot.names entry.name entry.value := by
  obtain ⟨front, back, rfl⟩ := List.append_of_mem hentry
  rw [List.map_append, List.map_cons, List.nodup_middle, List.nodup_cons, ← List.map_append]
    at hslots
  have hslot (other : Entry) (hother : other ∈ front ++ back) : other.slot ≠ entry.slot := by
    intro heq
    exact hslots.1 (heq ▸ List.mem_map_of_mem hother)
  constructor
  · rw [get?_usageObject hextra entry.name.2, Json.get?_object, List.map_append, List.map_cons,
      List.lookup_append]
    have hfront : (front.map Entry.field).lookup entry.name.1 = none := by
      apply Json.lookup_eq_none_of_ne
      intro field hfield
      obtain ⟨other, hmem, rfl⟩ := List.mem_map.1 hfield
      exact Slot.ne_of_mem_names other.name.2 entry.name.2
        (hslot other (List.mem_append_left back hmem))
    rw [hfront]
    simp [Entry.field]
  · intro name hname hne
    apply get?_usageObject_eq_none hextra hname
    intro other hmem
    by_cases heq : other = entry
    · rw [heq]
      exact hne.symm
    · have hmem' : other ∈ front ++ back := by
        simpa [heq] using hmem
      exact Slot.ne_of_mem_names other.name.2 hname (hslot other hmem')

/-- Usage objects with the same entries have the same recognised fields. -/
theorem sameRecognised_usageObject {extra' : List (String × Json)}
    (hextra' : ∀ field ∈ extra', ∀ slot : Slot, field.1 ∉ slot.names) :
    SameRecognised (usageObject entries extra) (usageObject entries extra') := by
  refine sameRecognised_of_get?_eq rfl ?_
  intro slot name hname
  rw [get?_usageObject hextra hname, get?_usageObject hextra' hname]

end Entries

/-- Details with one recognised count among other fields have that count alone. -/
theorem hasOnly_details {inner : String} {v : Json} {extra : List (String × Json)}
    (hextra : ∀ field ∈ extra, field.1 ∉ names) :
    (Json.object ((inner, v) :: extra)).HasOnly names inner v := by
  constructor
  · simp
  · intro other hother hne
    have hhead : (other == inner) = false := by simpa using hne
    rw [Json.get?_object, List.lookup_cons, hhead]
    apply Json.lookup_eq_none_of_ne
    rintro field hfield rfl
    exact hextra field hfield hother

/-- A usage object with the entry of a count, and none for the slot that the count leaves
free, has that count at its spot. -/
theorem Spot.writes_usageObject {own details : Slot} {spot : Spot own details} {inner : String}
    {entries : List Entry} {extra innerExtra : List (String × Json)}
    (hextra : ∀ field ∈ extra, ∀ slot : Slot, field.1 ∉ slot.names)
    (hinnerExtra : ∀ field ∈ innerExtra, field.1 ∉ details.innerNames)
    (hslots : (entries.map Entry.slot).Nodup) (hfree : spot.free ∉ entries.map Entry.slot)
    (hentry : spot.entry inner n innerExtra ∈ entries) :
    spot.Writes inner n (usageObject entries extra) := by
  have honly := hasOnly_usageObject hextra hslots hentry
  have hlacks := lacks_usageObject hextra hfree
  cases spot with
  | own name hname =>
    refine ⟨honly, ?_⟩
    intro other hother d hd
    rw [Json.getObject?, hlacks other hother] at hd
    cases hd
  | inside name hname =>
    refine ⟨hlacks, ⟨_, Json.getObject?_of_get? honly.1 rfl, hasOnly_details hinnerExtra⟩, ?_⟩
    intro other hother hne
    rw [Json.getObject?, honly.2 other hother hne]
    rfl

section Dialect

variable (d : Dialect) (a b w c r : Nat) (inputExtra outputExtra : List (String × Json))

theorem Dialect.map_slot_entries :
    (d.entries a b w c r inputExtra outputExtra).map Entry.slot =
      [.input, .output, .cacheWrite, d.cacheRead.slot, d.reasoning.slot] := by
  obtain ⟨input, output, cacheWrite, cacheRead, reasoning⟩ := d
  cases cacheRead <;> cases reasoning <;> rfl

/-- A dialect writes no slot twice, and leaves free what its spots leave free. -/
theorem Dialect.nodup_slots :
    [.input, .output, .cacheWrite, d.cacheRead.slot, d.reasoning.slot].Nodup ∧
      d.cacheRead.free ∉ [.input, .output, .cacheWrite, d.cacheRead.slot, d.reasoning.slot] ∧
      d.reasoning.free ∉ [.input, .output, .cacheWrite, d.cacheRead.slot, d.reasoning.slot] := by
  obtain ⟨input, output, cacheWrite, cacheRead, reasoning⟩ := d
  cases cacheRead <;> cases reasoning <;> simp [Spot.slot, Spot.free]

/-- Every dialect writes all counts, among whatever other fields. -/
theorem Dialect.writes_object {extra : List (String × Json)}
    (hextra : ∀ field ∈ extra, ∀ slot : Slot, field.1 ∉ slot.names)
    (hinput : ∀ field ∈ inputExtra, field.1 ∉ Slot.inputDetails.innerNames)
    (houtput : ∀ field ∈ outputExtra, field.1 ∉ Slot.outputDetails.innerNames) :
    d.Writes a b w c r (usageObject (d.entries a b w c r inputExtra outputExtra) extra) := by
  obtain ⟨hnodup, hread, hreasoning⟩ := d.nodup_slots
  rw [← d.map_slot_entries a b w c r inputExtra outputExtra] at hnodup hread hreasoning
  have hentry {entry : Entry} (hmem : entry ∈ d.entries a b w c r inputExtra outputExtra) :=
    hasOnly_usageObject hextra hnodup hmem
  constructor
  · exact hentry (List.mem_cons_self : (⟨.input, d.input, .nat a⟩ : Entry) ∈ _)
  · exact hentry (by simp [Dialect.entries] : (⟨.output, d.output, .nat b⟩ : Entry) ∈ _)
  · exact hentry (by simp [Dialect.entries] : (⟨.cacheWrite, d.cacheWrite, .nat w⟩ : Entry) ∈ _)
  · exact Spot.writes_usageObject hextra hinput hnodup hread (by simp [Dialect.entries])
  · exact Spot.writes_usageObject hextra houtput hnodup hreasoning (by simp [Dialect.entries])

end Dialect

/-! ## Other orders -/

/-- A count is no object, so it has no order. -/
theorem count?_of_reordered {j j' : Json} (h : Json.Reordered j j') : count? j' = count? j := by
  induction h with
  | refl => rfl
  | fields => rfl
  | value => rfl
  | item => rfl
  | trans _ _ ih ih' => rw [ih', ih]

/-- In another order the same values are found to count. -/
theorem map_count?_of_reordered {j j' : Json} (h : Json.Reordered j j') (name : String) :
    (j'.get? name).map count? = (j.get? name).map count? := by
  have hrel := h.rel_get? name
  generalize j.get? name = found at hrel
  generalize j'.get? name = found' at hrel
  cases hrel with
  | none => rfl
  | some hv => exact congrArg some (count?_of_reordered hv)

/-- In another order the same counts are found. -/
theorem bind_count?_of_reordered {j j' : Json} (h : Json.Reordered j j') (name : String) :
    (j'.get? name).bind count? = (j.get? name).bind count? := by
  have hjoin (found : Option Json) : found.bind count? = (found.map count?).join := by
    cases found <;> rfl
  rw [hjoin, hjoin, map_count?_of_reordered h name]

/-- In another order a usage object tells the same. -/
theorem tellSame_of_reordered {usage usage' : Json} (h : Json.Reordered usage usage') :
    TellSame usage usage' where
  isObject := h.isObject_eq
  count := by
    intro slot _ name _
    exact bind_count?_of_reordered h name
  parts := by
    intro name _
    apply rel_imp (h.rel_getObject? name)
    intro details details' hdetails inner _
    exact bind_count?_of_reordered hdetails inner
  innerReasoning := by
    intro name _
    apply rel_imp (h.rel_getObject? name)
    intro details details' hdetails inner _
    exact map_count?_of_reordered hdetails inner

/-! ## What is written is read back -/

/-- Whatever dialect a usage object is written in, its counters are the counts that were
written, provided the input count is not zero or the cached count has a field of its own.
Fields that are not recognised and the order of the fields do not matter, in whatever usage
object. -/
theorem resolve?_of_written :
    (∀ (d : Dialect) (a b w c r : Nat) (usage : Json), d.Writes a b w c r usage →
      (0 < a ∨ d.cacheRead.IsOwn) → resolve? usage = some ⟨a, b, w, c, some r⟩) ∧
    (∀ usage usage' : Json, SameRecognised usage usage' → resolve? usage' = resolve? usage) ∧
    (∀ usage usage' : Json, Json.Reordered usage usage' →
      resolve? usage' = resolve? usage) := by
  refine ⟨?_, ?_, ?_⟩
  · intro d a b w c r usage h ha
    exact h.resolve?_eq ha
  · intro usage usage' h
    exact h.tellSame.resolve?_eq
  · intro usage usage' h
    exact (tellSame_of_reordered h).resolve?_eq

/-- The dialect of chat completions, with a name of its own for what is written to the
cache. -/
def chatDialect : Dialect where
  input := ⟨"prompt_tokens", by decide⟩
  output := ⟨"completion_tokens", by decide⟩
  cacheWrite := ⟨"cache_write_tokens", by decide⟩
  cacheRead := .inside "prompt_tokens_details" (by decide)
  reasoning := .inside "completion_tokens_details" (by decide)

/-- The fields of a chat completion. -/
def chatEntries : List Entry :=
  chatDialect.entries 120 30 5 100 12 [("audio_tokens", .nat 1)] []

/-- A chat completion is read back; and so it is without its total, and backwards. -/
theorem resolve?_chatEntries :
    resolve? (usageObject chatEntries [("total_tokens", .nat 150)]) =
        some ⟨120, 30, 5, 100, some 12⟩ ∧
      resolve? (usageObject chatEntries []) =
        resolve? (usageObject chatEntries [("total_tokens", .nat 150)]) ∧
      resolve? (.object (chatEntries.map Entry.field).reverse) =
        resolve? (.object (chatEntries.map Entry.field)) := by
  have htotal : ∀ field ∈ [("total_tokens", Json.nat 150)], ∀ slot : Slot,
      field.1 ∉ slot.names := by
    simp only [List.forall_mem_singleton]
    intro slot
    cases slot <;> decide
  have hwrites := chatDialect.writes_object 120 30 5 100 12 [("audio_tokens", .nat 1)] []
    htotal (by simp [Slot.innerNames]) (by simp)
  have hsame : SameRecognised (usageObject chatEntries [("total_tokens", .nat 150)])
      (usageObject chatEntries []) := sameRecognised_usageObject htotal (by simp)
  have hreordered : Json.Reordered (.object (chatEntries.map Entry.field))
      (.object (chatEntries.map Entry.field).reverse) :=
    .fields (List.reverse_perm _).symm (by decide)
  exact ⟨resolve?_of_written.1 chatDialect 120 30 5 100 12 _ hwrites (.inl (by decide)),
    resolve?_of_written.2.1 _ _ hsame, resolve?_of_written.2.2 _ _ hreordered⟩

end Usage
end AgentRelay
