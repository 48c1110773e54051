import AgentRelay.Proofs.Usage.Reading
import Mathlib.Data.List.Find

/-!
# Usage fields of the wrong kind

A recognised field of a usage object that holds a value of the wrong kind counts as absent: a
count that is no number, or details that are no object, may be removed without changing a
counter.  There is one exception.  A reasoning count inside the details of the output that is
no number hides the reasoning count beside them, and removing it uncovers that one.

Main definitions:

- {lit}`Usage.Place` and {lit}`Usage.Place.remove`: a recognised field, and a usage object
  without it.
- {lit}`Usage.IllTyped`: a recognised field holds a value of the wrong kind.
- {lit}`Usage.Hides`: a field hides the reasoning count beside the details.

Main results:

- Theorem {lit}`resolve?_remove_of_illTyped`: what removing a field of the wrong kind does.
- Theorem {lit}`not_resolve?_remove_of_illTyped`: it does not always leave the counters alone.
-/

namespace AgentRelay

/-! ## Objects with a field removed or changed -/

namespace Json

/-- The value is a number. -/
def isNumber : Json → Bool
  | .number _ => true
  | _ => false

/-- An object without the field of a name. -/
def without (name : String) : Json → Json
  | .object fields => .object (fields.filter fun field => field.1 ≠ name)
  | j => j

/-- An object with the value of a field changed. -/
def modify (name : String) (f : Json → Json) : Json → Json
  | .object fields =>
    .object (fields.map fun field => (field.1, if field.1 = name then f field.2 else field.2))
  | j => j

@[simp]
theorem isObject_without (name : String) (j : Json) : (j.without name).isObject = j.isObject := by
  cases j <;> rfl

@[simp]
theorem isObject_modify (name : String) (f : Json → Json) (j : Json) :
    (j.modify name f).isObject = j.isObject := by
  cases j <;> rfl

/-- A field that was removed is not found. -/
theorem get?_without_self (name : String) (j : Json) : (j.without name).get? name = none := by
  cases j with
  | object fields =>
    rw [without, get?_object]
    apply lookup_eq_none_of_ne
    intro field hfield
    simpa using (List.mem_filter.1 hfield).2
  | _ => rfl

/-- Every other field is found as it was. -/
theorem get?_without_of_ne {name key : String} (h : key ≠ name) (j : Json) :
    (j.without name).get? key = j.get? key := by
  cases j with
  | object fields =>
    rw [without, get?_object, get?_object]
    induction fields with
    | nil => rfl
    | cons field fields ih =>
      by_cases hname : field.1 = name
      · have hkey : (key == field.1) = false := by simpa [hname] using h
        rw [List.filter_cons_of_neg (by simpa using hname), List.lookup_cons, hkey]
        exact ih
      · rw [List.filter_cons_of_pos (by simpa using hname), List.lookup_cons,
          List.lookup_cons, ih]
  | _ => rfl

/-- A field that was changed is found with its new value. -/
theorem get?_modify_self (name : String) (f : Json → Json) (j : Json) :
    (j.modify name f).get? name = (j.get? name).map f := by
  cases j with
  | object fields =>
    rw [modify, get?_object, get?_object]
    induction fields with
    | nil => rfl
    | cons field fields ih =>
      obtain ⟨other, value⟩ := field
      by_cases hname : name = other
      · simp [hname]
      · have hother : (name == other) = false := by simpa using hname
        rw [List.map_cons, List.lookup_cons, List.lookup_cons, hother]
        exact ih
  | _ => rfl

theorem get?_modify_of_ne {name key : String} (h : key ≠ name) (f : Json → Json) (j : Json) :
    (j.modify name f).get? key = j.get? key := by
  cases j with
  | object fields =>
    rw [modify, get?_object, get?_object]
    induction fields with
    | nil => rfl
    | cons field fields ih =>
      obtain ⟨other, value⟩ := field
      rw [List.map_cons, List.lookup_cons, List.lookup_cons, ih]
      by_cases hkey : key = other
      · simp [← hkey, h]
      · have hother : (key == other) = false := by simpa using hkey
        rw [hother]
  | _ => rfl

theorem getObject?_without_of_ne {name key : String} (h : key ≠ name) (j : Json) :
    (j.without name).getObject? key = j.getObject? key := by
  unfold getObject?
  rw [get?_without_of_ne h]

theorem getObject?_modify_of_ne {name key : String} (h : key ≠ name) (f : Json → Json)
    (j : Json) : (j.modify name f).getObject? key = j.getObject? key := by
  unfold getObject?
  rw [get?_modify_of_ne h]

/-- A field that holds an object holds what the object was changed into, if that is one too. -/
theorem getObject?_modify_self {f : Json → Json} (hf : ∀ v, (f v).isObject = v.isObject)
    (name : String) (j : Json) :
    (j.modify name f).getObject? name = (j.getObject? name).map f := by
  unfold getObject?
  rw [get?_modify_self, Option.filter_map, show isObject ∘ f = isObject from funext hf]

end Json

namespace Usage

/-! ## Places of recognised fields -/

/-- A place in a usage object: a field of its own, or a field inside one of its objects. -/
inductive Place where
  | field (name : String)
  | inside (name inner : String)
deriving DecidableEq, Repr

/-- A usage object without the field at a place. -/
def Place.remove : Place → Json → Json
  | .field name, usage => usage.without name
  | .inside name inner, usage => usage.modify name (·.without inner)

/-- A recognised field holds a value of the wrong kind: a count no number, or details no
object. -/
inductive IllTyped (usage : Json) : Place → Prop where
  | count {slot : Slot} {name : String} {v : Json} (hslot : slot.innerNames = [])
      (hname : name ∈ slot.names) (hv : usage.get? name = some v) (hkind : v.isNumber = false) :
      IllTyped usage (.field name)
  | details {slot : Slot} {name : String} {v : Json} (hslot : slot.innerNames ≠ [])
      (hname : name ∈ slot.names) (hv : usage.get? name = some v) (hkind : v.isObject = false) :
      IllTyped usage (.field name)
  | inner {slot : Slot} {name inner : String} {details v : Json} (hname : name ∈ slot.names)
      (hinner : inner ∈ slot.innerNames) (hdetails : usage.getObject? name = some details)
      (hv : details.get? inner = some v) (hkind : v.isNumber = false) :
      IllTyped usage (.inside name inner)

/-- The name of the details object that is read: the first that holds an object. -/
def detailsName? (usage : Json) (slot : Slot) : Option String :=
  slot.names.find? fun name => (usage.getObject? name).isSome

/-- A place hides the reasoning count {lit}`n` that stands beside the details: it is the
reasoning count inside the details that are read. -/
def Hides (usage : Json) (n : Nat) : Place → Prop
  | .field _ => False
  | .inside name inner =>
    inner = "reasoning_tokens" ∧ detailsName? usage .outputDetails = some name ∧
      (usage.get? "reasoning_output_tokens").bind count? = some n

variable {usage usage' : Json} {name inner : String}

/-- What is no number is no count. -/
theorem count?_of_not_isNumber {v : Json} (h : v.isNumber = false) : count? v = none := by
  cases v with
  | number n => cases h
  | _ => rfl

/-! ## One field changed -/

/-- A count in a field of its own that is no number may be removed. -/
theorem tellSame_of_count {slot : Slot} {v : Json} (hslot : slot.innerNames = [])
    (hname : name ∈ slot.names) (hv : usage.get? name = some v) (hkind : v.isNumber = false) :
    TellSame usage (usage.without name) where
  isObject := usage.isObject_without name
  count := by
    intro _ _ key _
    by_cases hkey : key = name
    · rw [hkey, Json.get?_without_self, hv]
      exact (count?_of_not_isNumber hkind).symm
    · rw [Json.get?_without_of_ne hkey]
  parts := by
    intro key hmem
    have hne := Slot.ne_of_innerNames hslot hname (by decide) hmem
    rw [Json.getObject?_without_of_ne hne.symm]
    exact rel_self SameParts.refl _
  innerReasoning := by
    intro key hmem
    have hne := Slot.ne_of_innerNames hslot hname (by decide) hmem
    rw [Json.getObject?_without_of_ne hne.symm]
    exact rel_self SameReasoning.refl _

/-- A details field that holds no object may be removed. -/
theorem tellSame_of_details {slot : Slot} {v : Json} (hslot : slot.innerNames ≠ [])
    (hname : name ∈ slot.names) (hv : usage.get? name = some v) (hkind : v.isObject = false) :
    TellSame usage (usage.without name) := by
  have hobject (key : String) : (usage.without name).getObject? key = usage.getObject? key := by
    by_cases hkey : key = name
    · rw [hkey]
      simp [Json.getObject?, Json.get?_without_self, hv, Option.filter_some, hkind]
    · exact Json.getObject?_without_of_ne hkey usage
  refine { isObject := usage.isObject_without name, count := ?_, parts := ?_, innerReasoning := ?_ }
  · intro other hother key hkey
    rw [Json.get?_without_of_ne (Slot.ne_of_innerNames hother hkey hslot hname)]
  · intro key _
    rw [hobject]
    exact rel_self SameParts.refl _
  · intro key _
    rw [hobject]
    exact rel_self SameReasoning.refl _

/-! ## A field inside the details -/

/-- Details without a part that is no number give the same parts. -/
theorem sameParts_without {details v : Json} (hv : details.get? inner = some v)
    (hkind : v.isNumber = false) : SameParts details (details.without inner) := by
  intro key _
  by_cases hkey : key = inner
  · rw [hkey, Json.get?_without_self, hv]
    exact (count?_of_not_isNumber hkind).symm
  · rw [Json.get?_without_of_ne hkey]

section Inner

variable {slot : Slot} {details v : Json} (hname : name ∈ slot.names)
  (hinner : inner ∈ slot.innerNames) (hdetails : usage.getObject? name = some details)
  (hv : details.get? inner = some v) (hkind : v.isNumber = false)

include hdetails

theorem getObject?_remove_self :
    ((Place.inside name inner).remove usage).getObject? name = some (details.without inner) := by
  rw [Place.remove, Json.getObject?_modify_self (Json.isObject_without inner), hdetails]
  rfl

theorem isSome_getObject?_remove (key : String) :
    (((Place.inside name inner).remove usage).getObject? key).isSome =
      (usage.getObject? key).isSome := by
  by_cases hkey : key = name
  · rw [hkey, getObject?_remove_self hdetails, hdetails]
    rfl
  · rw [Place.remove, Json.getObject?_modify_of_ne hkey]

include hname hinner hv hkind

theorem tellSameOutside_of_inner :
    TellSameOutside usage ((Place.inside name inner).remove usage) where
  isObject := usage.isObject_modify name _
  count := by
    intro other hother key hkey
    have hslot : slot.innerNames ≠ [] := List.ne_nil_of_mem hinner
    rw [Place.remove, Json.get?_modify_of_ne (Slot.ne_of_innerNames hother hkey hslot hname)]
  parts := by
    intro key _
    by_cases hkey : key = name
    · rw [hkey, getObject?_remove_self hdetails, hdetails]
      exact .some (sameParts_without hv hkind)
    · rw [Place.remove, Json.getObject?_modify_of_ne hkey]
      exact rel_self SameParts.refl _

/-- A part of the input that is no number may be removed. -/
theorem tellSame_of_part (hslot : slot = .inputDetails) :
    TellSame usage ((Place.inside name inner).remove usage) where
  toTellSameOutside := tellSameOutside_of_inner hname hinner hdetails hv hkind
  innerReasoning := by
    intro key hkey
    have hne : key ≠ name := by
      apply Slot.ne_of_mem_names hkey hname
      rw [hslot]
      decide
    rw [Place.remove, Json.getObject?_modify_of_ne hne]
    exact rel_self SameReasoning.refl _

end Inner

/-! ## The reasoning count inside the details -/

/-- The first result is that at the first place that has one. -/
theorem findSome?_eq_bind {α β : Type} (f : α → Option β) (l : List α) :
    l.findSome? f = (l.find? fun a => (f a).isSome).bind f := by
  induction l with
  | nil => rfl
  | cons a l ih =>
    cases hfa : f a with
    | none => rw [List.findSome?_cons, List.find?_cons, hfa, ih]; rfl
    | some b => rw [List.findSome?_cons, List.find?_cons, hfa]; exact hfa.symm

theorem objectIn?_eq_bind (usage : Json) (slot : Slot) :
    objectIn? usage slot.names = (detailsName? usage slot).bind usage.getObject? :=
  findSome?_eq_bind usage.getObject? slot.names

section Reasoning

variable {details v : Json} (hdetails : usage.getObject? name = some details)
  (hv : details.get? "reasoning_tokens" = some v) (hkind : v.isNumber = false)

include hdetails

/-- The same details are read when a field inside them was removed. -/
theorem detailsName?_remove (inner : String) (slot : Slot) :
    detailsName? ((Place.inside name inner).remove usage) slot = detailsName? usage slot := by
  unfold detailsName?
  apply List.find?_congr
  intro key _
  exact isSome_getObject?_remove hdetails key

/-- Details without their reasoning count are read without one. -/
theorem innerReasoning_remove_of_first (hfirst : detailsName? usage .outputDetails = some name) :
    (read ((Place.inside name "reasoning_tokens").remove usage)).innerReasoning = none := by
  simp only [read, objectIn?_eq_bind, detailsName?_remove hdetails, hfirst, Option.bind_some,
    getObject?_remove_self hdetails, Json.get?_without_self, Option.map_none]

/-- Details that are not read do not matter. -/
theorem innerReasoning_remove_of_not_first
    (hfirst : detailsName? usage .outputDetails ≠ some name) :
    (read ((Place.inside name "reasoning_tokens").remove usage)).innerReasoning =
      (read usage).innerReasoning := by
  simp only [read, objectIn?_eq_bind, detailsName?_remove hdetails]
  cases hother : detailsName? usage .outputDetails with
  | none => rfl
  | some other =>
    have hne : other ≠ name := by
      rintro rfl
      exact hfirst hother
    simp only [Option.bind_some, Place.remove, Json.getObject?_modify_of_ne hne]

include hv hkind

/-- In the details that are read, a reasoning count that is no number is there without
counting anything. -/
theorem innerReasoning_of_first (hfirst : detailsName? usage .outputDetails = some name) :
    (read usage).innerReasoning = some none := by
  simp only [read, objectIn?_eq_bind, hfirst, Option.bind_some, hdetails, hv, Option.map_some,
    count?_of_not_isNumber hkind]

/-- Removing a reasoning count that is no number from the details that are read uncovers the
count beside them. -/
theorem resolve?_remove_of_first (hname : name ∈ Slot.outputDetails.names)
    (hfirst : detailsName? usage .outputDetails = some name) :
    ∃ c : TokenCounts, c.reasoning = none ∧ resolve? usage = some c ∧
      resolve? ((Place.inside name "reasoning_tokens").remove usage) =
        some { c with reasoning := (usage.get? "reasoning_output_tokens").bind count? } := by
  have hobject := Json.isObject_self_of_getObject? hdetails
  have houtside := tellSameOutside_of_inner hname List.mem_cons_self hdetails hv hkind
  have hinner := innerReasoning_of_first hdetails hv hkind hfirst
  refine ⟨(read usage).counts, ?_, resolve?_eq_counts hobject, ?_⟩
  · simp only [Reading.counts, hinner, Option.getD_some]
  · rw [resolve?_eq_counts (houtside.isObject.trans hobject), houtside.read_eq,
      innerReasoning_remove_of_first hdetails hfirst]
    rfl

/-- From details that are not read it may be removed. -/
theorem resolve?_remove_of_not_first (hname : name ∈ Slot.outputDetails.names)
    (hfirst : detailsName? usage .outputDetails ≠ some name) :
    resolve? ((Place.inside name "reasoning_tokens").remove usage) = resolve? usage := by
  have hobject := Json.isObject_self_of_getObject? hdetails
  have houtside := tellSameOutside_of_inner hname List.mem_cons_self hdetails hv hkind
  rw [resolve?_eq_counts hobject, resolve?_eq_counts (houtside.isObject.trans hobject),
    houtside.read_eq, innerReasoning_remove_of_not_first hdetails hfirst]

end Reasoning

/-! ## Any field of the wrong kind -/

/-- A recognised field that holds a value of the wrong kind may be removed: the counters stay
the same.  Only when it hides the reasoning count beside the details does removing it uncover
that count, which until then is not reported; the other counters stay the same even then. -/
theorem resolve?_remove_of_illTyped {usage : Json} {place : Place} (h : IllTyped usage place) :
    ((∀ n, ¬ Hides usage n place) → resolve? (place.remove usage) = resolve? usage) ∧
    (∀ n, Hides usage n place → ∃ c : TokenCounts, c.reasoning = none ∧
      resolve? usage = some c ∧
      resolve? (place.remove usage) = some { c with reasoning := some n }) := by
  cases h with
  | count hslot hname hv hkind =>
    constructor
    · intro _
      exact (tellSame_of_count hslot hname hv hkind).resolve?_eq
    · intro n hn
      exact hn.elim
  | details hslot hname hv hkind =>
    constructor
    · intro _
      exact (tellSame_of_details hslot hname hv hkind).resolve?_eq
    · intro n hn
      exact hn.elim
  | @inner slot name inner details v hname hinner hdetails hv hkind =>
    constructor
    · intro hnot
      -- Inside the details of the input any part may go; inside those of the output there is
      -- only the reasoning count.
      cases slot with
      | inputDetails => exact (tellSame_of_part hname hinner hdetails hv hkind rfl).resolve?_eq
      | outputDetails =>
        obtain rfl : inner = "reasoning_tokens" := List.mem_singleton.1 hinner
        by_cases hfirst : detailsName? usage .outputDetails = some name
        · obtain ⟨c, hc, hbefore, hafter⟩ := resolve?_remove_of_first hdetails hv hkind hname hfirst
          have hflat : (usage.get? "reasoning_output_tokens").bind count? = none := by
            rw [Option.eq_none_iff_forall_ne_some]
            intro n hn
            exact hnot n ⟨rfl, hfirst, hn⟩
          rw [hafter, hbefore, hflat, ← hc]
        · exact resolve?_remove_of_not_first hdetails hv hkind hname hfirst
      | _ => cases hinner
    · rintro n ⟨rfl, hfirst, hflat⟩
      have hslot : name ∈ Slot.outputDetails.names := List.mem_of_find?_eq_some hfirst
      obtain ⟨c, hc, hbefore, hafter⟩ := resolve?_remove_of_first hdetails hv hkind hslot hfirst
      rw [hflat] at hafter
      exact ⟨c, hc, hbefore, hafter⟩

/-- A usage object whose input count is a text under its first name, and a number under its
second. -/
def illTypedInput : Json :=
  .object [("input_tokens", .string "many"), ("prompt_tokens", .nat 3)]

/-- A usage object whose reasoning count is a text inside the details, and a number beside
them. -/
def hiddenReasoning : Json :=
  .object [("output_tokens_details", .object [("reasoning_tokens", .string "lots")]),
    ("reasoning_output_tokens", .nat 5)]

theorem illTyped_hiddenReasoning :
    IllTyped hiddenReasoning (.inside "output_tokens_details" "reasoning_tokens") :=
  have hname : "output_tokens_details" ∈ Slot.outputDetails.names := by decide
  .inner hname List.mem_cons_self rfl rfl rfl

/-- An input count that is a text may be removed; a reasoning count that is a text inside the
details hides the count of five beside them. -/
theorem resolve?_remove_of_texts :
    resolve? ((Place.field "input_tokens").remove illTypedInput) = resolve? illTypedInput ∧
      resolve? illTypedInput = some ⟨3, 0, 0, 0, none⟩ ∧
      ∃ c : TokenCounts, c.reasoning = none ∧ resolve? hiddenReasoning = some c ∧
        resolve? ((Place.inside "output_tokens_details" "reasoning_tokens").remove
          hiddenReasoning) = some { c with reasoning := some 5 } := by
  have hname : "input_tokens" ∈ Slot.input.names := by decide
  have hinput : IllTyped illTypedInput (.field "input_tokens") := .count rfl hname rfl rfl
  have hhides : Hides hiddenReasoning 5 (.inside "output_tokens_details" "reasoning_tokens") :=
    ⟨rfl, by decide, by decide⟩
  have hsame := (resolve?_remove_of_illTyped hinput).1 fun n hn => hn.elim
  have huncovered := (resolve?_remove_of_illTyped illTyped_hiddenReasoning).2 5 hhides
  exact ⟨hsame, by decide, huncovered⟩

/-- Removing a field of the wrong kind can bring a reasoning count to light. -/
theorem not_resolve?_remove_of_illTyped :
    ¬ ∀ (usage : Json) (place : Place), IllTyped usage place →
      resolve? (place.remove usage) = resolve? usage := by
  intro hall
  have hbefore : resolve? hiddenReasoning = some ⟨0, 0, 0, 0, none⟩ := by decide
  have hafter : resolve? ((Place.inside "output_tokens_details" "reasoning_tokens").remove
      hiddenReasoning) = some ⟨0, 0, 0, 0, some 5⟩ := by decide
  have heq := hall _ _ illTyped_hiddenReasoning
  rw [hbefore, hafter] at heq
  cases heq

end Usage
end AgentRelay
