import AgentRelay.Json.Reader
import Mathlib.Data.List.Induction
import Mathlib.Data.String.Basic

/-!
# Sorted objects

Sorting the fields of an object moves fields but changes none: under each name the last value
that was given for it is found.  A value whose objects are sorted already, each name once, is
left as it is.

Main definitions:

- {lit}`Json.Sorted`: the names in every object of a value strictly increase.
- {lit}`Json.Reordered`: a value with the fields of its objects in another order.

Main results:

- Theorem {lit}`lookup_sortFields`: sorting keeps the last value of each name.
- Theorem {lit}`lookup_sortFields_canonicalFields`: the fields of a sorted object are the fields
  of the object, each one sorted.
- Theorem {lit}`canonical_of_sorted`: what is sorted stays as it is.
- Theorem {lit}`Reordered.rel_get?`: in another order the same fields are found.
-/

namespace AgentRelay
namespace Json

/-! ## Finding fields -/

theorem sortFields_concat (fields : List (String × Json)) (field : String × Json) :
    sortFields (fields ++ [field]) = insertField field.1 field.2 (sortFields fields) := by
  simp [sortFields]

/-- Among sorted fields each name has the last value that was given for it. -/
theorem lookup_sortFields (fields : List (String × Json)) (key : String) :
    (sortFields fields).lookup key = fields.reverse.lookup key := by
  induction fields using List.reverseRecOn with
  | nil => rfl
  | append_singleton fields field ih =>
    obtain ⟨name, value⟩ := field
    rw [sortFields_concat, List.reverse_concat, List.lookup_cons]
    by_cases h : key = name
    · subst h
      rw [lookup_insertField_self]
      simp
    · have hne : (key == name) = false := by simp [h]
      rw [lookup_insertField_of_ne h, ih]
      simp [hne]

/-- Where each name is given once, the order of the fields does not matter. -/
theorem lookup_of_perm {fields fields' : List (String × Json)} (hperm : fields.Perm fields')
    (hnames : (fields.map Prod.fst).Nodup) (key : String) :
    fields'.lookup key = fields.lookup key := by
  induction hperm with
  | nil => rfl
  | cons field _ ih =>
    rw [List.map_cons, List.nodup_cons] at hnames
    rw [List.lookup_cons, List.lookup_cons, ih hnames.2]
  | swap field field' fields =>
    obtain ⟨name, v⟩ := field
    obtain ⟨name', v'⟩ := field'
    have hne : name ≠ name' := by
      rintro rfl
      simp at hnames
    rw [List.lookup_cons, List.lookup_cons, List.lookup_cons, List.lookup_cons]
    by_cases hkey : key = name
    · have hkey' : (key == name') = false := by simpa [hkey] using hne
      rw [hkey']
    · have hkey' : (key == name) = false := by simpa using hkey
      rw [hkey']
  | trans hperm _ ih ih' =>
    rw [ih' ((hperm.map Prod.fst).nodup_iff.1 hnames), ih hnames]

theorem lookup_reverse_of_nodup {fields : List (String × Json)}
    (h : (fields.map Prod.fst).Nodup) (key : String) :
    fields.reverse.lookup key = fields.lookup key :=
  lookup_of_perm (List.reverse_perm fields).symm h key

/-- Making fields canonical changes their values one by one. -/
theorem lookup_canonicalFields (fields : List (String × Json)) (key : String) :
    (canonicalFields fields).lookup key = (fields.lookup key).map canonical := by
  induction fields with
  | nil => rfl
  | cons field fields ih =>
    obtain ⟨name, value⟩ := field
    rw [canonicalFields, List.lookup_cons, List.lookup_cons, ih]
    cases key == name <;> rfl

theorem map_fst_canonicalFields (fields : List (String × Json)) :
    (canonicalFields fields).map Prod.fst = fields.map Prod.fst := by
  induction fields with
  | nil => rfl
  | cons field fields ih =>
    obtain ⟨name, value⟩ := field
    rw [canonicalFields, List.map_cons, List.map_cons, ih]

@[simp]
theorem canonical_comp_string : canonical ∘ string = string :=
  rfl

theorem canonicalItems_eq_map (items : List Json) : canonicalItems items = items.map canonical := by
  induction items with
  | nil => rfl
  | cons item items ih => rw [canonicalItems, ih, List.map_cons]

/-- Where each name is given once, the same fields are found among the sorted ones. -/
theorem lookup_sortFields_canonicalFields {fields : List (String × Json)}
    (h : (fields.map Prod.fst).Nodup) (key : String) :
    (sortFields (canonicalFields fields)).lookup key = (fields.lookup key).map canonical := by
  have hnodup : ((canonicalFields fields).map Prod.fst).Nodup := by
    rw [map_fst_canonicalFields]
    exact h
  rw [lookup_sortFields, lookup_reverse_of_nodup hnodup, lookup_canonicalFields]

/-! ## Values that are sorted already -/

mutual

/-- The objects of a value are sorted by name, each name once. -/
def Sorted : Json → Prop
  | .array items => SortedItems items
  | .object fields => fields.Pairwise (fun a b => a.1 < b.1) ∧ SortedValues fields
  | _ => True

/-- The objects of some items are sorted. -/
def SortedItems : List Json → Prop
  | [] => True
  | item :: rest => item.Sorted ∧ SortedItems rest

/-- The objects in the values of some fields are sorted. -/
def SortedValues : List (String × Json) → Prop
  | [] => True
  | (_, value) :: rest => value.Sorted ∧ SortedValues rest

end

/-- A field with a greater name than all others is put at the end. -/
theorem insertField_of_forall_lt {fields : List (String × Json)} {name : String} (value : Json)
    (h : ∀ field ∈ fields, field.1 < name) :
    insertField name value fields = fields ++ [(name, value)] := by
  induction fields with
  | nil => rfl
  | cons field fields ih =>
    obtain ⟨other, old⟩ := field
    have hlt : other < name := h (other, old) List.mem_cons_self
    have hne : name ≠ other := ne_of_gt hlt
    have hnot : ¬ name < other := lt_asymm hlt
    rw [insertField, if_neg hne, if_neg hnot, ih fun f hf => h f (List.mem_cons_of_mem _ hf)]
    rfl

/-- Sorted fields stay as they are. -/
theorem sortFields_of_pairwise {fields : List (String × Json)}
    (h : fields.Pairwise fun a b => a.1 < b.1) : sortFields fields = fields := by
  induction fields using List.reverseRecOn with
  | nil => rfl
  | append_singleton fields field ih =>
    obtain ⟨hfields, -, hlast⟩ := List.pairwise_append.1 h
    rw [sortFields_concat, ih hfields]
    exact insertField_of_forall_lt _ fun f hf => hlast f hf field (List.mem_singleton_self _)

mutual

/-- A value whose objects are sorted already stays as it is. -/
theorem canonical_of_sorted (j : Json) (h : j.Sorted) : j.canonical = j := by
  cases j with
  | null => rfl
  | bool b => rfl
  | number n => rfl
  | string s => rfl
  | array items => rw [canonical, canonicalItems_of_sorted items h]
  | object fields =>
    rw [canonical, canonicalFields_of_sorted fields h.2, sortFields_of_pairwise h.1]

theorem canonicalItems_of_sorted (items : List Json) (h : SortedItems items) :
    canonicalItems items = items := by
  cases items with
  | nil => rfl
  | cons item items =>
    rw [canonicalItems, canonical_of_sorted item h.1, canonicalItems_of_sorted items h.2]

theorem canonicalFields_of_sorted (fields : List (String × Json)) (h : SortedValues fields) :
    canonicalFields fields = fields := by
  cases fields with
  | nil => rfl
  | cons field fields =>
    obtain ⟨name, value⟩ := field
    rw [canonicalFields, canonical_of_sorted value h.1, canonicalFields_of_sorted fields h.2]

end

/-! ## Values in another order -/

/-- The same value with the fields of its objects in another order, at whatever depth.  An
object whose fields change places has each name once. -/
inductive Reordered : Json → Json → Prop where
  | refl (j : Json) : Reordered j j
  | fields {fields fields' : List (String × Json)} (hperm : fields.Perm fields')
      (hnames : (fields.map Prod.fst).Nodup) : Reordered (.object fields) (.object fields')
  | value {front back : List (String × Json)} {name : String} {v v' : Json}
      (h : Reordered v v') :
      Reordered (.object (front ++ (name, v) :: back)) (.object (front ++ (name, v') :: back))
  | item {front back : List Json} {v v' : Json} (h : Reordered v v') :
      Reordered (.array (front ++ v :: back)) (.array (front ++ v' :: back))
  | trans {j j' j'' : Json} (h : Reordered j j') (h' : Reordered j' j'') : Reordered j j''

theorem Reordered.isObject_eq {j j' : Json} (h : Reordered j j') : j'.isObject = j.isObject := by
  induction h with
  | refl => rfl
  | fields => rfl
  | value => rfl
  | item => rfl
  | trans _ _ ih ih' => rw [ih', ih]

/-- A field is found in both values or in neither, and its values differ in their order
alone. -/
theorem Reordered.rel_get? {j j' : Json} (h : Reordered j j') (name : String) :
    Option.Rel Reordered (j.get? name) (j'.get? name) := by
  have hrefl (found : Option Json) : Option.Rel Reordered found found := by
    cases found with
    | none => exact .none
    | some v => exact .some (.refl v)
  induction h with
  | refl => exact hrefl _
  | fields hperm hnames =>
    rw [get?_object, get?_object, lookup_of_perm hperm hnames]
    exact hrefl _
  | @value front back other v v' h =>
    rw [get?_object, get?_object, List.lookup_append, List.lookup_append]
    cases front.lookup name with
    | some found => exact hrefl _
    | none =>
      rw [List.lookup_cons, List.lookup_cons]
      cases name == other with
      | true => exact .some h
      | false => exact hrefl _
  | item => exact .none
  | @trans j j' j'' _ _ ih ih' =>
    generalize j.get? name = found at ih
    generalize j'.get? name = found' at ih ih'
    generalize j''.get? name = found'' at ih'
    cases ih with
    | none => exact ih'
    | some h =>
      cases ih' with
      | some h' => exact .some (h.trans h')

theorem Reordered.rel_getObject? {j j' : Json} (h : Reordered j j') (name : String) :
    Option.Rel Reordered (j.getObject? name) (j'.getObject? name) := by
  have hrel := h.rel_get? name
  unfold getObject?
  generalize j.get? name = found at hrel
  generalize j'.get? name = found' at hrel
  cases hrel with
  | none => exact .none
  | @some v v' h =>
    rw [Option.filter_some, Option.filter_some, h.isObject_eq]
    split
    · exact .some h
    · exact .none

end Json
end AgentRelay
