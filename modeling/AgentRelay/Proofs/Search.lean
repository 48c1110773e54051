import AgentRelay.Text.Case
import Mathlib

/-!
# Searching places and texts

What is looked for is often in the first of several places that holds it.  Texts written for
people are searched for ASCII markers in their lower-case form, and whichever full lower-casing
is used, it holds the same markers as the folded text that {lit}`Text.mentions` looks at.

Main definitions:

- {lit}`FirstAnswer`: the answer of the first place that gives one.
- {lit}`Text.LowerForm`: the lower-case forms of a text, outside ASCII as free as can be.
- {lit}`Text.Mentioned`: a lower-case form of a text holds one of some markers.

Main results:

- Theorem {lit}`findSome?_eq_some_iff_firstAnswer`: a search finds the first answer.
- Theorem {lit}`Text.LowerForm.infix_iff`: every lower-case form holds the same markers.
- Theorem {lit}`Text.mentions_iff`: the search for markers finds exactly what is mentioned.
-/

namespace AgentRelay

/-! ## The first place that answers -/

/-- The first place that gives an answer at all gives this one. -/
def FirstAnswer (gives : α → β → Prop) (places : List α) (answer : β) : Prop :=
  ∃ before place after, places = before ++ place :: after ∧ gives place answer ∧
    ∀ earlier ∈ before, ∀ other, ¬ gives earlier other

/-- None of the places gives an answer. -/
def NoAnswer (gives : α → β → Prop) (places : List α) : Prop :=
  ∀ place ∈ places, ∀ answer, ¬ gives place answer

section FirstAnswer

variable {gives gives' : α → β → Prop} {places : List α} {ask : α → Option β}

/-- Places that give the same answers give the same first answer. -/
theorem firstAnswer_congr (h : ∀ place ∈ places, ∀ answer, gives place answer ↔ gives' place answer)
    (answer : β) : FirstAnswer gives places answer ↔ FirstAnswer gives' places answer := by
  have himp : ∀ {gives gives' : α → β → Prop},
      (∀ place ∈ places, ∀ answer, gives place answer ↔ gives' place answer) →
      FirstAnswer gives places answer → FirstAnswer gives' places answer := by
    rintro gives gives' h ⟨before, place, after, rfl, hgives, hbefore⟩
    refine ⟨before, place, after, rfl, (h place (by simp) answer).1 hgives, ?_⟩
    intro earlier hearlier other hother
    exact hbefore earlier hearlier other ((h earlier (by simp [hearlier]) other).2 hother)
  exact ⟨himp h, himp fun place hplace other => (h place hplace other).symm⟩

variable (hask : ∀ place answer, ask place = some answer ↔ gives place answer)

include hask

theorem ask_eq_none_iff (place : α) : ask place = none ↔ ∀ answer, ¬ gives place answer := by
  simp only [Option.eq_none_iff_forall_ne_some, ne_eq, hask]

/-- A search through places finds the first answer. -/
theorem findSome?_eq_some_iff_firstAnswer {answer : β} :
    places.findSome? ask = some answer ↔ FirstAnswer gives places answer := by
  rw [List.findSome?_eq_some_iff]
  simp only [FirstAnswer, hask, ask_eq_none_iff hask]

/-- A search through places finds nothing when none gives an answer. -/
theorem findSome?_eq_none_iff_noAnswer :
    places.findSome? ask = none ↔ NoAnswer gives places := by
  rw [List.findSome?_eq_none_iff]
  simp only [NoAnswer, ask_eq_none_iff hask]

end FirstAnswer

namespace Text

/-! ## Lower-case forms -/

/-- A character of ASCII. -/
def IsAscii (c : Char) : Prop :=
  c.toNat < 0x80

/-- A marker that is searched for: it is not empty, and all of it is ASCII. -/
structure IsMarker (marker : List Char) : Prop where
  ne_nil : marker ≠ []
  ascii : ∀ c ∈ marker, IsAscii c

instance (c : Char) : Decidable (IsAscii c) :=
  inferInstanceAs (Decidable (_ < _))

theorem isMarker_iff {marker : List Char} :
    IsMarker marker ↔ marker ≠ [] ∧ marker.all (fun c => decide (IsAscii c)) = true := by
  simp only [List.all_eq_true, decide_eq_true_eq]
  exact ⟨fun h => ⟨h.ne_nil, h.ascii⟩, fun h => ⟨h.1, h.2⟩⟩

instance (marker : List Char) : Decidable (IsMarker marker) :=
  decidable_of_iff _ isMarker_iff.symm

/-- What a lower-casing may write for a character: its folded form, and for a character outside
ASCII that stands for itself any characters outside ASCII. -/
inductive LowersTo (c : Char) : List Char → Prop where
  | folded : LowersTo c (foldChar c)
  | foreign {lower : List Char} (hc : ¬ IsAscii c) (hself : foldChar c = [c])
      (hlower : ∀ d ∈ lower, ¬ IsAscii d) (hne : lower ≠ []) : LowersTo c lower

/-- A lower-case form of a text, written character by character. -/
inductive LowerForm : List Char → List Char → Prop where
  | nil : LowerForm [] []
  | cons {c : Char} {cs lower rest : List Char} (h : LowersTo c lower)
      (hrest : LowerForm cs rest) : LowerForm (c :: cs) (lower ++ rest)

/-- A lower-case form of a text holds one of the markers. -/
def Mentioned (markers : List String) (s : String) : Prop :=
  ∃ lower, LowerForm s.toList lower ∧ ∃ marker ∈ markers, marker.toList <:+: lower

/-- The folded text is a lower-case form. -/
theorem lowerForm_foldCase (cs : List Char) : LowerForm cs (foldCase cs) := by
  induction cs with
  | nil => exact .nil
  | cons c cs ih => exact .cons .folded ih

/-! ## Markers in lower-case forms -/

section Infix

variable {marker front cs ds : List Char}

/-- A marker is not found in characters outside ASCII, only behind them. -/
theorem IsMarker.infix_append_iff (h : IsMarker marker) (hfront : ∀ c ∈ front, ¬ IsAscii c) :
    marker <:+: front ++ cs ↔ marker <:+: cs := by
  induction front with
  | nil => rfl
  | cons d front ih =>
    rw [List.forall_mem_cons] at hfront
    have hhead : ¬ marker <+: d :: (front ++ cs) := by
      rintro ⟨rest, hrest⟩
      cases hmarker : marker with
      | nil => exact h.ne_nil hmarker
      | cons m marker' =>
        rw [hmarker, List.cons_append, List.cons.injEq] at hrest
        exact hfront.1 (hrest.1 ▸ h.ascii m (by simp [hmarker]))
    rw [List.cons_append, List.infix_cons_iff, ih hfront.2, or_iff_right hhead]

/-- Texts that begin with the same ASCII texts still do so behind a common front. -/
theorem prefix_append_congr
    (h : ∀ m : List Char, (∀ c ∈ m, IsAscii c) → (m <+: cs ↔ m <+: ds)) {m : List Char}
    (hm : ∀ c ∈ m, IsAscii c) : m <+: front ++ cs ↔ m <+: front ++ ds := by
  induction front generalizing m with
  | nil => exact h m hm
  | cons d front ih =>
    cases m with
    | nil => simp
    | cons c m =>
      rw [List.forall_mem_cons] at hm
      rw [List.cons_append, List.cons_append, List.cons_prefix_cons, List.cons_prefix_cons,
        ih hm.2]

/-- Texts that hold the same markers and begin with the same ASCII texts hold the same markers
behind a common front. -/
theorem IsMarker.infix_append_congr (hmarker : IsMarker marker)
    (hbegins : ∀ m : List Char, (∀ c ∈ m, IsAscii c) → (m <+: cs ↔ m <+: ds))
    (hholds : marker <:+: cs ↔ marker <:+: ds) :
    marker <:+: front ++ cs ↔ marker <:+: front ++ ds := by
  induction front with
  | nil => exact hholds
  | cons d front ih =>
    rw [List.cons_append, List.cons_append, List.infix_cons_iff, List.infix_cons_iff, ih]
    have hhead : marker <+: (d :: front) ++ cs ↔ marker <+: (d :: front) ++ ds :=
      prefix_append_congr hbegins hmarker.ascii
    rw [List.cons_append, List.cons_append] at hhead
    rw [hhead]

/-- Characters outside ASCII begin with no ASCII text but the empty one. -/
theorem prefix_append_iff_of_foreign (hfront : ∀ c ∈ front, ¬ IsAscii c) (hne : front ≠ [])
    {m : List Char} (hm : ∀ c ∈ m, IsAscii c) : m <+: front ++ cs ↔ m = [] := by
  cases front with
  | nil => exact absurd rfl hne
  | cons d front =>
    cases m with
    | nil => simp
    | cons c m =>
      rw [List.forall_mem_cons] at hfront hm
      rw [List.cons_append, List.cons_prefix_cons]
      constructor
      · rintro ⟨rfl, -⟩
        exact absurd hm.1 hfront.1
      · exact nofun

end Infix

namespace LowerForm

variable {cs lower : List Char}

/-- Every lower-case form begins with the same ASCII texts. -/
theorem prefix_iff (h : LowerForm cs lower) {m : List Char} (hm : ∀ c ∈ m, IsAscii c) :
    m <+: lower ↔ m <+: foldCase cs := by
  induction h generalizing m with
  | nil => rfl
  | @cons c cs lower rest hlower _ ih =>
    have hfold : foldCase (c :: cs) = foldChar c ++ foldCase cs := rfl
    rw [hfold]
    cases hlower with
    | folded => exact prefix_append_congr (fun m hm => ih hm) hm
    | foreign hc hself hlower hne =>
      rw [hself, prefix_append_iff_of_foreign hlower hne hm,
        prefix_append_iff_of_foreign (by simpa using hc) (by simp) hm]

/-- Every lower-case form holds the same markers. -/
theorem infix_iff (h : LowerForm cs lower) {marker : List Char} (hmarker : IsMarker marker) :
    marker <:+: lower ↔ marker <:+: foldCase cs := by
  induction h with
  | nil => rfl
  | @cons c cs lower rest hlower hrest ih =>
    have hfold : foldCase (c :: cs) = foldChar c ++ foldCase cs := rfl
    rw [hfold]
    cases hlower with
    | folded => exact hmarker.infix_append_congr (fun m hm => hrest.prefix_iff hm) ih
    | foreign hc hself hlower hne =>
      rw [hself, hmarker.infix_append_iff hlower, hmarker.infix_append_iff (by simpa using hc), ih]

end LowerForm

/-- Markers are found in a text exactly when a lower-case form of it holds one of them. -/
theorem mentions_iff {markers : List String} (hmarkers : ∀ marker ∈ markers, IsMarker marker.toList)
    (s : String) : mentions markers s = true ↔ Mentioned markers s := by
  simp only [mentions, List.any_eq_true, occursIn_iff]
  constructor
  · rintro ⟨marker, hmem, hholds⟩
    exact ⟨_, lowerForm_foldCase s.toList, marker, hmem, hholds⟩
  · rintro ⟨lower, hlower, marker, hmem, hholds⟩
    exact ⟨marker, hmem, (hlower.infix_iff (hmarkers marker hmem)).1 hholds⟩

end Text
end AgentRelay
