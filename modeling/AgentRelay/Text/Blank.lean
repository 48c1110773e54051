/-!
# Blank characters and trimming

A character is blank when Unicode gives it the property White_Space.  Model
identifiers, prompts, keys and event lines are trimmed of blank characters
before they are used, and a text of blank characters only counts as absent.

Main definitions:

- {lit}`isBlank`: the White_Space property, as a table of code point ranges.
- {lit}`trim`: a text without the blank characters at its two ends.
- {lit}`nonBlank?`: the trimmed text, unless nothing is left of it.
-/

namespace AgentRelay
namespace Text

/-! ## The character class -/

/-- First and last code point of each run of White_Space characters. -/
def blankRanges : List (Nat × Nat) :=
  [(0x9, 0xD), (0x20, 0x20), (0x85, 0x85), (0xA0, 0xA0), (0x1680, 0x1680),
   (0x2000, 0x200A), (0x2028, 0x2029), (0x202F, 0x202F), (0x205F, 0x205F), (0x3000, 0x3000)]

/-- A character is blank when its code point lies in one of the runs. -/
def isBlank (c : Char) : Bool :=
  blankRanges.any fun run => run.1 ≤ c.toNat && c.toNat ≤ run.2

/-! ## Trimming -/

/-- A text without the blank characters at its front. -/
def trimFront (cs : List Char) : List Char :=
  cs.dropWhile isBlank

/-- A text without the blank characters at its back. -/
def trimBack (cs : List Char) : List Char :=
  (cs.reverse.dropWhile isBlank).reverse

/-- A list of characters without the blank ones at its two ends. -/
def trimChars (cs : List Char) : List Char :=
  trimBack (trimFront cs)

/-- A text without the blank characters at its two ends. -/
def trim (s : String) : String :=
  String.ofList (trimChars s.toList)

/-- The trimmed text, or nothing when every character is blank. -/
def nonBlank? (s : String) : Option String :=
  if trim s = "" then none else some (trim s)

@[simp]
theorem toList_trim (s : String) : (trim s).toList = trimChars s.toList := by
  simp [trim]

@[simp]
theorem trimFront_nil : trimFront [] = [] :=
  rfl

@[simp]
theorem trimBack_nil : trimBack [] = [] :=
  rfl

/-- Trimming the front passes over blank characters. -/
theorem trimFront_cons_blank {c : Char} (h : isBlank c = true) (cs : List Char) :
    trimFront (c :: cs) = trimFront cs := by
  simp [trimFront, h]

/-- Blank characters put in front of a text are trimmed off it. -/
theorem trimFront_append_blank {front : List Char} (h : ∀ c ∈ front, isBlank c = true)
    (cs : List Char) : trimFront (front ++ cs) = trimFront cs :=
  List.dropWhile_append_of_pos h

/-- Blank characters put behind a text are trimmed off it. -/
theorem trimBack_append_blank {back : List Char} (h : ∀ c ∈ back, isBlank c = true)
    (cs : List Char) : trimBack (cs ++ back) = trimBack cs := by
  unfold trimBack
  rw [List.reverse_append, List.dropWhile_append_of_pos (by simpa using h)]

/-- Nothing is left in front of blank characters. -/
theorem trimFront_of_blank {cs : List Char} (h : ∀ c ∈ cs, isBlank c = true) :
    trimFront cs = [] := by
  have happend := trimFront_append_blank h []
  rwa [List.append_nil] at happend

/-- Blank characters behind a text do not change what is left of it. -/
theorem trimChars_append_blank {back : List Char} (h : ∀ c ∈ back, isBlank c = true)
    (cs : List Char) : trimChars (cs ++ back) = trimChars cs := by
  unfold trimChars
  induction cs with
  | nil => rw [List.nil_append, trimFront_of_blank h, trimFront_nil]
  | cons c cs ih =>
    cases hc : isBlank c with
    | true => rw [List.cons_append, trimFront_cons_blank hc, trimFront_cons_blank hc, ih]
    | false =>
      have hstop : ∀ rest, trimFront (c :: rest) = c :: rest := by simp [trimFront, hc]
      rw [List.cons_append, hstop, hstop, ← List.cons_append, trimBack_append_blank h]

/-- Blank characters around a text do not change what is left of it. -/
theorem trimChars_around {front back : List Char} (hfront : ∀ c ∈ front, isBlank c = true)
    (hback : ∀ c ∈ back, isBlank c = true) (cs : List Char) :
    trimChars (front ++ cs ++ back) = trimChars cs := by
  rw [trimChars_append_blank hback, trimChars, trimFront_append_blank hfront, trimChars]

/-- Nothing is left of blank characters. -/
theorem trimChars_of_blank {cs : List Char} (h : ∀ c ∈ cs, isBlank c = true) :
    trimChars cs = [] := by
  rw [trimChars, trimFront_of_blank h, trimBack_nil]

/-- A text that neither begins nor ends with a blank character is trimmed of nothing. -/
theorem trimChars_eq_self {cs : List Char} (hfirst : ∀ c ∈ cs.head?, isBlank c = false)
    (hlast : ∀ c ∈ cs.getLast?, isBlank c = false) : trimChars cs = cs := by
  have hstop : ∀ ds : List Char, (∀ c ∈ ds.head?, isBlank c = false) →
      ds.dropWhile isBlank = ds := by
    intro ds hds
    cases ds with
    | nil => rfl
    | cons d ds => simp [hds d rfl]
  rw [trimChars, trimFront, hstop cs hfirst, trimBack,
    hstop cs.reverse (by simpa only [List.head?_reverse] using hlast), List.reverse_reverse]

theorem trimBack_prefix (cs : List Char) : trimBack cs <+: cs := by
  have hsuffix : cs.reverse.dropWhile isBlank <:+ cs.reverse := List.dropWhile_suffix _
  rwa [← List.reverse_prefix, List.reverse_reverse] at hsuffix

/-- A trimmed text is trimmed of nothing. -/
theorem trimChars_trimChars (cs : List Char) : trimChars (trimChars cs) = trimChars cs := by
  apply trimChars_eq_self
  · intro c hc
    rw [trimChars] at hc
    -- Trimming the back takes nothing off the front, so that `c` is first before it, too.
    obtain ⟨back, hback⟩ := trimBack_prefix (trimFront cs)
    have hfirst : (cs.dropWhile isBlank).head? = some c := by
      rw [← trimFront, ← hback, List.head?_append, Option.mem_def.1 hc, Option.some_or]
    have hstop := List.head?_dropWhile_not isBlank cs
    rwa [hfirst] at hstop
  · intro c hc
    rw [trimChars, trimBack, List.getLast?_reverse] at hc
    have hstop := List.head?_dropWhile_not isBlank (trimFront cs).reverse
    rwa [Option.mem_def.1 hc] at hstop

@[simp]
theorem trim_trim (s : String) : trim (trim s) = trim s := by
  rw [← String.toList_inj, toList_trim, toList_trim, trimChars_trimChars]

/-- Blank characters around a text do not change what it is trimmed to. -/
theorem trim_around {front back : String} (hfront : ∀ c ∈ front.toList, isBlank c = true)
    (hback : ∀ c ∈ back.toList, isBlank c = true) (s : String) :
    trim (front ++ s ++ back) = trim s := by
  rw [← String.toList_inj, toList_trim, toList_trim, String.toList_append, String.toList_append,
    trimChars_around hfront hback]

theorem nonBlank?_eq_some_iff (s t : String) : nonBlank? s = some t ↔ trim s = t ∧ t ≠ "" := by
  unfold nonBlank?
  split
  · next hblank =>
    constructor
    · exact nofun
    · rintro ⟨rfl, hne⟩
      exact absurd hblank hne
  · next hne =>
    rw [Option.some.injEq]
    constructor
    · rintro rfl
      exact ⟨rfl, hne⟩
    · exact And.left

end Text
end AgentRelay
