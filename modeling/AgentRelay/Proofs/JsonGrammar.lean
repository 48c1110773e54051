import AgentRelay.Json.Reader
import AgentRelay.Json.Writer
import Mathlib.Data.List.Basic

/-!
# Texts that are read as a value

The reader takes a text apart at its first characters, and what it does with the rest does not
depend on how a text was laid out.  So a text is known to be read as a value once its parts
are: a string behind its quote, a number where a number stands, and an array or an object from
the texts of its items or fields, with white space between them or without.  What follows the
text is left alone.

Main definitions:

- {lit}`Json.EndsNumber`: a text that does not go on with a number.
- {lit}`Json.IsGap`: white space between the parts of a text.
- {lit}`Json.ReadsAs`: a text is read as a value, whatever follows it.
- {lit}`Json.ItemsReadAs` and {lit}`Json.FieldsReadAs`: texts that are read as the items of an
  array and as the fields of an object.

Main results:

- Theorem {lit}`readString_escaped`: the characters of a string are read back.
- Theorem {lit}`readNumber_append`: a number is read as it is alone.
- Theorems {lit}`ItemsReadAs.array` and {lit}`FieldsReadAs.object`: arrays and objects are read
  from their parts.
- Theorem {lit}`ReadsAs.parseChars?_eq`: a whole text is read as its value.
-/

namespace AgentRelay
namespace Json

/-! ## Strings -/

/-- A backslash with one more character is read as the character that they stand for. -/
theorem readString_simpleEscape {e c : Char} (h : simpleEscape? e = some c) (rest : List Char) :
    readString ('\\' :: e :: rest) = (readString rest).map fun p => (c :: p.1, p.2) := by
  have hu : e ≠ 'u' := by
    rintro rfl
    cases h
  rw [readString]
  · rw [h]
  · intro a b x y r hr
    exact absurd hr hu

/-- A unit below the surrogates is read as the character with its code point. -/
theorem readString_unit {a b x y : Char} {unit : Nat} (h : hexUnit? a b x y = some unit)
    (hunit : unit < 0xD800) (rest : List Char) :
    readString ('\\' :: 'u' :: a :: b :: x :: y :: rest) =
      (readString rest).map fun p => (Char.ofNat unit :: p.1, p.2) := by
  have htrailing : isTrailing unit = false := by
    simp only [isTrailing, Bool.and_eq_false_iff, decide_eq_false_iff_not]
    omega
  have hleading : isLeading unit = false := by
    simp only [isLeading, Bool.and_eq_false_iff, decide_eq_false_iff_not]
    omega
  rw [readString]
  simp only [h, htrailing, hleading, Bool.false_eq_true, if_false]

/-- A character that needs no escape is read as it is. -/
theorem readString_plain {c : Char} (hquote : c ≠ '"') (hslash : c ≠ '\\')
    (hcontrol : ¬ c.toNat < 0x20) (rest : List Char) :
    readString (c :: rest) = (readString rest).map fun p => (c :: p.1, p.2) := by
  rw [readString]
  · rw [if_neg (by simp [hcontrol, hslash])]
  · exact hquote
  · intro a b x y r h
    exact absurd h hslash
  · intro e r h
    exact absurd h hslash

/-- The unit that is written for a control character is its code point. -/
theorem hexUnit?_control : ∀ n : Fin 32,
    hexUnit? '0' '0' (hexDigit (n.val / 16)) (hexDigit (n.val % 16)) = some n.val := by
  decide

/-- A written character is read back. -/
theorem readString_escapeChar (c : Char) (rest : List Char) :
    readString (escapeChar c ++ rest) = (readString rest).map fun p => (c :: p.1, p.2) := by
  unfold escapeChar
  split_ifs with hquote hslash hb ht hn hf hr hcontrol
  · subst hquote
    exact readString_simpleEscape rfl rest
  · subst hslash
    exact readString_simpleEscape rfl rest
  · subst hb
    exact readString_simpleEscape rfl rest
  · subst ht
    exact readString_simpleEscape rfl rest
  · subst hn
    exact readString_simpleEscape rfl rest
  · subst hf
    exact readString_simpleEscape rfl rest
  · subst hr
    exact readString_simpleEscape rfl rest
  · have hunit := hexUnit?_control ⟨c.toNat, hcontrol⟩
    have hread := readString_unit hunit (by simp only; omega) rest
    rwa [Char.ofNat_toNat] at hread
  · exact readString_plain hquote hslash hcontrol rest

/-- The characters of a written string are read back up to the closing quote. -/
theorem readString_escaped (cs rest : List Char) :
    readString (cs.flatMap escapeChar ++ '"' :: rest) = some (cs, rest) := by
  induction cs with
  | nil => rfl
  | cons c cs ih =>
    rw [List.flatMap_cons, List.append_assoc, readString_escapeChar, ih]
    rfl

/-! ## Numbers -/

/-- A text that does not go on with a number: it begins with none of the characters that a
number may be continued with. -/
def EndsNumber (rest : List Char) : Prop :=
  ∀ c ∈ rest.head?, c.isDigit = false ∧ c ≠ '.' ∧ c ≠ 'e' ∧ c ≠ 'E'

theorem endsNumber_nil : EndsNumber [] := by
  intro c hc
  cases hc

/-- Neither white space nor what closes or separates goes on with a number. -/
theorem endsNumber_delimiter {c : Char} (h : c ∈ [',', ']', '}', ' ', '\n', '\t', '\r'])
    (rest : List Char) : EndsNumber (c :: rest) := by
  intro d hd
  cases hd
  simp only [List.mem_cons, List.not_mem_nil, or_false] at h
  rcases h with rfl | rfl | rfl | rfl | rfl | rfl | rfl <;> decide

section Stages

variable {cs tail rest : List Char}

/-- The digits at the front of a text are the same whatever follows the number. -/
theorem takeWhile_isDigit_append (cs : List Char) (h : EndsNumber rest) :
    (cs ++ rest).takeWhile Char.isDigit = cs.takeWhile Char.isDigit := by
  induction cs with
  | nil =>
    cases rest with
    | nil => rfl
    | cons c rest => simp [(h c rfl).1]
  | cons c cs ih =>
    rw [List.cons_append, List.takeWhile_cons, List.takeWhile_cons, ih]

/-- What stands behind those digits is followed by what follows the number. -/
theorem dropWhile_isDigit_append (cs : List Char) (h : EndsNumber rest) :
    (cs ++ rest).dropWhile Char.isDigit = cs.dropWhile Char.isDigit ++ rest := by
  induction cs with
  | nil =>
    cases rest with
    | nil => rfl
    | cons c rest => simp [(h c rfl).1]
  | cons c cs ih =>
    rw [List.cons_append, List.dropWhile_cons, List.dropWhile_cons, ih]
    split <;> rfl

/-- No fraction is read where the number ends. -/
theorem readFraction_of_endsNumber (h : EndsNumber rest) :
    readFraction rest = some (none, rest) := by
  cases rest with
  | nil => rfl
  | cons c rest =>
    have hpoint := (h c rfl).2.1
    unfold readFraction
    split
    · next heq => exact absurd (List.cons.inj heq).1 hpoint
    · rfl

/-- No exponent is read where the number ends. -/
theorem readExponent_of_endsNumber (h : EndsNumber rest) :
    readExponent rest = some (none, rest) := by
  cases rest with
  | nil => rfl
  | cons c rest =>
    obtain ⟨-, -, he, hE⟩ := h c rfl
    simp [readExponent, he, hE]

theorem readFraction_append {fraction : Option (List Char)}
    (h : readFraction cs = some (fraction, tail)) (hrest : EndsNumber rest) :
    readFraction (cs ++ rest) = some (fraction, tail ++ rest) := by
  cases cs with
  | nil =>
    cases h
    exact readFraction_of_endsNumber hrest
  | cons c cs =>
    by_cases hpoint : c = '.'
    · subst hpoint
      simp only [List.cons_append, readFraction, takeWhile_isDigit_append cs hrest,
        dropWhile_isDigit_append cs hrest] at h ⊢
      split at h
      · cases h
      · next hdigits =>
        cases h
        rw [if_neg hdigits]
    · have hnone (more : List Char) : readFraction (c :: more) = some (none, c :: more) := by
        simp [readFraction, hpoint]
      rw [hnone] at h
      cases h
      exact hnone (cs ++ rest)

/-- The exponent that digits make behind its mark and sign. -/
def signedExponent (negative : Bool) (cs : List Char) : Option (Option Int × List Char) :=
  let digits := cs.takeWhile Char.isDigit
  if digits.isEmpty then none
  else
    let n : Int := natOfDigits digits
    some (some (if negative then -n else n), cs.dropWhile Char.isDigit)

theorem signedExponent_append {negative : Bool} {exponent : Option Int}
    (h : signedExponent negative cs = some (exponent, tail)) (hrest : EndsNumber rest) :
    signedExponent negative (cs ++ rest) = some (exponent, tail ++ rest) := by
  simp only [signedExponent, takeWhile_isDigit_append cs hrest,
    dropWhile_isDigit_append cs hrest] at h ⊢
  split at h
  · cases h
  · next hdigits =>
    cases h
    rw [if_neg hdigits]

/-- Behind a mark the digits of the exponent follow, with a sign or without. -/
theorem readExponent_of_mark {c : Char} (hmark : c = 'e' ∨ c = 'E') (sign : Char) :
    ∃ (negative : Bool) (unsigned : List Char), ∀ cs,
      readExponent (c :: sign :: cs) = signedExponent negative (unsigned ++ cs) := by
  by_cases hminus : sign = '-'
  · subst hminus
    exact ⟨true, [], fun cs => by simp [readExponent, hmark, signedExponent]⟩
  · by_cases hplus : sign = '+'
    · subst hplus
      exact ⟨false, [], fun cs => by simp [readExponent, hmark, signedExponent]⟩
    · exact ⟨false, [sign], fun cs => by
        simp [readExponent, hmark, hminus, hplus, signedExponent]⟩

theorem readExponent_append {exponent : Option Int}
    (h : readExponent cs = some (exponent, tail)) (hrest : EndsNumber rest) :
    readExponent (cs ++ rest) = some (exponent, tail ++ rest) := by
  cases cs with
  | nil =>
    cases h
    exact readExponent_of_endsNumber hrest
  | cons c cs =>
    by_cases hmark : c = 'e' ∨ c = 'E'
    · cases cs with
      | nil => simp [readExponent, hmark] at h
      | cons sign cs =>
        obtain ⟨negative, unsigned, heq⟩ := readExponent_of_mark hmark sign
        rw [heq] at h
        have happend := signedExponent_append h hrest
        rw [List.append_assoc] at happend
        exact (heq (cs ++ rest)).trans happend
    · have hnone (more : List Char) : readExponent (c :: more) = some (none, c :: more) := by
        simp [readExponent, hmark]
      rw [hnone] at h
      cases h
      exact hnone (cs ++ rest)

/-- A number is read from a digit or a minus sign on. -/
theorem exists_head_of_readNumber {r : Number × List Char} (h : readNumber cs = some r) :
    ∃ c tail, cs = c :: tail ∧ (c = '-' ∨ c.isDigit = true) := by
  cases cs with
  | nil => simp [readNumber] at h
  | cons c tail =>
    refine ⟨c, tail, rfl, ?_⟩
    by_contra hhead
    obtain ⟨hminus, hdigit⟩ := not_or.1 hhead
    simp [readNumber, hminus, hdigit] at h

/-- A number is read behind its sign. -/
def readUnsigned (negative : Bool) (cs : List Char) : Option (Number × List Char) := do
  let whole := cs.takeWhile Char.isDigit
  if whole.isEmpty ∨ (whole.head? = some '0' ∧ 1 < whole.length) then none
  else
    let (fraction, cs) ← readFraction (cs.dropWhile Char.isDigit)
    let (exponent, cs) ← readExponent cs
    let n ← numberOf negative whole fraction exponent
    some (n, cs)

theorem readUnsigned_append {negative : Bool} {n : Number}
    (h : readUnsigned negative cs = some (n, tail)) (hrest : EndsNumber rest) :
    readUnsigned negative (cs ++ rest) = some (n, tail ++ rest) := by
  simp only [readUnsigned, takeWhile_isDigit_append cs hrest,
    dropWhile_isDigit_append cs hrest] at h ⊢
  split at h
  · cases h
  · next hwhole =>
    simp only [Option.bind_eq_bind, Option.bind_eq_some_iff] at h
    obtain ⟨⟨fraction, more⟩, hfraction, ⟨exponent, left⟩, hexponent, m, hm, heq⟩ := h
    cases heq
    rw [if_neg hwhole]
    simp only [readFraction_append hfraction hrest, readExponent_append hexponent hrest, hm,
      Option.bind_eq_bind, Option.bind_some]

/-- A number is read the same whatever follows it. -/
theorem readNumber_append {n : Number} (h : readNumber cs = some (n, tail))
    (hrest : EndsNumber rest) : readNumber (cs ++ rest) = some (n, tail ++ rest) := by
  obtain ⟨c, cs, rfl, -⟩ := exists_head_of_readNumber h
  by_cases hminus : c = '-'
  · subst hminus
    have hunsigned (more : List Char) : readNumber ('-' :: more) = readUnsigned true more := rfl
    rw [hunsigned] at h
    exact (hunsigned (cs ++ rest)).trans (readUnsigned_append h hrest)
  · have hunsigned (more : List Char) :
        readNumber (c :: more) = readUnsigned false (c :: more) := by
      simp [readNumber, readUnsigned, hminus]
    rw [hunsigned] at h
    exact (hunsigned (cs ++ rest)).trans (readUnsigned_append h hrest)

end Stages

/-! ## What a value begins with -/

/-- A character that a value may begin with: it is no space and closes nothing. -/
structure BeginsValue (c : Char) : Prop where
  not_space : isSpace c = false
  not_bracket : c ≠ ']'
  not_brace : c ≠ '}'

/-- A character that begins a number is no other character. -/
theorem ne_of_beginsNumber {c d : Char} (h : c = '-' ∨ c.isDigit = true) (hminus : d ≠ '-')
    (hdigit : d.isDigit = false) : c ≠ d := by
  rintro rfl
  rcases h with rfl | hc
  · exact hminus rfl
  · rw [hc] at hdigit
    cases hdigit

theorem beginsValue_of_number {c : Char} (h : c = '-' ∨ c.isDigit = true) : BeginsValue c := by
  have hspace := ne_of_beginsNumber (d := ' ') h (by decide) (by decide)
  have hnewline := ne_of_beginsNumber (d := '\n') h (by decide) (by decide)
  have htab := ne_of_beginsNumber (d := '\t') h (by decide) (by decide)
  have hreturn := ne_of_beginsNumber (d := '\r') h (by decide) (by decide)
  exact ⟨by simp [isSpace, hspace, hnewline, htab, hreturn],
    ne_of_beginsNumber h (by decide) (by decide), ne_of_beginsNumber h (by decide) (by decide)⟩

theorem beginsValue_of_ne {c : Char} (h : isSpace c = false ∧ c ≠ ']' ∧ c ≠ '}') :
    BeginsValue c :=
  ⟨h.1, h.2.1, h.2.2⟩

/-! ## White space -/

/-- White space between the parts of a text. -/
def IsGap (cs : List Char) : Prop :=
  ∀ c ∈ cs, isSpace c = true

theorem isGap_nil : IsGap [] :=
  fun _ h => nomatch h

theorem isGap_singleton {c : Char} (h : isSpace c = true) : IsGap [c] := by
  intro d hd
  rw [List.mem_singleton.1 hd]
  exact h

section Gaps

variable {gap : List Char}

theorem skipSpace_gap (h : IsGap gap) (cs : List Char) :
    skipSpace (gap ++ cs) = skipSpace cs :=
  List.dropWhile_append_of_pos h

theorem skipSpace_cons {c : Char} (h : isSpace c = false) (cs : List Char) :
    skipSpace (c :: cs) = c :: cs := by
  simp [skipSpace, h]

theorem endsNumber_gap (h : IsGap gap) {rest : List Char} (hrest : EndsNumber rest) :
    EndsNumber (gap ++ rest) := by
  cases gap with
  | nil => exact hrest
  | cons c gap =>
    have hspace : c = ' ' ∨ c = '\n' ∨ c = '\t' ∨ c = '\r' := by
      simpa [isSpace, or_assoc] using h c List.mem_cons_self
    exact endsNumber_delimiter (by simp [hspace]) _

/-- White space before a value is passed over. -/
theorem readValue_gap (h : IsGap gap) (fuel depth : Nat) (cs : List Char) :
    readValue fuel depth (gap ++ cs) = readValue fuel depth cs := by
  cases fuel with
  | zero => rfl
  | succ fuel => rw [readValue, readValue, skipSpace_gap h]

/-- White space before an item is passed over. -/
theorem readItems_gap (h : IsGap gap) (fuel depth : Nat) (cs : List Char) :
    readItems fuel depth (gap ++ cs) = readItems fuel depth cs := by
  cases fuel with
  | zero => rfl
  | succ fuel => rw [readItems, readItems, readValue_gap h]

/-- White space before a field is passed over. -/
theorem readFields_gap (h : IsGap gap) (fuel depth : Nat) (cs : List Char) :
    readFields fuel depth (gap ++ cs) = readFields fuel depth cs := by
  cases fuel with
  | zero => rfl
  | succ fuel => rw [readFields, readFields, skipSpace_gap h]

end Gaps

/-! ## Parts of a text -/

/-- A text is read as a value, whatever follows it.  The reader needs twice as much fuel as the
text is long, and as many levels of arrays and objects as are nested in it. -/
structure ReadsAs (depth : Nat) (cs : List Char) (j : Json) : Prop where
  begins : ∃ c tail, cs = c :: tail ∧ BeginsValue c
  eq : ∀ fuel levels rest, 2 * cs.length ≤ fuel → depth ≤ levels → EndsNumber rest →
    readValue (fuel + 1) levels (cs ++ rest) = some (j, rest)

/-- A text is read as the items of an array from behind its opening bracket on. -/
structure ItemsReadAs (depth : Nat) (cs : List Char) (items : List Json) : Prop where
  begins : ∃ gap c tail, cs = gap ++ c :: tail ∧ IsGap gap ∧ BeginsValue c
  eq : ∀ fuel levels rest, 2 * cs.length + 1 ≤ fuel → depth ≤ levels →
    readItems (fuel + 1) levels (cs ++ rest) = some (items, rest)

/-- A text is read as the fields of an object from behind its opening brace on. -/
structure FieldsReadAs (depth : Nat) (cs : List Char) (fields : List (String × Json)) : Prop where
  begins : ∃ gap tail, cs = gap ++ '"' :: tail ∧ IsGap gap
  eq : ∀ fuel levels rest, 2 * cs.length + 1 ≤ fuel → depth ≤ levels →
    readFields (fuel + 1) levels (cs ++ rest) = some (fields, rest)

section Parts

variable {depth : Nat} {cs more gap before : List Char} {j : Json} {items : List Json}
  {fields : List (String × Json)} {fuel levels : Nat} {rest : List Char}

theorem ReadsAs.readValue_eq (h : ReadsAs depth cs j) (hfuel : 2 * cs.length < fuel)
    (hlevels : depth ≤ levels) (hrest : EndsNumber rest) :
    readValue fuel levels (cs ++ rest) = some (j, rest) := by
  obtain ⟨fuel, rfl⟩ := Nat.exists_eq_add_one_of_ne_zero (Nat.ne_zero_of_lt hfuel)
  exact h.eq fuel levels rest (Nat.le_of_lt_succ hfuel) hlevels hrest

theorem ItemsReadAs.readItems_eq (h : ItemsReadAs depth cs items)
    (hfuel : 2 * cs.length + 1 < fuel) (hlevels : depth ≤ levels) :
    readItems fuel levels (cs ++ rest) = some (items, rest) := by
  obtain ⟨fuel, rfl⟩ := Nat.exists_eq_add_one_of_ne_zero (Nat.ne_zero_of_lt hfuel)
  exact h.eq fuel levels rest (Nat.le_of_lt_succ hfuel) hlevels

theorem FieldsReadAs.readFields_eq (h : FieldsReadAs depth cs fields)
    (hfuel : 2 * cs.length + 1 < fuel) (hlevels : depth ≤ levels) :
    readFields fuel levels (cs ++ rest) = some (fields, rest) := by
  obtain ⟨fuel, rfl⟩ := Nat.exists_eq_add_one_of_ne_zero (Nat.ne_zero_of_lt hfuel)
  exact h.eq fuel levels rest (Nat.le_of_lt_succ hfuel) hlevels

/-- A value that is not nested too deeply for some levels is not for more. -/
theorem ReadsAs.mono (h : ReadsAs depth cs j) {depth' : Nat} (hle : depth ≤ depth') :
    ReadsAs depth' cs j where
  begins := h.begins
  eq fuel levels rest hfuel hlevels hrest :=
    h.eq fuel levels rest hfuel (Nat.le_trans hle hlevels) hrest

/-- A whole text is read as its value, with white space behind it. -/
theorem ReadsAs.parseChars?_eq (h : ReadsAs depth cs j) (hdepth : depth ≤ nestingLimit)
    (hgap : IsGap gap) : parseChars? (cs ++ gap) = some j := by
  have hend : EndsNumber gap := by
    simpa using endsNumber_gap hgap endsNumber_nil
  have hskip : skipSpace gap = [] := by
    have hgap := skipSpace_gap hgap []
    rw [List.append_nil] at hgap
    exact hgap
  have hfuel : 2 * cs.length < 2 * (cs ++ gap).length + 2 := by
    rw [List.length_append]
    omega
  have hread := h.readValue_eq hfuel hdepth hend
  rw [parseChars?, hread]
  simp [hskip]

/-! ### Values without parts -/

theorem readsAs_null (depth : Nat) : ReadsAs depth (renderChars .null) .null where
  begins := ⟨'n', _, rfl, beginsValue_of_ne (by decide)⟩
  eq fuel levels rest hfuel _ _ := by
    rfl

theorem readsAs_bool (depth : Nat) (b : Bool) :
    ReadsAs depth (renderChars (.bool b)) (.bool b) where
  begins := by
    cases b with
    | true => exact ⟨'t', _, rfl, beginsValue_of_ne (by decide)⟩
    | false => exact ⟨'f', _, rfl, beginsValue_of_ne (by decide)⟩
  eq fuel levels rest hfuel _ _ := by
    cases b with
    | true => rfl
    | false => rfl

/-- Where a string stands, its characters are read. -/
theorem readsAs_string (depth : Nat) (s : String) : ReadsAs depth (stringChars s) (.string s) where
  begins := ⟨'"', _, rfl, beginsValue_of_ne (by decide)⟩
  eq fuel levels rest hfuel _ _ := by
    have hread : readString (s.toList.flatMap escapeChar ++ ['"'] ++ rest) =
        some (s.toList, rest) := by
      rw [List.append_assoc]
      exact readString_escaped s.toList rest
    have hquote : skipSpace (stringChars s ++ rest) =
        '"' :: (s.toList.flatMap escapeChar ++ ['"'] ++ rest) := rfl
    rw [readValue, hquote]
    simp only [hread, Option.map_some, String.ofList_toList]

/-- Where a number stands, a number is read. -/
theorem readValue_of_number {r : Number × List Char} (h : readNumber cs = some r)
    (fuel levels : Nat) : readValue (fuel + 1) levels cs = some (.number r.1, r.2) := by
  obtain ⟨c, tail, rfl, hc⟩ := exists_head_of_readNumber h
  have hne : ∀ d : Char, d ≠ '-' → d.isDigit = false → c ≠ d :=
    fun d => ne_of_beginsNumber hc
  rw [readValue, skipSpace_cons (beginsValue_of_number hc).not_space]
  split
  · next heq => exact absurd (List.cons.inj heq).1 (hne 'n' (by decide) (by decide))
  · next heq => exact absurd (List.cons.inj heq).1 (hne 't' (by decide) (by decide))
  · next heq => exact absurd (List.cons.inj heq).1 (hne 'f' (by decide) (by decide))
  · next heq => exact absurd (List.cons.inj heq).1 (hne '"' (by decide) (by decide))
  · next heq => exact absurd (List.cons.inj heq).1 (hne '[' (by decide) (by decide))
  · next heq => exact absurd (List.cons.inj heq).1 (hne '{' (by decide) (by decide))
  · rw [h]
    rfl

theorem readsAs_number (depth : Nat) {n : Number} (h : readNumber cs = some (n, [])) :
    ReadsAs depth cs (.number n) where
  begins := by
    obtain ⟨c, tail, hcs, hc⟩ := exists_head_of_readNumber h
    exact ⟨c, tail, hcs, beginsValue_of_number hc⟩
  eq fuel levels rest hfuel _ hrest := by
    exact readValue_of_number (readNumber_append h hrest) fuel levels

/-! ### Arrays -/

theorem readsAs_emptyArray (depth : Nat) : ReadsAs (depth + 1) ['[', ']'] (.array []) where
  begins := ⟨'[', _, rfl, beginsValue_of_ne (by decide)⟩
  eq fuel levels rest hfuel hlevels _ := by
    obtain ⟨levels, rfl⟩ : ∃ n, levels = n + 1 :=
      Nat.exists_eq_add_one_of_ne_zero (by omega)
    rfl

/-- Behind an opening bracket the items of an array are read. -/
theorem ItemsReadAs.array (h : ItemsReadAs depth cs items) :
    ReadsAs (depth + 1) ('[' :: cs) (.array items) where
  begins := ⟨'[', _, rfl, beginsValue_of_ne (by decide)⟩
  eq fuel levels rest hfuel hlevels _ := by
    obtain ⟨levels, rfl⟩ : ∃ n, levels = n + 1 :=
      Nat.exists_eq_add_one_of_ne_zero (by omega)
    obtain ⟨gap, c, tail, hcs, hgap, hc⟩ := h.begins
    rw [List.length_cons] at hfuel
    have hread : readItems fuel levels (cs ++ rest) = some (items, rest) :=
      h.readItems_eq (by omega) (by omega)
    have hbracket : skipSpace ('[' :: cs ++ rest) = '[' :: (cs ++ rest) := rfl
    have hfirst : skipSpace (cs ++ rest) = c :: (tail ++ rest) := by
      rw [hcs, List.append_assoc, skipSpace_gap hgap]
      exact skipSpace_cons hc.not_space _
    rw [readValue, hbracket]
    simp only [hfirst]
    split
    · next heq => exact absurd (List.cons.inj heq).1 hc.not_bracket
    · rw [hread]
      rfl

/-- The item before a closing bracket is the last one. -/
theorem ReadsAs.lastItem (h : ReadsAs depth cs j) (hbefore : IsGap before) (hgap : IsGap gap) :
    ItemsReadAs depth (before ++ (cs ++ (gap ++ [']']))) [j] where
  begins := by
    obtain ⟨c, tail, rfl, hc⟩ := h.begins
    exact ⟨before, c, _, rfl, hbefore, hc⟩
  eq fuel levels rest hfuel hlevels := by
    simp only [List.length_append] at hfuel
    have hend : EndsNumber (gap ++ ']' :: rest) :=
      endsNumber_gap hgap (endsNumber_delimiter (by decide) rest)
    have hread := h.readValue_eq (show 2 * cs.length < fuel by omega) hlevels hend
    have hclose : skipSpace (gap ++ ']' :: rest) = ']' :: rest := by
      rw [skipSpace_gap hgap]
      rfl
    simp only [List.append_assoc, List.singleton_append]
    rw [readItems_gap hbefore, readItems, hread]
    simp only [hclose]

/-- Behind a comma other items follow. -/
theorem ReadsAs.itemThen (h : ReadsAs depth cs j) (hbefore : IsGap before)
    (hmore : ItemsReadAs depth more items) :
    ItemsReadAs depth (before ++ (cs ++ ',' :: more)) (j :: items) where
  begins := by
    obtain ⟨c, tail, rfl, hc⟩ := h.begins
    exact ⟨before, c, _, rfl, hbefore, hc⟩
  eq fuel levels rest hfuel hlevels := by
    simp only [List.length_append, List.length_cons] at hfuel
    have hend : EndsNumber (',' :: (more ++ rest)) := endsNumber_delimiter (by decide) _
    have hread := h.readValue_eq (show 2 * cs.length < fuel by omega) hlevels hend
    have hreadMore : readItems fuel levels (more ++ rest) = some (items, rest) :=
      hmore.readItems_eq (by omega) hlevels
    have hcomma : skipSpace (',' :: (more ++ rest)) = ',' :: (more ++ rest) := rfl
    simp only [List.append_assoc, List.cons_append]
    rw [readItems_gap hbefore, readItems, hread]
    simp only [hcomma, hreadMore, Option.map_some]

/-! ### Objects -/

theorem readsAs_emptyObject (depth : Nat) : ReadsAs (depth + 1) ['{', '}'] (.object []) where
  begins := ⟨'{', _, rfl, beginsValue_of_ne (by decide)⟩
  eq fuel levels rest hfuel hlevels _ := by
    obtain ⟨levels, rfl⟩ : ∃ n, levels = n + 1 :=
      Nat.exists_eq_add_one_of_ne_zero (by omega)
    rfl

/-- Behind an opening brace the fields of an object are read. -/
theorem FieldsReadAs.object (h : FieldsReadAs depth cs fields) :
    ReadsAs (depth + 1) ('{' :: cs) (.object (sortFields fields)) where
  begins := ⟨'{', _, rfl, beginsValue_of_ne (by decide)⟩
  eq fuel levels rest hfuel hlevels _ := by
    obtain ⟨levels, rfl⟩ : ∃ n, levels = n + 1 :=
      Nat.exists_eq_add_one_of_ne_zero (by omega)
    obtain ⟨gap, tail, hcs, hgap⟩ := h.begins
    rw [List.length_cons] at hfuel
    have hread : readFields fuel levels (cs ++ rest) = some (fields, rest) :=
      h.readFields_eq (by omega) (by omega)
    have hbrace : skipSpace ('{' :: cs ++ rest) = '{' :: (cs ++ rest) := rfl
    have hquote : skipSpace (cs ++ rest) = '"' :: (tail ++ rest) := by
      rw [hcs, List.append_assoc, skipSpace_gap hgap]
      rfl
    rw [readValue, hbrace]
    simp only [hquote, hread, Option.map_some]
    rfl

/-- What is read behind the value of a field: nothing more before a closing brace, and the other
fields behind a comma. -/
def readBehindField (fuel levels : Nat) (field : String × Json) :
    List Char → Option (List (String × Json) × List Char)
  | '}' :: rest => some ([field], rest)
  | ',' :: rest => (readFields fuel levels rest).map fun (fields, r) => (field :: fields, r)
  | _ => none

/-- A field is read up to what follows its value. -/
theorem readFields_field (h : ReadsAs depth cs j) (hbefore : IsGap before) (hgap : IsGap gap)
    (name : String) {tail : List Char} (hfuel : 2 * cs.length < fuel)
    (hlevels : depth ≤ levels) (htail : EndsNumber tail) :
    readFields (fuel + 1) levels (before ++ (stringChars name ++ ':' :: (gap ++ (cs ++ tail)))) =
      readBehindField fuel levels (name, j) (skipSpace tail) := by
  have hname :
      readString (name.toList.flatMap escapeChar ++ ['"'] ++ ':' :: (gap ++ (cs ++ tail))) =
      some (name.toList, ':' :: (gap ++ (cs ++ tail))) := by
    rw [List.append_assoc]
    exact readString_escaped name.toList _
  have hquote : skipSpace (stringChars name ++ ':' :: (gap ++ (cs ++ tail))) =
      '"' :: (name.toList.flatMap escapeChar ++ ['"'] ++ ':' :: (gap ++ (cs ++ tail))) := rfl
  have hcolon : skipSpace (':' :: (gap ++ (cs ++ tail))) = ':' :: (gap ++ (cs ++ tail)) := rfl
  rw [readFields_gap hbefore, readFields, hquote]
  simp only [hname, hcolon, readValue_gap hgap, h.readValue_eq hfuel hlevels htail,
    String.ofList_toList]
  rfl

/-- The field before a closing brace is the last one. -/
theorem ReadsAs.lastField (h : ReadsAs depth cs j) (name : String) {after : List Char}
    (hbefore : IsGap before) (hgap : IsGap gap) (hafter : IsGap after) :
    FieldsReadAs depth
      (before ++ (stringChars name ++ ':' :: (gap ++ (cs ++ (after ++ ['}']))))) [(name, j)] where
  begins := ⟨before, _, rfl, hbefore⟩
  eq fuel levels rest hfuel hlevels := by
    simp only [List.length_append, List.length_cons] at hfuel
    have hend : EndsNumber (after ++ '}' :: rest) :=
      endsNumber_gap hafter (endsNumber_delimiter (by decide) rest)
    have hclose : skipSpace (after ++ '}' :: rest) = '}' :: rest := by
      rw [skipSpace_gap hafter]
      rfl
    simp only [List.append_assoc, List.cons_append, List.nil_append]
    rw [readFields_field h hbefore hgap name (by omega) hlevels hend, hclose]
    rfl

/-- Behind a comma other fields follow. -/
theorem ReadsAs.fieldThen (h : ReadsAs depth cs j) (name : String) (hbefore : IsGap before)
    (hgap : IsGap gap) (hmore : FieldsReadAs depth more fields) :
    FieldsReadAs depth (before ++ (stringChars name ++ ':' :: (gap ++ (cs ++ ',' :: more))))
      ((name, j) :: fields) where
  begins := ⟨before, _, rfl, hbefore⟩
  eq fuel levels rest hfuel hlevels := by
    simp only [List.length_append, List.length_cons] at hfuel
    have hend : EndsNumber (',' :: (more ++ rest)) := endsNumber_delimiter (by decide) _
    have hreadMore : readFields fuel levels (more ++ rest) = some (fields, rest) :=
      hmore.readFields_eq (by omega) hlevels
    have hcomma : skipSpace (',' :: (more ++ rest)) = ',' :: (more ++ rest) := rfl
    simp only [List.append_assoc, List.cons_append]
    rw [readFields_field h hbefore hgap name (by omega) hlevels hend, hcomma, readBehindField,
      hreadMore]
    rfl

end Parts
end Json
end AgentRelay
