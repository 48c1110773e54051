import AgentRelay.Proofs.JsonGrammar
import Mathlib.Data.List.Forall2
import Mathlib.Data.List.TakeWhile
import Mathlib.Data.Nat.Digits.Defs

/-!
# Reading what was written

A value that is written without spaces, or over several lines, is read back, with the fields of
its objects sorted, as long as its numbers are read back and it is not nested too deeply.
Integers in the range of a 64-bit word are; so are strings, whatever characters they hold.  The
text without spaces is one line.

Main definitions:

- {lit}`Json.Number.ReadsBack`: a number is read back, whatever follows it.
- {lit}`Json.EveryNumber`: what holds of every number in a value.
- {lit}`Json.Number.IsWord`: a number is an integer of a 64-bit word.
- {lit}`Json.depth`: how deep arrays and objects are nested.
- {lit}`Json.ReadsBackAs`: both texts of a value are read as a value.

Main results:

- Theorem {lit}`readsBack_integer`: integers of 64-bit words are read back.
- Theorem {lit}`fieldsReadAs_renderFields`: the fields of an object are read as what their values
  are read as.
- Theorem {lit}`parseChars?_renderChars`: the text of a value is read as that value.
- Theorem {lit}`parseChars?_indentedChars`: so is its text over several lines.
- Theorem {lit}`newline_notMem_renderChars`: a written value is one line.
-/

namespace AgentRelay
namespace Json

/-! ## Numbers -/

/-- A number is read back from its text, whatever follows. -/
def Number.ReadsBack (n : Number) : Prop :=
  ∀ rest, EndsNumber rest → readNumber (numberChars n ++ rest) = some (n, rest)

section Digits

variable {digits rest : List Char}

theorem takeWhile_digits (hdigits : ∀ c ∈ digits, c.isDigit = true) (hrest : EndsNumber rest) :
    (digits ++ rest).takeWhile Char.isDigit = digits := by
  rw [takeWhile_isDigit_append digits hrest, List.takeWhile_eq_self_iff.2 hdigits]

theorem dropWhile_digits (hdigits : ∀ c ∈ digits, c.isDigit = true) (hrest : EndsNumber rest) :
    (digits ++ rest).dropWhile Char.isDigit = rest := by
  rw [dropWhile_isDigit_append digits hrest, List.dropWhile_eq_nil_iff.2 hdigits, List.nil_append]

end Digits

/-- The digits of a number are those of decimal notation. -/
theorem isDigit_of_mem_digits {n : Nat} {c : Char} (h : c ∈ Nat.toDigits 10 n) :
    c.isDigit = true :=
  Nat.isDigit_of_mem_toDigits (by omega) (by omega) h

/-- A positive number is written without leading zeros. -/
theorem head?_digits_ne_zero {n : Nat} (h : 0 < n) : (Nat.toDigits 10 n).head? ≠ some '0' := by
  induction n using Nat.strongRecOn with
  | _ n ih =>
    by_cases hlt : n < 10
    · rw [Nat.toDigits_of_lt_base hlt]
      intro hzero
      have hchar : n.digitChar = '0' := by simpa using hzero
      rw [Nat.digitChar_eq_zero] at hchar
      omega
    · have hle : 10 ≤ n := by omega
      rw [Nat.toDigits_of_base_le (by omega) hle, List.head?_append_of_ne_nil _ Nat.toDigits_ne_nil]
      exact ih (n / 10) (by omega) (by omega)

/-- The digits of a number have no leading zero that could be left out. -/
theorem not_leadingZero_digits (n : Nat) :
    ¬ ((Nat.toDigits 10 n).isEmpty = true ∨
      ((Nat.toDigits 10 n).head? = some '0' ∧ 1 < (Nat.toDigits 10 n).length)) := by
  rintro (hempty | ⟨hzero, hlength⟩)
  · exact Nat.toDigits_ne_nil (List.isEmpty_iff.1 hempty)
  · rcases Nat.eq_zero_or_pos n with rfl | hpos
    · rw [Nat.toDigits_zero] at hlength
      simp at hlength
    · exact head?_digits_ne_zero hpos hzero

/-- The digits of a number below the limit are collected in full. -/
theorem collect_digits {n : Nat} (h : n ≤ Digits.limit) :
    Digits.collect (Nat.toDigits 10 n) [] = (n, 0) := by
  have hfold : (Nat.toDigits 10 n).foldl (fun n c => n * 10 + digitValue c) 0 = n := by
    have hvalue := Nat.ofDigitChars_ten_toDigits (n := n)
    rw [Nat.ofDigitChars_eq_foldl] at hvalue
    simpa only [digitValue, Nat.mul_comm 10] using hvalue
  have hbefore : Digits.before 0 (Nat.toDigits 10 n) = (n, 0) := by
    rw [Digits.before_zero_of_le 0 (by rw [hfold]; exact h), hfold]
  simp [Digits.collect, hbefore, Digits.after]

/-- A sign and the digits of a number are read as the number that they make. -/
theorem readNumber_digits {n : Nat} {number : Number} {rest : List Char} {negative : Bool}
    (hrest : EndsNumber rest)
    (hnumber : numberOf negative (Nat.toDigits 10 n) none none = some number) :
    readNumber ((if negative then ['-'] else []) ++ (Nat.toDigits 10 n ++ rest)) =
      some (number, rest) := by
  have hdigits : ∀ c ∈ Nat.toDigits 10 n, c.isDigit = true := fun c hc => isDigit_of_mem_digits hc
  have hunsigned : ∀ tail, Nat.toDigits 10 n ++ rest ≠ '-' :: tail := by
    intro tail heq
    cases hcons : Nat.toDigits 10 n with
    | nil => exact Nat.toDigits_ne_nil hcons
    | cons d ds =>
      rw [hcons] at heq
      have hd : d = '-' := (List.cons.inj heq).1
      exact absurd (hdigits d (by rw [hcons]; exact List.mem_cons_self)) (by rw [hd]; decide)
  unfold readNumber
  split
  next sign cs hsign =>
  obtain ⟨rfl, rfl⟩ : sign = negative ∧ cs = Nat.toDigits 10 n ++ rest := by
    cases negative with
    | true =>
      cases hsign
      exact ⟨rfl, rfl⟩
    | false =>
      split at hsign
      · next tail heq => exact absurd heq (hunsigned tail)
      · cases hsign
        exact ⟨rfl, rfl⟩
  simp only [takeWhile_digits hdigits hrest, dropWhile_digits hdigits hrest,
    if_neg (not_leadingZero_digits n), readFraction_of_endsNumber hrest,
    readExponent_of_endsNumber hrest, hnumber, Option.bind_eq_bind, Option.bind_some]

/-- An integer of a 64-bit word is read back. -/
theorem readsBack_integer {n : Int} (h : Number.InRange n) : (Number.integer n).ReadsBack := by
  intro rest hrest
  obtain ⟨hleast, hgreatest⟩ := h
  norm_num at hleast hgreatest
  have hlimit : n.natAbs ≤ Digits.limit := by
    unfold Digits.limit
    norm_num
    omega
  have hcollect := collect_digits hlimit
  rcases Int.lt_or_le n 0 with hneg | hnonneg
  · have hnumber : numberOf true (Nat.toDigits 10 n.natAbs) none none = some (.integer n) := by
      have hword : ¬ (n.natAbs = 0 ∨ Nat.pow 2 63 < n.natAbs) := by
        norm_num
        omega
      have hsigned : -(n.natAbs : Int) = n := by omega
      simp only [numberOf, Option.getD_none, hcollect, Option.isNone_none, true_and, if_true,
        Bool.true_eq_false, if_false, if_neg hword, hsigned]
    have hchars : numberChars (.integer n) = '-' :: Nat.toDigits 10 n.natAbs := by
      simp [numberChars, integerChars, hneg]
    rw [hchars]
    exact readNumber_digits hrest hnumber
  · have hnumber : numberOf false (Nat.toDigits 10 n.natAbs) none none = some (.integer n) := by
      have hunsigned : (n.natAbs : Int) = n := by omega
      simp [numberOf, hcollect, hunsigned]
    have hchars : numberChars (.integer n) = Nat.toDigits 10 n.natAbs := by
      have htoNat : n.toNat = n.natAbs := by omega
      rw [numberChars, integerChars, if_neg (by omega), htoNat]
    rw [hchars]
    exact readNumber_digits hrest hnumber

/-! ## Values -/

mutual

/-- How deep arrays and objects are nested in a value. -/
def depth : Json → Nat
  | .array items => depthOfItems items + 1
  | .object fields => depthOfFields fields + 1
  | _ => 0

/-- How deep arrays and objects are nested in some items. -/
def depthOfItems : List Json → Nat
  | [] => 0
  | item :: rest => max item.depth (depthOfItems rest)

/-- How deep arrays and objects are nested in the values of some fields. -/
def depthOfFields : List (String × Json) → Nat
  | [] => 0
  | (_, value) :: rest => max value.depth (depthOfFields rest)

end

mutual

/-- A property holds of every number in a value. -/
def EveryNumber (P : Number → Prop) : Json → Prop
  | .number n => P n
  | .array items => EveryNumberOfItems P items
  | .object fields => EveryNumberOfFields P fields
  | _ => True

/-- A property holds of every number in some items. -/
def EveryNumberOfItems (P : Number → Prop) : List Json → Prop
  | [] => True
  | item :: rest => item.EveryNumber P ∧ EveryNumberOfItems P rest

/-- A property holds of every number in the values of some fields. -/
def EveryNumberOfFields (P : Number → Prop) : List (String × Json) → Prop
  | [] => True
  | (_, value) :: rest => value.EveryNumber P ∧ EveryNumberOfFields P rest

end

theorem everyNumberOfItems_iff {P : Number → Prop} {items : List Json} :
    EveryNumberOfItems P items ↔ ∀ item ∈ items, item.EveryNumber P := by
  induction items with
  | nil => simp [EveryNumberOfItems]
  | cons item items ih => simp [EveryNumberOfItems, ih]

theorem everyNumberOfFields_iff {P : Number → Prop} {fields : List (String × Json)} :
    EveryNumberOfFields P fields ↔ ∀ field ∈ fields, field.2.EveryNumber P := by
  induction fields with
  | nil => simp [EveryNumberOfFields]
  | cons field fields ih =>
    obtain ⟨name, value⟩ := field
    simp [EveryNumberOfFields, ih]

theorem everyNumberOfFields_append {P : Number → Prop} {as bs : List (String × Json)} :
    EveryNumberOfFields P (as ++ bs) ↔ EveryNumberOfFields P as ∧ EveryNumberOfFields P bs := by
  simp only [everyNumberOfFields_iff, List.mem_append, or_imp, forall_and]

/-- A number that is an integer of a 64-bit word. -/
def Number.IsWord (n : Number) : Prop :=
  ∃ i, n = .integer i ∧ InRange i

theorem Number.IsWord.readsBack {n : Number} (h : n.IsWord) : n.ReadsBack := by
  obtain ⟨i, rfl, hrange⟩ := h
  exact readsBack_integer hrange

mutual

/-- What follows from a property of numbers holds of every number too. -/
theorem EveryNumber.imp {P Q : Number → Prop} (hPQ : ∀ n, P n → Q n) (j : Json)
    (h : j.EveryNumber P) : j.EveryNumber Q := by
  cases j with
  | null => trivial
  | bool b => trivial
  | number n => exact hPQ n h
  | string s => trivial
  | array items => exact EveryNumberOfItems.imp hPQ items h
  | object fields => exact EveryNumberOfFields.imp hPQ fields h

theorem EveryNumberOfItems.imp {P Q : Number → Prop} (hPQ : ∀ n, P n → Q n) (items : List Json)
    (h : EveryNumberOfItems P items) : EveryNumberOfItems Q items := by
  cases items with
  | nil => trivial
  | cons item items => exact ⟨EveryNumber.imp hPQ item h.1, EveryNumberOfItems.imp hPQ items h.2⟩

theorem EveryNumberOfFields.imp {P Q : Number → Prop} (hPQ : ∀ n, P n → Q n)
    (fields : List (String × Json)) (h : EveryNumberOfFields P fields) :
    EveryNumberOfFields Q fields := by
  cases fields with
  | nil => trivial
  | cons field fields =>
    exact ⟨EveryNumber.imp hPQ field.2 h.1, EveryNumberOfFields.imp hPQ fields h.2⟩

end

/-! ## Written values -/

/-- Both texts of a value, without spaces and over several lines, are read as a value. -/
structure ReadsBackAs (depth : Nat) (j value : Json) : Prop where
  compact : ReadsAs depth (renderChars j) value
  indented : ∀ level, ReadsAs depth (indentedChars level j) value

theorem ReadsBackAs.mono {depth depth' : Nat} {j value : Json} (h : ReadsBackAs depth j value)
    (hle : depth ≤ depth') : ReadsBackAs depth' j value where
  compact := h.compact.mono hle
  indented level := (h.indented level).mono hle

section Parts

variable {depth : Nat} {written value : Json} {items values : List Json}
  {fields contents : List (String × Json)}

/-- The items of an array are read as what each of them is read as. -/
theorem itemsReadAs_renderItems (hitem : ReadsAs depth (renderChars written) value)
    (hitems : List.Forall₂ (fun item value => ReadsAs depth (renderChars item) value)
      items values) :
    ItemsReadAs depth (renderChars written ++ renderItems items) (value :: values) := by
  induction hitems generalizing written value with
  | nil => exact hitem.lastItem isGap_nil isGap_nil
  | cons hnext _ ih => exact hitem.itemThen isGap_nil (ih hnext)

/-- The fields of an object are read as what their values are read as. -/
theorem fieldsReadAs_renderFields (name : String)
    (hfield : ReadsAs depth (renderChars written) value)
    (hfields : List.Forall₂
      (fun field content => field.1 = content.1 ∧ ReadsAs depth (renderChars field.2) content.2)
      fields contents) :
    FieldsReadAs depth (stringChars name ++ ':' :: (renderChars written ++ renderFields fields))
      ((name, value) :: contents) := by
  induction hfields generalizing name written value with
  | nil => exact hfield.lastField name isGap_nil isGap_nil isGap_nil
  | @cons field content _ _ hnext _ ih =>
    obtain ⟨other, written'⟩ := field
    obtain ⟨_, value'⟩ := content
    obtain ⟨rfl, hnext⟩ := hnext
    exact hfield.fieldThen name isGap_nil isGap_nil (ih other hnext)

theorem isGap_lineStart (level : Nat) : IsGap (lineStart level) := by
  intro c hc
  rcases List.mem_cons.1 hc with rfl | hc
  · rfl
  · rw [(List.mem_replicate.1 hc).2]
    rfl

/-- Items on lines of their own are read as what each of them is read as. -/
theorem itemsReadAs_indentedItems {level : Nat}
    (hitem : ReadsAs depth (indentedChars (level + 1) written) value)
    (hitems : List.Forall₂
      (fun item value => ReadsAs depth (indentedChars (level + 1) item) value) items values) :
    ItemsReadAs depth
      (lineStart (level + 1) ++ (indentedChars (level + 1) written ++ indentedItems level items))
      (value :: values) := by
  induction hitems generalizing written value with
  | nil => exact hitem.lastItem (isGap_lineStart _) (isGap_lineStart _)
  | cons hnext _ ih =>
    rw [indentedItems, List.append_assoc]
    exact hitem.itemThen (isGap_lineStart _) (ih hnext)

/-- Fields on lines of their own are read as what their values are read as. -/
theorem fieldsReadAs_indentedFields {level : Nat} (name : String)
    (hfield : ReadsAs depth (indentedChars (level + 1) written) value)
    (hfields : List.Forall₂
      (fun field content =>
        field.1 = content.1 ∧ ReadsAs depth (indentedChars (level + 1) field.2) content.2)
      fields contents) :
    FieldsReadAs depth
      (lineStart (level + 1) ++ (stringChars name ++ ':' :: ' ' ::
        (indentedChars (level + 1) written ++ indentedFields level fields)))
      ((name, value) :: contents) := by
  induction hfields generalizing name written value with
  | nil => exact hfield.lastField name (isGap_lineStart _) (isGap_singleton rfl) (isGap_lineStart _)
  | @cons field content _ _ hnext _ ih =>
    obtain ⟨other, written'⟩ := field
    obtain ⟨_, value'⟩ := content
    obtain ⟨rfl, hnext⟩ := hnext
    rw [indentedFields, List.append_assoc]
    exact hfield.fieldThen name (isGap_lineStart _) (isGap_singleton rfl) (ih other hnext)

end Parts

-- Induction on the value; the levels of its items and fields are at most those of the whole.
mutual

/-- A value whose numbers are read back is read back, with its objects sorted. -/
theorem readsBackAs_canonical (j : Json) (hnumbers : j.EveryNumber Number.ReadsBack) :
    ReadsBackAs j.depth j j.canonical := by
  cases j with
  | null => exact ⟨readsAs_null _, fun _ => readsAs_null _⟩
  | bool b => exact ⟨readsAs_bool _ b, fun _ => readsAs_bool _ b⟩
  | number n =>
    have hread : readNumber (numberChars n) = some (n, []) := by
      simpa using hnumbers [] endsNumber_nil
    exact ⟨readsAs_number _ hread, fun _ => readsAs_number _ hread⟩
  | string s => exact ⟨readsAs_string _ s, fun _ => readsAs_string _ s⟩
  | array items =>
    cases items with
    | nil => exact ⟨readsAs_emptyArray _, fun _ => readsAs_emptyArray _⟩
    | cons item items =>
      have hitem := (readsBackAs_canonical item hnumbers.1).mono
        (Nat.le_max_left _ (depthOfItems items))
      have hitems := forall₂_readsBackAs_items items hnumbers.2 (Nat.le_max_right item.depth _)
      constructor
      · exact (itemsReadAs_renderItems hitem.compact (hitems.imp fun _ _ h => h.compact)).array
      · intro level
        have hread := itemsReadAs_indentedItems (hitem.indented (level + 1))
          (hitems.imp fun _ _ h => h.indented _)
        rw [← List.append_assoc] at hread
        exact hread.array
  | object fields =>
    cases fields with
    | nil => exact ⟨readsAs_emptyObject _, fun _ => readsAs_emptyObject _⟩
    | cons field fields =>
      obtain ⟨name, value⟩ := field
      have hvalue := (readsBackAs_canonical value hnumbers.1).mono
        (Nat.le_max_left _ (depthOfFields fields))
      have hfields := forall₂_readsBackAs_fields fields hnumbers.2 (Nat.le_max_right value.depth _)
      constructor
      · exact (fieldsReadAs_renderFields name hvalue.compact
          (hfields.imp fun _ _ h => ⟨h.1, h.2.compact⟩)).object
      · intro level
        have hread := fieldsReadAs_indentedFields name (hvalue.indented (level + 1))
          (hfields.imp fun _ _ h => ⟨h.1, h.2.indented _⟩)
        rw [← List.append_assoc] at hread
        exact hread.object

/-- Each of some items is read back. -/
theorem forall₂_readsBackAs_items (items : List Json)
    (hnumbers : EveryNumberOfItems Number.ReadsBack items) {depth : Nat}
    (hdepth : depthOfItems items ≤ depth) :
    List.Forall₂ (ReadsBackAs depth) items (canonicalItems items) := by
  cases items with
  | nil => exact .nil
  | cons item items =>
    rw [depthOfItems, Nat.max_le] at hdepth
    exact .cons ((readsBackAs_canonical item hnumbers.1).mono hdepth.1)
      (forall₂_readsBackAs_items items hnumbers.2 hdepth.2)

/-- The value of each of some fields is read back. -/
theorem forall₂_readsBackAs_fields (fields : List (String × Json))
    (hnumbers : EveryNumberOfFields Number.ReadsBack fields) {depth : Nat}
    (hdepth : depthOfFields fields ≤ depth) :
    List.Forall₂ (fun field content => field.1 = content.1 ∧ ReadsBackAs depth field.2 content.2)
      fields (canonicalFields fields) := by
  cases fields with
  | nil => exact .nil
  | cons field fields =>
    obtain ⟨name, value⟩ := field
    rw [depthOfFields, Nat.max_le] at hdepth
    exact .cons ⟨rfl, (readsBackAs_canonical value hnumbers.1).mono hdepth.1⟩
      (forall₂_readsBackAs_fields fields hnumbers.2 hdepth.2)

end

/-- The text of a value is read as that value, with its objects sorted. -/
theorem parseChars?_renderChars {j : Json} (hnumbers : j.EveryNumber Number.ReadsBack)
    (hdepth : j.depth ≤ nestingLimit) : parseChars? (renderChars j) = some j.canonical := by
  have hread := (readsBackAs_canonical j hnumbers).compact.parseChars?_eq hdepth isGap_nil
  rwa [List.append_nil] at hread

/-- The text of a value over several lines is read as that value, with its objects sorted and
with white space behind it. -/
theorem parseChars?_indentedChars {j : Json} {gap : List Char}
    (hnumbers : j.EveryNumber Number.ReadsBack) (hdepth : j.depth ≤ nestingLimit)
    (hgap : IsGap gap) : parseChars? (indentedChars 0 j ++ gap) = some j.canonical :=
  ((readsBackAs_canonical j hnumbers).indented 0).parseChars?_eq hdepth hgap

/-! ## One line -/

theorem newline_notMem_digits (n : Nat) : '\n' ∉ Nat.toDigits 10 n := by
  intro h
  exact absurd (isDigit_of_mem_digits h) (by decide)

theorem newline_notMem_integerChars (n : Int) : '\n' ∉ integerChars n := by
  unfold integerChars
  split
  · simp [newline_notMem_digits]
  · exact newline_notMem_digits n.toNat

theorem newline_notMem_pointedChars {digits : List Char} (h : '\n' ∉ digits) (lead : Int) :
    '\n' ∉ pointedChars digits lead := by
  have htake : '\n' ∉ digits.take (lead.toNat + 1) := fun hm => h (List.mem_of_mem_take hm)
  have hdrop : '\n' ∉ digits.drop (lead.toNat + 1) := fun hm => h (List.mem_of_mem_drop hm)
  unfold pointedChars
  split
  · simp [List.mem_replicate, h]
  · simp only [List.mem_append, List.mem_cons, List.mem_replicate]
    split_ifs <;> simp [htake, hdrop]

theorem newline_notMem_exponentChars {digits : List Char} (h : '\n' ∉ digits) (lead : Int) :
    '\n' ∉ exponentChars digits lead := by
  have htake : '\n' ∉ digits.take 1 := fun hm => h (List.mem_of_mem_take hm)
  have hdrop : '\n' ∉ digits.tail := fun hm => h (List.mem_of_mem_tail hm)
  have hpower := newline_notMem_digits lead.natAbs
  unfold exponentChars
  simp only [List.mem_append, List.mem_cons]
  split_ifs <;> simp [htake, hdrop, hpower]

theorem newline_notMem_finiteChars (b : Decimal.Binary) : '\n' ∉ finiteChars b := by
  have hsign : '\n' ∉ (if b.negative then ['-'] else []) := by
    split <;> decide
  have hdigits := newline_notMem_digits (Decimal.shortest b).1
  unfold finiteChars
  simp only
  split_ifs <;> simp_all [newline_notMem_pointedChars, newline_notMem_exponentChars]

theorem newline_notMem_numberChars (n : Number) : '\n' ∉ numberChars n := by
  cases n with
  | integer n => exact newline_notMem_integerChars n
  | double x =>
    rw [numberChars, doubleChars]
    cases Decimal.Binary.ofFloat? x with
    | none => decide
    | some b => exact newline_notMem_finiteChars b

mutual

/-- A value is written on one line. -/
theorem newline_notMem_renderChars (j : Json) : '\n' ∉ renderChars j := by
  cases j with
  | null => decide
  | bool b => cases b <;> decide
  | number n => exact newline_notMem_numberChars n
  | string s => exact newline_notMem_stringChars s
  | array items =>
    cases items with
    | nil => decide
    | cons item items =>
      simp [renderChars, newline_notMem_renderChars item, newline_notMem_renderItems items]
  | object fields =>
    cases fields with
    | nil => decide
    | cons field fields =>
      obtain ⟨name, value⟩ := field
      simp [renderChars, newline_notMem_stringChars, newline_notMem_renderChars value,
        newline_notMem_renderFields fields]

theorem newline_notMem_renderItems (items : List Json) : '\n' ∉ renderItems items := by
  cases items with
  | nil => decide
  | cons item items =>
    simp [renderItems, newline_notMem_renderChars item, newline_notMem_renderItems items]

theorem newline_notMem_renderFields (fields : List (String × Json)) :
    '\n' ∉ renderFields fields := by
  cases fields with
  | nil => decide
  | cons field fields =>
    obtain ⟨name, value⟩ := field
    simp [renderFields, newline_notMem_stringChars, newline_notMem_renderChars value,
      newline_notMem_renderFields fields]

end

/-! ## The ends of a written object -/

theorem getLast?_renderFields (fields : List (String × Json)) :
    (renderFields fields).getLast? = some '}' := by
  induction fields with
  | nil => rfl
  | cons field fields ih =>
    obtain ⟨name, value⟩ := field
    simp [renderFields, List.getLast?_cons, List.getLast?_append, ih]

/-- A written object begins with a brace. -/
theorem head?_renderChars_object (fields : List (String × Json)) :
    (renderChars (.object fields)).head? = some '{' := by
  cases fields with
  | nil => rfl
  | cons field fields => rfl

/-- A written object ends with a brace. -/
theorem getLast?_renderChars_object (fields : List (String × Json)) :
    (renderChars (.object fields)).getLast? = some '}' := by
  cases fields with
  | nil => rfl
  | cons field fields =>
    obtain ⟨name, value⟩ := field
    simp [renderChars, List.getLast?_cons, List.getLast?_append, getLast?_renderFields]

end Json
end AgentRelay
