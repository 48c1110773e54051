import AgentRelay.Decimal.Fixed
import AgentRelay.Proofs.JsonText
import Mathlib.Algebra.Order.Field.Basic
import Mathlib.Algebra.Order.Field.Rat
import Mathlib.Tactic.Linarith

/-!
# Amounts with a fixed number of places

An amount is shown as the decimal number with the given number of places that is nearest to the
exact value of its double; of two equally near ones it is the one with the even last digit.  There
is no leading zero that could be left out, and the digits after the point are always all there.

Main definitions:

- {lit}`Binary.magnitude`: the magnitude of an exact value.
- {lit}`Nearest`: a whole number is the nearest to a quotient.
- {lit}`ShowsFixed`: digits show an exact value with a given number of places.
- {lit}`ShowsAmount`: a text shows a double with a given number of places.

Main results:

- Theorem {lit}`nearest_roundDiv`: quotients are rounded to the nearest whole number.
- Theorem {lit}`showsAmount_fixed`: the text of a double with a fixed number of places shows it.
- Theorem {lit}`ShowsAmount.newline_notMem`: an amount holds no line break.
-/

namespace AgentRelay
namespace Decimal

/-! ## Exact values -/

/-- The magnitude of an exact value. -/
def Binary.magnitude (b : Binary) : ℚ :=
  b.significand * 2 ^ b.exponent

/-- A power with any exponent is a quotient of whole powers. -/
theorem zpow_eq_div {a : ℚ} (ha : a ≠ 0) (n : ℤ) : a ^ n = a ^ n.toNat / a ^ (-n).toNat := by
  have hsplit : (n.toNat : ℤ) - ((-n).toNat : ℤ) = n := Int.toNat_sub_toNat_neg n
  rw [← zpow_natCast, ← zpow_natCast, ← zpow_sub₀ ha, hsplit]

/-- The quotient of a scaled magnitude is the magnitude, scaled. -/
theorem Binary.scaled_eq (b : Binary) (places : ℤ) :
    ((b.scaled places).1 : ℚ) / (b.scaled places).2 = b.magnitude * 10 ^ places := by
  unfold magnitude scaled
  rw [zpow_eq_div (by decide : (2 : ℚ) ≠ 0), zpow_eq_div (by decide : (10 : ℚ) ≠ 0)]
  simp only [Nat.pow_eq, Nat.cast_mul, Nat.cast_pow, Nat.cast_ofNat]
  rw [mul_div_mul_comm, mul_div_assoc]

/-! ## Rounding -/

/-- A whole number is the nearest to a quotient; of two equally near ones it is the even one. -/
structure Nearest (n : ℕ) (q : ℚ) : Prop where
  error : |(n : ℚ) - q| ≤ 1 / 2
  tie : |(n : ℚ) - q| = 1 / 2 → n % 2 = 0

/-- The whole number below a value is the nearest while less than half is left over. -/
theorem nearest_low {low : ℕ} {x : ℚ} (hx : 0 ≤ x) (hlt : x < 1 / 2) : Nearest low (low + x) := by
  have herror : |(low : ℚ) - (low + x)| = x := by
    rw [sub_add_cancel_left, abs_neg, abs_of_nonneg hx]
  exact ⟨herror.le.trans hlt.le, fun htie => absurd (herror.symm.trans htie) hlt.ne⟩

/-- The whole number above a value is the nearest once more than half is left over. -/
theorem nearest_high {low : ℕ} {x : ℚ} (hx : x ≤ 1) (hlt : 1 / 2 < x) :
    Nearest (low + 1) (low + x) := by
  have herror : |((low + 1 : ℕ) : ℚ) - (low + x)| = 1 - x := by
    rw [Nat.cast_add_one, add_sub_add_left_eq_sub, abs_of_nonneg (sub_nonneg.2 hx)]
  refine ⟨herror.le.trans (by linarith), fun htie => ?_⟩
  rw [herror] at htie
  linarith

/-- Halfway between two whole numbers the even one counts as the nearest. -/
theorem nearest_half (low : ℕ) :
    Nearest (if low % 2 = 0 then low else low + 1) ((low : ℚ) + 1 / 2) := by
  by_cases heven : low % 2 = 0
  · rw [if_pos heven]
    have herror : |(low : ℚ) - (low + 1 / 2)| = 1 / 2 := by
      rw [sub_add_cancel_left, abs_neg, abs_of_nonneg (by norm_num)]
    exact ⟨herror.le, fun _ => heven⟩
  · rw [if_neg heven]
    have herror : |((low + 1 : ℕ) : ℚ) - (low + 1 / 2)| = 1 / 2 := by
      rw [Nat.cast_add_one, add_sub_add_left_eq_sub]
      norm_num
    exact ⟨herror.le, fun _ => by omega⟩

/-- Quotients are rounded to the nearest whole number. -/
theorem nearest_roundDiv (num : ℕ) {den : ℕ} (hden : 0 < den) :
    Nearest (roundDiv num den) ((num : ℚ) / den) := by
  have hpos : (0 : ℚ) < den := Nat.cast_pos.2 hden
  have hsplit : (num : ℚ) / den = (num / den : ℕ) + (num % den : ℕ) / (den : ℚ) := by
    rw [eq_comm, ← eq_sub_iff_add_eq', div_eq_iff hpos.ne', sub_mul, div_mul_cancel₀ _ hpos.ne',
      eq_sub_iff_add_eq', mul_comm]
    exact_mod_cast Nat.div_add_mod num den
  have hle : (num % den : ℕ) / (den : ℚ) ≤ 1 :=
    (div_le_one hpos).2 (Nat.cast_le.2 (Nat.mod_lt num hden).le)
  have hnonneg : (0 : ℚ) ≤ (num % den : ℕ) / (den : ℚ) := div_nonneg (Nat.cast_nonneg _) hpos.le
  rw [hsplit, roundDiv]
  rcases lt_trichotomy (2 * (num % den)) den with hlt | heq | hgt
  · simp only [if_pos hlt]
    refine nearest_low hnonneg ?_
    rw [div_lt_div_iff₀ hpos two_pos, one_mul, mul_comm]
    exact_mod_cast hlt
  · simp only [heq, lt_self_iff_false, if_false]
    have hhalf : (num % den : ℕ) / (den : ℚ) = 1 / 2 := by
      rw [div_eq_div_iff hpos.ne' two_ne_zero, one_mul, mul_comm]
      exact_mod_cast heq
    rw [hhalf]
    exact nearest_half _
  · simp only [if_neg hgt.not_gt, if_pos hgt]
    refine nearest_high hle ?_
    rw [div_lt_div_iff₀ two_pos hpos, one_mul, mul_comm]
    exact_mod_cast hgt

/-! ## Digits -/

/-- Digits show an exact value with a given number of places: they are the decimal notation of the
whole number nearest to the value, once the point is moved behind the last place. -/
structure ShowsFixed (places : ℕ) (b : Binary) (whole fraction : List Char) : Prop where
  digits : ∀ c ∈ whole ++ fraction, c.isDigit = true
  places_eq : fraction.length = places
  whole_ne_nil : whole ≠ []
  no_leading_zero : whole.head? = some '0' → whole = ['0']
  value : Nearest (Nat.ofDigitChars 10 (whole ++ fraction) 0) (b.magnitude * 10 ^ places)

section PadZeros

variable {width n : ℕ}

/-- Zeros on the left are digits. -/
theorem isDigit_of_mem_padZeros {c : Char} (h : c ∈ padZeros width (Nat.toDigits 10 n)) :
    c.isDigit = true := by
  rcases List.mem_append.1 h with hzero | hdigit
  · rw [List.eq_of_mem_replicate hzero]
    rfl
  · exact Json.isDigit_of_mem_digits hdigit

/-- Zeros on the left do not change the number. -/
theorem ofDigitChars_padZeros : Nat.ofDigitChars 10 (padZeros width (Nat.toDigits 10 n)) 0 = n := by
  rw [padZeros, Nat.ofDigitChars_append, Nat.ofDigitChars_replicate_zero, Nat.mul_zero,
    Nat.ofDigitChars_ten_toDigits]

/-- A number that begins with a zero has no more digits than asked for. -/
theorem length_padZeros_of_head? (hwidth : 0 < width)
    (h : (padZeros width (Nat.toDigits 10 n)).head? = some '0') :
    (padZeros width (Nat.toDigits 10 n)).length = width := by
  have hlength : (padZeros width (Nat.toDigits 10 n)).length =
      width - (Nat.toDigits 10 n).length + (Nat.toDigits 10 n).length := by
    rw [padZeros, List.length_append, List.length_replicate]
  rcases Nat.lt_or_ge (Nat.toDigits 10 n).length width with hlt | hge
  · omega
  · -- Without zeros on the left only the number zero begins with one.
    rw [padZeros, Nat.sub_eq_zero_of_le hge, List.replicate_zero, List.nil_append] at h
    rcases Nat.eq_zero_or_pos n with rfl | hpos
    · rw [Nat.toDigits_zero, List.length_singleton] at hge
      rw [hlength, Nat.toDigits_zero, List.length_singleton]
      omega
    · exact absurd h (Json.head?_digits_ne_zero hpos)

end PadZeros

/-- The digits of a text with a fixed number of places show its value. -/
theorem showsFixed_padZeros (places : ℕ) (b : Binary) :
    let digits := padZeros (places + 1)
      (Nat.toDigits 10 (roundDiv (b.scaled places).1 (b.scaled places).2))
    let whole := digits.length - places
    ShowsFixed places b (digits.take whole) (digits.drop whole) := by
  intro digits whole
  have hwide : places + 1 ≤ digits.length := le_length_padZeros _ _
  have hwhole : 0 < whole := by omega
  constructor
  · rw [List.take_append_drop]
    exact fun c hc => isDigit_of_mem_padZeros hc
  · rw [List.length_drop]
    omega
  · rw [← List.length_pos_iff, List.length_take]
    omega
  · rw [List.head?_take, if_neg hwhole.ne']
    intro hzero
    have hlength : digits.length = places + 1 :=
      length_padZeros_of_head? (Nat.succ_pos places) hzero
    obtain ⟨tail, htail⟩ := List.head?_eq_some_iff.1 hzero
    have hone : whole = 1 := by omega
    rw [hone, htail]
    rfl
  · rw [List.take_append_drop, ofDigitChars_padZeros]
    have hnearest := nearest_roundDiv (b.scaled places).1 (b.scaled_snd_pos places)
    rwa [b.scaled_eq, zpow_natCast] at hnearest

/-! ## Texts -/

/-- A text shows a double with a given number of places: by its sign, the digits before the point
and those after it.  A double without an exact value is shown by a word. -/
inductive ShowsAmount (places : ℕ) (x : Float) : String → Prop where
  | finite {b : Binary} {whole fraction : List Char} (hx : Binary.ofFloat? x = some b)
      (h : ShowsFixed places b whole fraction) :
      ShowsAmount places x (String.ofList ((if b.negative then ['-'] else []) ++ whole ++
        if places = 0 then [] else '.' :: fraction))
  | infinite (hx : Binary.ofFloat? x = none) (h : (x == x) = true) :
      ShowsAmount places x (if x < 0 then "-inf" else "inf")
  | undefined (hx : Binary.ofFloat? x = none) (h : (x == x) = false) : ShowsAmount places x "NaN"

/-- The text of a double with a fixed number of places shows it. -/
theorem showsAmount_fixed (places : ℕ) (x : Float) : ShowsAmount places x (fixed places x) := by
  unfold fixed
  cases hx : Binary.ofFloat? x with
  | some b => exact .finite hx (showsFixed_padZeros places b)
  | none =>
    cases hself : x == x with
    | true => exact .infinite hx hself
    | false => exact .undefined hx hself

/-- An amount holds no line break. -/
theorem ShowsAmount.newline_notMem {places : ℕ} {x : Float} {text : String}
    (h : ShowsAmount places x text) : '\n' ∉ text.toList := by
  cases h with
  | @finite b whole fraction hx h =>
    have hdigits : '\n' ∉ whole ++ fraction := fun hmem => absurd (h.digits _ hmem) (by decide)
    rw [List.mem_append, not_or] at hdigits
    have hsign : '\n' ∉ (if b.negative then ['-'] else []) := by
      cases b.negative <;> decide
    have hpoint : '\n' ∉ (if places = 0 then [] else '.' :: fraction) := by
      by_cases hplaces : places = 0
      · simp [hplaces]
      · simpa [hplaces] using hdigits.2
    rw [String.toList_ofList, List.mem_append, List.mem_append, not_or, not_or]
    exact ⟨⟨hsign, hdigits.1⟩, hpoint⟩
  | infinite => split <;> decide
  | undefined => decide

end Decimal
end AgentRelay
