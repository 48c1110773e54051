import AgentRelay.Text.Utf8
import Mathlib

/-!
# Decoding characters

The bytes of a character are read as that character, and what follows a well-formed
byte string is read as if it stood alone.  A byte below 80 is never part of a longer
character, so it stands for itself after any bytes, well-formed or not.  Nothing else is read as
a text than the bytes of one.

Main results:

- Theorem {lit}`pieces_encodeChar`: the bytes of a character are read as it.
- Theorem {lit}`pieces_append_of_whole`: what follows a well-formed byte string.
- Theorem {lit}`decode?_around`: texts may be put around the bytes of a text.
- Theorem {lit}`decode?_concat_ascii`: a byte below 80 may be put behind any bytes.
- Theorem {lit}`decode?_eq_some_iff_eq_encode`: bytes are read as a text when they are its bytes.
-/

namespace AgentRelay
namespace Text
namespace Utf8

/-! ## Bytes of one character -/

theorem toNat_ofNat_of_lt {n : Nat} (h : n < 256) : (UInt8.ofNat n).toNat = n :=
  UInt8.toNat_ofNat_of_lt' h

/-- A byte below 80 is a character of its own. -/
theorem start_of_ascii {b : UInt8} (h : b.toNat < 0x80) :
    start b = ([.scalar (Char.ofNat b.toNat)], none) := by
  have hb : b < 0x80 := UInt8.lt_iff_toNat_lt.2 h
  simp [start, hb]

/-- The first of two bytes. -/
theorem start_of_two {x : Nat} (hlow : 2 ≤ x) (hhigh : x < 32) :
    start (UInt8.ofNat (x + 0xC0)) = ([], some ⟨1, 0x80, 0xBF, x⟩) := by
  have hb := toNat_ofNat_of_lt (n := x + 0xC0) (by omega)
  simp only [start, UInt8.lt_iff_toNat_lt, UInt8.reduceToNat, hb]
  rw [if_neg (by omega), if_neg (by omega), if_pos (by omega), Nat.add_sub_cancel]

/-- The first of three bytes.  The second is bounded so that the form is neither
overlong nor a surrogate. -/
theorem start_of_three {x : Nat} (h : x < 16) :
    start (UInt8.ofNat (x + 0xE0)) =
      ([], some ⟨2, if x = 0 then 0xA0 else 0x80, if x = 13 then 0x9F else 0xBF, x⟩) := by
  have hb := toNat_ofNat_of_lt (n := x + 0xE0) (by omega)
  by_cases h0 : x = 0
  · subst h0
    rfl
  by_cases hd : x = 13
  · subst hd
    rfl
  simp only [start, UInt8.lt_iff_toNat_lt, ← UInt8.toNat_inj, UInt8.reduceToNat, hb]
  rw [if_neg (by omega), if_neg (by omega), if_neg (by omega), if_neg (by omega),
    if_neg (by omega), if_pos (by omega), if_neg h0, if_neg hd, Nat.add_sub_cancel]

/-- The first of four bytes.  The second is bounded so that the form is not overlong
and the code point not too large. -/
theorem start_of_four {x : Nat} (h : x < 5) :
    start (UInt8.ofNat (x + 0xF0)) =
      ([], some ⟨3, if x = 0 then 0x90 else 0x80, if x = 4 then 0x8F else 0xBF, x⟩) := by
  interval_cases x <;> rfl

/-- A further byte that is the last of a character. -/
theorem feed_last {low high : UInt8} {code y : Nat} (hy : y < 64)
    (hlow : low.toNat ≤ y + 0x80) (hhigh : y + 0x80 ≤ high.toNat) :
    feed (some ⟨1, low, high, code⟩) (UInt8.ofNat (y + 0x80)) =
      ([.scalar (Char.ofNat (code * 64 + y))], none) := by
  have hb := toNat_ofNat_of_lt (n := y + 0x80) (by omega)
  simp only [feed, UInt8.le_iff_toNat_le, hb]
  rw [if_pos ⟨hlow, hhigh⟩, Nat.add_sub_cancel, if_pos (Nat.le_refl 1)]

/-- A further byte that is not the last of a character. -/
theorem feed_next {low high : UInt8} {code missing y : Nat} (hy : y < 64)
    (hlow : low.toNat ≤ y + 0x80) (hhigh : y + 0x80 ≤ high.toNat) :
    feed (some ⟨missing + 2, low, high, code⟩) (UInt8.ofNat (y + 0x80)) =
      ([], some ⟨missing + 1, 0x80, 0xBF, code * 64 + y⟩) := by
  have hb := toNat_ofNat_of_lt (n := y + 0x80) (by omega)
  simp only [feed, UInt8.le_iff_toNat_le, hb]
  rw [if_pos ⟨hlow, hhigh⟩, Nat.add_sub_cancel, if_neg (by omega)]
  rfl

/-- The bounds that hold of every further byte but some second ones. -/
theorem tail_bounds {y : Nat} (hy : y < 64) :
    (0x80 : UInt8).toNat ≤ y + 0x80 ∧ y + 0x80 ≤ (0xBF : UInt8).toNat := by
  simp only [UInt8.reduceToNat]
  omega

theorem pieces_cons (pending : Option Pending) (b : UInt8) (bs : List UInt8) :
    pieces pending (b :: bs) = (feed pending b).1 ++ pieces (feed pending b).2 bs :=
  rfl

theorem feed_none (b : UInt8) : feed none b = start b :=
  rfl

/-- The last byte of a character ends it. -/
theorem pieces_last {low high : UInt8} {code y : Nat} (hy : y < 64)
    (hlow : low.toNat ≤ y + 0x80) (hhigh : y + 0x80 ≤ high.toNat) (rest : List UInt8) :
    pieces (some ⟨1, low, high, code⟩) (UInt8.ofNat (y + 0x80) :: rest) =
      .scalar (Char.ofNat (code * 64 + y)) :: pieces none rest := by
  rw [pieces_cons, feed_last hy hlow hhigh]
  rfl

/-- Every other further byte is added to the character. -/
theorem pieces_next {low high : UInt8} {code missing y : Nat} (hy : y < 64)
    (hlow : low.toNat ≤ y + 0x80) (hhigh : y + 0x80 ≤ high.toNat) (rest : List UInt8) :
    pieces (some ⟨missing + 2, low, high, code⟩) (UInt8.ofNat (y + 0x80) :: rest) =
      pieces (some ⟨missing + 1, 0x80, 0xBF, code * 64 + y⟩) rest := by
  rw [pieces_cons, feed_next hy hlow hhigh]
  rfl

/-- A character of two bytes. -/
theorem pieces_two {x y : Nat} (hlow : 2 ≤ x) (hhigh : x < 32) (hy : y < 64)
    (rest : List UInt8) :
    pieces none (UInt8.ofNat (x + 0xC0) :: UInt8.ofNat (y + 0x80) :: rest) =
      .scalar (Char.ofNat (x * 64 + y)) :: pieces none rest := by
  have hbounds := tail_bounds hy
  rw [pieces_cons, feed_none, start_of_two hlow hhigh, List.nil_append,
    pieces_last hy hbounds.1 hbounds.2]

/-- A character of three bytes, neither overlong nor a surrogate. -/
theorem pieces_three {x y z : Nat} (hx : x < 16) (hy : y < 64) (hz : z < 64)
    (hlong : x = 0 → 32 ≤ y) (hsurrogate : x = 13 → y < 32) (rest : List UInt8) :
    pieces none (UInt8.ofNat (x + 0xE0) :: UInt8.ofNat (y + 0x80) ::
        UInt8.ofNat (z + 0x80) :: rest) =
      .scalar (Char.ofNat ((x * 64 + y) * 64 + z)) :: pieces none rest := by
  have hlow : (if x = 0 then (0xA0 : UInt8) else 0x80).toNat ≤ y + 0x80 := by
    split_ifs <;> simp only [UInt8.reduceToNat] <;> omega
  have hhigh : y + 0x80 ≤ (if x = 13 then (0x9F : UInt8) else 0xBF).toNat := by
    split_ifs <;> simp only [UInt8.reduceToNat] <;> omega
  have hbounds := tail_bounds hz
  rw [pieces_cons, feed_none, start_of_three hx, List.nil_append, pieces_next hy hlow hhigh,
    pieces_last hz hbounds.1 hbounds.2]

/-- A character of four bytes, neither overlong nor too large. -/
theorem pieces_four {w x y z : Nat} (hw : w < 5) (hx : x < 64) (hy : y < 64) (hz : z < 64)
    (hlong : w = 0 → 16 ≤ x) (hlarge : w = 4 → x < 16) (rest : List UInt8) :
    pieces none (UInt8.ofNat (w + 0xF0) :: UInt8.ofNat (x + 0x80) ::
        UInt8.ofNat (y + 0x80) :: UInt8.ofNat (z + 0x80) :: rest) =
      .scalar (Char.ofNat (((w * 64 + x) * 64 + y) * 64 + z)) :: pieces none rest := by
  have hlow : (if w = 0 then (0x90 : UInt8) else 0x80).toNat ≤ x + 0x80 := by
    split_ifs <;> simp only [UInt8.reduceToNat] <;> omega
  have hhigh : x + 0x80 ≤ (if w = 4 then (0x8F : UInt8) else 0xBF).toNat := by
    split_ifs <;> simp only [UInt8.reduceToNat] <;> omega
  have hy' := tail_bounds hy
  have hz' := tail_bounds hz
  rw [pieces_cons, feed_none, start_of_four hw, List.nil_append, pieces_next hx hlow hhigh,
    pieces_next hy hy'.1 hy'.2, pieces_last hz hz'.1 hz'.2]

/-- The bytes of a character are read as that character. -/
theorem pieces_encodeChar (c : Char) (rest : List UInt8) :
    pieces none (String.utf8EncodeChar c ++ rest) = .scalar c :: pieces none rest := by
  have hvalid : c.toNat < 0xD800 ∨ 0xDFFF < c.toNat ∧ c.toNat < 0x110000 := c.valid
  have hc : Char.ofNat c.toNat = c := Char.ofNat_toNat c
  have hv : c.val.toNat = c.toNat := rfl
  unfold String.utf8EncodeChar
  simp only [hv]
  -- One case for each length; the range of the code point keeps the bytes in bounds.
  split_ifs with h1 h2 h3
  · have hb := toNat_ofNat_of_lt (n := c.toNat) (by omega)
    rw [List.cons_append, pieces_cons, feed_none, start_of_ascii (by omega), hb, hc]
    rfl
  · have hcode : c.toNat / 64 % 32 * 64 + c.toNat % 64 = c.toNat := by omega
    have htwo := pieces_two (x := c.toNat / 64 % 32) (y := c.toNat % 64) (by omega) (by omega)
      (by omega) rest
    rwa [hcode, hc] at htwo
  · have hcode : (c.toNat / 4096 % 16 * 64 + c.toNat / 64 % 64) * 64 + c.toNat % 64 =
        c.toNat := by
      omega
    have hthree := pieces_three (x := c.toNat / 4096 % 16) (y := c.toNat / 64 % 64)
      (z := c.toNat % 64) (by omega) (by omega) (by omega) (by omega) (by omega) rest
    rwa [hcode, hc] at hthree
  · have hcode : ((c.toNat / 262144 % 8 * 64 + c.toNat / 4096 % 64) * 64 +
        c.toNat / 64 % 64) * 64 + c.toNat % 64 = c.toNat := by
      omega
    have hfour := pieces_four (w := c.toNat / 262144 % 8) (x := c.toNat / 4096 % 64)
      (y := c.toNat / 64 % 64) (z := c.toNat % 64) (by omega) (by omega) (by omega)
      (by omega) (by omega) (by omega) rest
    rwa [hcode, hc] at hfour

/-- A byte below 80 among the bytes of a character is that character. -/
theorem toNat_eq_of_mem_encodeChar {c : Char} {b : UInt8} (hb : b ∈ String.utf8EncodeChar c)
    (h : b.toNat < 0x80) : c.toNat = b.toNat := by
  have hv : c.val.toNat = c.toNat := rfl
  have htail : ∀ n, b = UInt8.ofNat (n + 0x80) → ¬ n + 0x80 < 256 := by
    rintro n rfl hn
    rw [toNat_ofNat_of_lt hn] at h
    omega
  unfold String.utf8EncodeChar at hb
  simp only [hv] at hb
  split_ifs at hb with h1 h2 h3
  · rw [List.mem_singleton.1 hb, toNat_ofNat_of_lt (by omega)]
  · simp only [List.mem_cons, List.not_mem_nil, or_false] at hb
    rcases hb with hb | hb
    · exact absurd (by omega) (htail (c.toNat / 64 % 32 + 0x40) hb)
    · exact absurd (by omega) (htail _ hb)
  · simp only [List.mem_cons, List.not_mem_nil, or_false] at hb
    rcases hb with hb | hb | hb
    · exact absurd (by omega) (htail (c.toNat / 4096 % 16 + 0x60) hb)
    · exact absurd (by omega) (htail _ hb)
    · exact absurd (by omega) (htail _ hb)
  · simp only [List.mem_cons, List.not_mem_nil, or_false] at hb
    rcases hb with hb | hb | hb | hb
    · exact absurd (by omega) (htail (c.toNat / 262144 % 8 + 0x70) hb)
    · exact absurd (by omega) (htail _ hb)
    · exact absurd (by omega) (htail _ hb)
    · exact absurd (by omega) (htail _ hb)

theorem encode_empty : encode "" = [] :=
  rfl

/-- The bytes of characters are read as those characters. -/
theorem pieces_encode_append (s : String) (rest : List UInt8) :
    pieces none (encode s ++ rest) = s.toList.map .scalar ++ pieces none rest := by
  unfold encode
  induction s.toList with
  | nil => rfl
  | cons c cs ih =>
    rw [List.flatMap_cons, List.append_assoc, pieces_encodeChar, ih]
    rfl

/-! ## Bytes one after another -/

/-- After a well-formed byte string the reader starts afresh. -/
theorem pieces_append_of_whole {pending : Option Pending} {bs : List UInt8}
    (h : .broken ∉ pieces pending bs) (rest : List UInt8) :
    pieces pending (bs ++ rest) = pieces pending bs ++ pieces none rest := by
  induction bs generalizing pending with
  | nil =>
    cases pending with
    | none => rfl
    | some p => simp [pieces] at h
  | cons b bs ih =>
    rw [pieces_cons, List.mem_append, not_or] at h
    rw [List.cons_append, pieces_cons, ih h.2, pieces_cons, List.append_assoc]

/-- A byte below 80 does not continue the unfinished character. -/
def RefusesAscii (pending : Option Pending) : Prop :=
  ∀ p, pending = some p → 0x80 ≤ p.low.toNat

theorem refusesAscii_none : RefusesAscii none :=
  fun _ h => by cases h

theorem refusesAscii_start (b : UInt8) : RefusesAscii (start b).2 := by
  intro p hp
  unfold start at hp
  split_ifs at hp <;> cases hp <;> simp

/-- Whatever byte comes, a byte below 80 does not continue what it leaves. -/
theorem RefusesAscii.feed {pending : Option Pending} (h : RefusesAscii pending) (b : UInt8) :
    RefusesAscii (feed pending b).2 := by
  cases pending with
  | none => exact refusesAscii_start b
  | some q =>
    intro p hp
    simp only [Utf8.feed] at hp
    split_ifs at hp with hbounds hmissing
    · cases hp
      simp
    · exact refusesAscii_start b p hp

/-- A byte below 80 stands for itself after any bytes. -/
theorem pieces_concat_ascii {pending : Option Pending} {b : UInt8}
    (h : RefusesAscii pending) (hb : b.toNat < 0x80) (bs : List UInt8) :
    pieces pending (bs ++ [b]) = pieces pending bs ++ [.scalar (Char.ofNat b.toNat)] := by
  induction bs generalizing pending with
  | nil =>
    cases pending with
    | none => simp [pieces, feed, start_of_ascii hb]
    | some p =>
      have hlow : ¬ (p.low ≤ b ∧ b ≤ p.high) := by
        rw [UInt8.le_iff_toNat_le]
        have := h p rfl
        omega
      simp [pieces, feed, hlow, start_of_ascii hb]
  | cons c bs ih =>
    rw [List.cons_append, pieces_cons, ih (h.feed c), pieces_cons, List.append_assoc]

/-! ## Texts -/

/-- The characters of pieces, when there is no broken one. -/
theorem mapM_char?_eq_some_iff {ps : List Piece} {cs : List Char} :
    ps.mapM Piece.char? = some cs ↔ ps = cs.map .scalar := by
  induction ps generalizing cs with
  | nil => cases cs <;> simp
  | cons p ps ih =>
    cases p with
    | broken => cases cs <;> simp [Piece.char?]
    | scalar c =>
      cases cs with
      | nil => simp [Piece.char?, Option.bind_eq_some_iff]
      | cons d cs => simp [Piece.char?, Option.bind_eq_some_iff, ← ih, and_comm]

/-- Bytes are a text when their pieces are its characters. -/
theorem decode?_eq_some_iff {bs : List UInt8} {text : String} :
    decode? bs = some text ↔ pieces none bs = text.toList.map .scalar := by
  rw [← mapM_char?_eq_some_iff, decode?, Option.map_eq_some_iff]
  constructor
  · rintro ⟨cs, hcs, rfl⟩
    rw [hcs, String.toList_ofList]
  · intro h
    exact ⟨text.toList, h, String.ofList_toList⟩

/-- A text may be put in front of the bytes of a text and behind them. -/
theorem decode?_around {bs : List UInt8} {text : String} (h : decode? bs = some text)
    (front back : String) :
    decode? (encode front ++ bs ++ encode back) = some (front ++ text ++ back) := by
  rw [decode?_eq_some_iff] at h ⊢
  have hwhole : .broken ∉ pieces none bs := by
    rw [h]
    simp
  have hback := pieces_encode_append back []
  rw [List.append_nil] at hback
  rw [List.append_assoc, pieces_encode_append, pieces_append_of_whole hwhole, h, hback]
  simp [pieces]

/-- The bytes of a text are read as that text. -/
theorem decode?_encode (text : String) : decode? (encode text) = some text := by
  have h := decode?_around decode?_nil text ""
  rw [encode_empty] at h
  simpa using h

/-- A byte below 80 may be put behind any bytes: they are a text with it when they
are one without it. -/
theorem decode?_concat_ascii {b : UInt8} (hb : b.toNat < 0x80) (bs : List UInt8) :
    decode? (bs ++ [b]) =
      (decode? bs).map fun text => text.push (Char.ofNat b.toNat) := by
  unfold decode?
  rw [pieces_concat_ascii refusesAscii_none hb, List.mapM_append]
  cases (pieces none bs).mapM Piece.char? with
  | none => rfl
  | some cs => simp [Piece.char?]

/-! ## Well-formed bytes -/

theorem toNat_ofNat_of_isValidChar {n : Nat} (h : n.isValidChar) :
    (Char.ofNat n).val.toNat = n := by
  have hcode := Char.toNat_ofNat n
  rwa [if_pos h] at hcode

/-- The bytes of a character below 80. -/
theorem encodeChar_one {n : Nat} (h : n < 0x80) :
    String.utf8EncodeChar (Char.ofNat n) = [UInt8.ofNat n] := by
  simp only [String.utf8EncodeChar, toNat_ofNat_of_isValidChar (n := n) (.inl (by omega))]
  rw [if_pos (by omega)]

/-- The bytes of a character of two bytes. -/
theorem encodeChar_two {x y : Nat} (hlow : 2 ≤ x) (hhigh : x < 32) (hy : y < 64) :
    String.utf8EncodeChar (Char.ofNat (x * 64 + y)) =
      [UInt8.ofNat (x + 0xC0), UInt8.ofNat (y + 0x80)] := by
  have hfirst : (x * 64 + y) / 64 % 32 = x := by omega
  have hsecond : (x * 64 + y) % 64 = y := by omega
  simp only [String.utf8EncodeChar, toNat_ofNat_of_isValidChar (n := x * 64 + y) (.inl (by omega))]
  rw [if_neg (by omega), if_pos (by omega), hfirst, hsecond]

/-- The bytes of a character of three bytes. -/
theorem encodeChar_three {x y z : Nat} (hx : x < 16) (hy : y < 64) (hz : z < 64)
    (hlong : x = 0 → 32 ≤ y) (hsurrogate : x = 13 → y < 32) :
    String.utf8EncodeChar (Char.ofNat ((x * 64 + y) * 64 + z)) =
      [UInt8.ofNat (x + 0xE0), UInt8.ofNat (y + 0x80), UInt8.ofNat (z + 0x80)] := by
  have hvalid : ((x * 64 + y) * 64 + z).isValidChar := by
    unfold Nat.isValidChar
    omega
  have hfirst : ((x * 64 + y) * 64 + z) / 4096 % 16 = x := by omega
  have hsecond : ((x * 64 + y) * 64 + z) / 64 % 64 = y := by omega
  have hthird : ((x * 64 + y) * 64 + z) % 64 = z := by omega
  simp only [String.utf8EncodeChar, toNat_ofNat_of_isValidChar hvalid]
  rw [if_neg (by omega), if_neg (by omega), if_pos (by omega), hfirst, hsecond, hthird]

/-- The bytes of a character of four bytes. -/
theorem encodeChar_four {w x y z : Nat} (hw : w < 5) (hx : x < 64) (hy : y < 64) (hz : z < 64)
    (hlong : w = 0 → 16 ≤ x) (hlarge : w = 4 → x < 16) :
    String.utf8EncodeChar (Char.ofNat (((w * 64 + x) * 64 + y) * 64 + z)) =
      [UInt8.ofNat (w + 0xF0), UInt8.ofNat (x + 0x80), UInt8.ofNat (y + 0x80),
        UInt8.ofNat (z + 0x80)] := by
  have hvalid : (((w * 64 + x) * 64 + y) * 64 + z).isValidChar := by
    unfold Nat.isValidChar
    omega
  have hfirst : (((w * 64 + x) * 64 + y) * 64 + z) / 262144 % 8 = w := by omega
  have hsecond : (((w * 64 + x) * 64 + y) * 64 + z) / 4096 % 64 = x := by omega
  have hthird : (((w * 64 + x) * 64 + y) * 64 + z) / 64 % 64 = y := by omega
  have hfourth : (((w * 64 + x) * 64 + y) * 64 + z) % 64 = z := by omega
  simp only [String.utf8EncodeChar, toNat_ofNat_of_isValidChar hvalid]
  rw [if_neg (by omega), if_neg (by omega), if_neg (by omega), hfirst, hsecond, hthird, hfourth]

/-- The lengths of character that a byte can begin; any other byte is broken. -/
theorem start_cases (b : UInt8) :
    b.toNat < 0x80 ∨
      (∃ x, 2 ≤ x ∧ x < 32 ∧ b = UInt8.ofNat (x + 0xC0)) ∨
      (∃ x, x < 16 ∧ b = UInt8.ofNat (x + 0xE0)) ∨
      (∃ x, x < 5 ∧ b = UInt8.ofNat (x + 0xF0)) ∨ start b = ([.broken], none) := by
  have hofNat : ∀ n, n ≤ b.toNat → b = UInt8.ofNat (b.toNat - n + n) := by
    intro n hn
    rw [Nat.sub_add_cancel hn, UInt8.ofNat_toNat]
  by_cases hone : b.toNat < 0x80
  · exact .inl hone
  by_cases htwo : 0xC2 ≤ b.toNat ∧ b.toNat < 0xE0
  · exact .inr (.inl ⟨b.toNat - 0xC0, by omega, by omega, hofNat _ (by omega)⟩)
  by_cases hthree : 0xE0 ≤ b.toNat ∧ b.toNat < 0xF0
  · exact .inr (.inr (.inl ⟨b.toNat - 0xE0, by omega, hofNat _ (by omega)⟩))
  by_cases hfour : 0xF0 ≤ b.toNat ∧ b.toNat < 0xF5
  · exact .inr (.inr (.inr (.inl ⟨b.toNat - 0xF0, by omega, hofNat _ (by omega)⟩)))
  refine .inr (.inr (.inr (.inr ?_)))
  simp only [start, UInt8.lt_iff_toNat_lt, ← UInt8.toNat_inj, UInt8.reduceToNat]
  split_ifs <;> first | rfl | omega

/-- An unfinished character that is not broken goes on with a byte in its bounds. -/
theorem exists_tail_of_pieces {missing code : Nat} {low high : UInt8} {bs : List UInt8}
    (hlow : 0x80 ≤ low.toNat) (hhigh : high.toNat ≤ 0xBF)
    (h : .broken ∉ pieces (some ⟨missing, low, high, code⟩) bs) :
    ∃ y rest, bs = UInt8.ofNat (y + 0x80) :: rest ∧ y < 64 ∧
      low.toNat ≤ y + 0x80 ∧ y + 0x80 ≤ high.toNat := by
  cases bs with
  | nil => simp [pieces] at h
  | cons b rest =>
    have hbounds : low ≤ b ∧ b ≤ high := by
      by_contra hbounds
      simp [pieces_cons, feed, hbounds] at h
    rw [UInt8.le_iff_toNat_le, UInt8.le_iff_toNat_le] at hbounds
    have hcancel : b.toNat - 0x80 + 0x80 = b.toNat := by omega
    refine ⟨b.toNat - 0x80, rest, ?_, by omega, by omega, by omega⟩
    rw [hcancel, UInt8.ofNat_toNat]

/-- Bytes without a broken piece begin with the bytes of a character. -/
theorem exists_encodeChar_of_pieces {b : UInt8} {bs : List UInt8}
    (h : .broken ∉ pieces none (b :: bs)) :
    ∃ c rest, b :: bs = String.utf8EncodeChar c ++ rest ∧ .broken ∉ pieces none rest := by
  rw [pieces_cons, feed_none] at h
  -- One case for each length of character; each further byte is forced into its bounds.
  obtain hone | ⟨x, hlow, hhigh, rfl⟩ | ⟨x, hx, rfl⟩ | ⟨w, hw, rfl⟩ | hbroken := start_cases b
  · rw [start_of_ascii hone] at h
    refine ⟨Char.ofNat b.toNat, bs, ?_, fun hmem => h (by simp [hmem])⟩
    rw [encodeChar_one hone, UInt8.ofNat_toNat]
    rfl
  · rw [start_of_two hlow hhigh, List.nil_append] at h
    obtain ⟨y, rest, rfl, hy, hylow, hyhigh⟩ := exists_tail_of_pieces (by simp) (by simp) h
    rw [pieces_last hy hylow hyhigh, List.mem_cons, not_or] at h
    refine ⟨Char.ofNat (x * 64 + y), rest, ?_, h.2⟩
    rw [encodeChar_two hlow hhigh hy]
    rfl
  · rw [start_of_three hx, List.nil_append] at h
    have hlow : 0x80 ≤ (if x = 0 then (0xA0 : UInt8) else 0x80).toNat := by split_ifs <;> simp
    have hhigh : (if x = 13 then (0x9F : UInt8) else 0xBF).toNat ≤ 0xBF := by split_ifs <;> simp
    obtain ⟨y, rest, rfl, hy, hylow, hyhigh⟩ := exists_tail_of_pieces hlow hhigh h
    rw [pieces_next hy hylow hyhigh] at h
    obtain ⟨z, rest, rfl, hz, hzlow, hzhigh⟩ := exists_tail_of_pieces (by simp) (by simp) h
    rw [pieces_last hz hzlow hzhigh, List.mem_cons, not_or] at h
    have hlong : x = 0 → 32 ≤ y := by
      rintro rfl
      have hbyte : 0xA0 ≤ y + 0x80 := hylow
      omega
    have hsurrogate : x = 13 → y < 32 := by
      rintro rfl
      have hbyte : y + 0x80 ≤ 0x9F := hyhigh
      omega
    refine ⟨Char.ofNat ((x * 64 + y) * 64 + z), rest, ?_, h.2⟩
    rw [encodeChar_three hx hy hz hlong hsurrogate]
    rfl
  · rw [start_of_four hw, List.nil_append] at h
    have hlow : 0x80 ≤ (if w = 0 then (0x90 : UInt8) else 0x80).toNat := by split_ifs <;> simp
    have hhigh : (if w = 4 then (0x8F : UInt8) else 0xBF).toNat ≤ 0xBF := by split_ifs <;> simp
    obtain ⟨x, rest, rfl, hx, hxlow, hxhigh⟩ := exists_tail_of_pieces hlow hhigh h
    rw [pieces_next hx hxlow hxhigh] at h
    obtain ⟨y, rest, rfl, hy, hylow, hyhigh⟩ := exists_tail_of_pieces (by simp) (by simp) h
    rw [pieces_next hy hylow hyhigh] at h
    obtain ⟨z, rest, rfl, hz, hzlow, hzhigh⟩ := exists_tail_of_pieces (by simp) (by simp) h
    rw [pieces_last hz hzlow hzhigh, List.mem_cons, not_or] at h
    have hlong : w = 0 → 16 ≤ x := by
      rintro rfl
      have hbyte : 0x90 ≤ x + 0x80 := hxlow
      omega
    have hlarge : w = 4 → x < 16 := by
      rintro rfl
      have hbyte : x + 0x80 ≤ 0x8F := hxhigh
      omega
    refine ⟨Char.ofNat (((w * 64 + x) * 64 + y) * 64 + z), rest, ?_, h.2⟩
    rw [encodeChar_four hw hx hy hz hlong hlarge]
    rfl
  · simp [hbroken] at h

/-- Bytes without a broken piece are the bytes of a text. -/
theorem exists_encode_of_pieces {bs : List UInt8} (h : .broken ∉ pieces none bs) :
    ∃ text, bs = encode text := by
  -- The induction is on the number of bytes, since a character takes up several of them.
  induction hlength : bs.length using Nat.strong_induction_on generalizing bs with
  | _ n ih =>
    cases bs with
    | nil => exact ⟨"", rfl⟩
    | cons b bs =>
      obtain ⟨c, rest, hbytes, hrest⟩ := exists_encodeChar_of_pieces h
      have hshorter : rest.length < n := by
        have hchar : 0 < (String.utf8EncodeChar c).length :=
          List.length_pos_iff.2 String.utf8EncodeChar_ne_nil
        rw [← hlength, hbytes, List.length_append]
        omega
      obtain ⟨text, rfl⟩ := ih rest.length hshorter hrest rfl
      refine ⟨.ofList (c :: text.toList), ?_⟩
      rw [hbytes, encode, encode, String.toList_ofList, List.flatMap_cons]

/-- Bytes are read as a text exactly when they are the bytes of that text. -/
theorem decode?_eq_some_iff_eq_encode {bs : List UInt8} {text : String} :
    decode? bs = some text ↔ bs = encode text := by
  constructor
  · intro h
    have hwhole : .broken ∉ pieces none bs := by
      rw [decode?_eq_some_iff.1 h]
      simp
    obtain ⟨text', rfl⟩ := exists_encode_of_pieces hwhole
    rw [decode?_encode, Option.some.injEq] at h
    rw [h]
  · rintro rfl
    exact decode?_encode text

end Utf8
end Text
end AgentRelay
