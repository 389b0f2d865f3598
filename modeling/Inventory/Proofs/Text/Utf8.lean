import Inventory.Text.Utf8
import Mathlib.Tactic.SplitIfs
/-!
# The UTF-8 codec laws

`Utf8.scalar?` reads one scalar value at the head of a byte string and `Utf8.encodeChar` writes
one. The two are inverse, in both directions:

* reading the encoding of a character, followed by anything, gives the character and the
  number of bytes after the lead (`scalar_encodeChar`); so reading an encoded text gives the
  text back (`chars_encode`);
* a well-formed sequence is the encoding of the character read from it (`encodeChar_of_scalar`);
  so repair keeps every well-formed sequence byte for byte, and the bytes of a valid string
  exactly (`repair_of_isValid`).

A sequence never runs across an ASCII byte (`scalar?_append_ascii`), so reading, validity and
repair all split at ASCII bytes (`repair_append_ascii`), and repair turns a run of bytes from
`0x80` up into another such run (`repair_high`). These are the facts the JSON readers rely on:
stray bytes stand only inside string literals, where any byte from `0x80` up is read alike.
-/

set_option autoImplicit false

namespace Inventory.Utf8

/-! ## 1. Scalar values as numbers -/

/-- A character's code point is a Unicode scalar value. -/
theorem isValidChar_toNat (c : Char) : c.toNat.isValidChar := by
  have := c.valid
  simpa [UInt32.isValidChar, Nat.isValidChar, UInt32.lt_iff_toNat_lt] using this

theorem toNat_charOfNat {n : Nat} (h : n.isValidChar) : (Char.ofNat n).toNat = n := by
  show (if h : n.isValidChar then Char.ofNatAux n h else '\x00').toNat = n
  rw [dif_pos h]
  rfl

theorem toUInt8_eq {n : Nat} {b : UInt8} (h : n = b.toNat) : n.toUInt8 = b := by
  subst h; simp

/-! ## 2. Reading what is written -/

/-- The one-byte form: a code point below `0x80` is its own byte. -/
theorem scalar_encode_one {v : Nat} (h : v < 0x80) (rest : Bytes) :
    scalar? (v.toUInt8 :: rest) = some (Char.ofNat v, 0) := by
  have hb : v.toUInt8 < 0x80 := by rw [UInt8.lt_iff_toNat_lt]; simp; omega
  simp [scalar?, hb, Nat.mod_eq_of_lt (show v < 256 by omega)]

/-- The two-byte form. -/
theorem scalar_encode_two {v : Nat} (h1 : 0x80 ≤ v) (h2 : v < 0x800) (rest : Bytes) :
    scalar? ((0xC0 + v / 64).toUInt8 :: (0x80 + v % 64).toUInt8 :: rest) =
      some (Char.ofNat v, 1) := by
  have e0 : ¬ (0xC0 + v / 64).toUInt8 < 0x80 := by rw [UInt8.lt_iff_toNat_lt]; simp; omega
  have e1 : ¬ (0xC0 + v / 64).toUInt8 < 0xC2 := by rw [UInt8.lt_iff_toNat_lt]; simp; omega
  have e2 : (0xC0 + v / 64).toUInt8 < 0xE0 := by rw [UInt8.lt_iff_toNat_lt]; simp; omega
  have e3 : isTail (0x80 + v % 64).toUInt8 = true := by
    simp [isTail, UInt8.le_iff_toNat_le]; omega
  have e4 : (0xC0 + v / 64).toUInt8.toNat % 32 * 64 + low6 (0x80 + v % 64).toUInt8 = v := by
    simp [low6]; omega
  simp only [scalar?, e0, e1, e2, e3, e4, ↓reduceIte]

/-- The three-byte form, surrogates excluded. -/
theorem scalar_encode_three {v : Nat} (h1 : 0x800 ≤ v) (h2 : v < 0x10000)
    (hs : v < 0xD800 ∨ 0xDFFF < v) (rest : Bytes) :
    scalar? ((0xE0 + v / 4096).toUInt8 :: (0x80 + v / 64 % 64).toUInt8 ::
      (0x80 + v % 64).toUInt8 :: rest) = some (Char.ofNat v, 2) := by
  have e0 : ¬ (0xE0 + v / 4096).toUInt8 < 0x80 := by rw [UInt8.lt_iff_toNat_lt]; simp; omega
  have e1 : ¬ (0xE0 + v / 4096).toUInt8 < 0xC2 := by rw [UInt8.lt_iff_toNat_lt]; simp; omega
  have e2 : ¬ (0xE0 + v / 4096).toUInt8 < 0xE0 := by rw [UInt8.lt_iff_toNat_lt]; simp; omega
  have e3 : (0xE0 + v / 4096).toUInt8 < 0xF0 := by rw [UInt8.lt_iff_toNat_lt]; simp; omega
  have e4 : isTail (0x80 + v % 64).toUInt8 = true := by
    simp [isTail, UInt8.le_iff_toNat_le]; omega
  -- the second byte lies in the range its lead allows: no overlong form, no surrogate
  have e5 : (decide ((if ((0xE0 + v / 4096).toUInt8 == 0xE0) = true then (0xA0 : UInt8) else 0x80)
        ≤ (0x80 + v / 64 % 64).toUInt8) &&
      decide ((0x80 + v / 64 % 64).toUInt8 ≤
        (if ((0xE0 + v / 4096).toUInt8 == 0xED) = true then (0x9F : UInt8) else 0xBF))) =
      true := by
    split_ifs <;> simp_all [UInt8.le_iff_toNat_le, ← UInt8.toNat_inj] <;> omega
  have e6 : (0xE0 + v / 4096).toUInt8.toNat % 16 * 4096 + low6 (0x80 + v / 64 % 64).toUInt8 * 64 +
      low6 (0x80 + v % 64).toUInt8 = v := by
    simp [low6]; omega
  simp only [scalar?, e0, e1, e2, e3, e4, e5, e6, Bool.true_and, ↓reduceIte]

/-- The four-byte form. -/
theorem scalar_encode_four {v : Nat} (h1 : 0x10000 ≤ v) (h2 : v < 0x110000) (rest : Bytes) :
    scalar? ((0xF0 + v / 262144).toUInt8 :: (0x80 + v / 4096 % 64).toUInt8 ::
      (0x80 + v / 64 % 64).toUInt8 :: (0x80 + v % 64).toUInt8 :: rest) =
      some (Char.ofNat v, 3) := by
  have e0 : ¬ (0xF0 + v / 262144).toUInt8 < 0x80 := by rw [UInt8.lt_iff_toNat_lt]; simp; omega
  have e1 : ¬ (0xF0 + v / 262144).toUInt8 < 0xC2 := by rw [UInt8.lt_iff_toNat_lt]; simp; omega
  have e2 : ¬ (0xF0 + v / 262144).toUInt8 < 0xE0 := by rw [UInt8.lt_iff_toNat_lt]; simp; omega
  have e3 : ¬ (0xF0 + v / 262144).toUInt8 < 0xF0 := by rw [UInt8.lt_iff_toNat_lt]; simp; omega
  have e3' : (0xF0 + v / 262144).toUInt8 < 0xF5 := by rw [UInt8.lt_iff_toNat_lt]; simp; omega
  have e4 : isTail (0x80 + v / 64 % 64).toUInt8 = true := by
    simp [isTail, UInt8.le_iff_toNat_le]; omega
  have e4' : isTail (0x80 + v % 64).toUInt8 = true := by
    simp [isTail, UInt8.le_iff_toNat_le]; omega
  -- the second byte lies in the range its lead allows: no overlong form, nothing past U+10FFFF
  have e5 : (decide ((if ((0xF0 + v / 262144).toUInt8 == 0xF0) = true then (0x90 : UInt8) else 0x80)
        ≤ (0x80 + v / 4096 % 64).toUInt8) &&
      decide ((0x80 + v / 4096 % 64).toUInt8 ≤
        (if ((0xF0 + v / 262144).toUInt8 == 0xF4) = true then (0x8F : UInt8) else 0xBF))) =
      true := by
    split_ifs <;> simp_all [UInt8.le_iff_toNat_le, ← UInt8.toNat_inj] <;> omega
  have e6 : (0xF0 + v / 262144).toUInt8.toNat % 8 * 262144 +
      low6 (0x80 + v / 4096 % 64).toUInt8 * 4096 + low6 (0x80 + v / 64 % 64).toUInt8 * 64 +
      low6 (0x80 + v % 64).toUInt8 = v := by
    simp [low6]; omega
  simp only [scalar?, e0, e1, e2, e3, e3', e4, e4', e5, e6, Bool.and_true, ↓reduceIte]

/-- **Reading the encoding of a character** gives the character, whatever follows. -/
theorem scalar_encodeChar (c : Char) (rest : Bytes) :
    scalar? (encodeChar c ++ rest) = some (c, (encodeChar c).length - 1) := by
  have hv := isValidChar_toNat c
  simp only [Nat.isValidChar] at hv
  unfold encodeChar
  by_cases h1 : c.toNat < 0x80
  · simp only [h1, ↓reduceIte, List.cons_append, List.nil_append, scalar_encode_one h1,
      Char.ofNat_toNat, List.length_singleton]
  by_cases h2 : c.toNat < 0x800
  · simp only [h1, h2, ↓reduceIte, List.cons_append, List.nil_append,
      scalar_encode_two (by omega) h2, Char.ofNat_toNat]
    rfl
  by_cases h3 : c.toNat < 0x10000
  · simp only [h1, h2, h3, ↓reduceIte, List.cons_append, List.nil_append,
      scalar_encode_three (by omega) h3 (by omega), Char.ofNat_toNat]
    rfl
  · simp only [h1, h2, h3, ↓reduceIte, List.cons_append, List.nil_append,
      scalar_encode_four (v := c.toNat) (by omega) (by omega), Char.ofNat_toNat]
    rfl

/-! ## 3. Writing what is read -/

/-- A byte below `0x80` is the encoding of its character. -/
theorem encodeChar_one {b : UInt8} (h : b.toNat < 0x80) :
    encodeChar (Char.ofNat b.toNat) = [b] := by
  have hc := toNat_charOfNat (n := b.toNat) (by simp [Nat.isValidChar]; omega)
  simp [encodeChar, hc, h]

/-- A well-formed two-byte sequence is the encoding of its character. -/
theorem encodeChar_two {b0 b1 : UInt8} (h0 : 0xC2 ≤ b0.toNat) (h0' : b0.toNat < 0xE0)
    (h1 : 0x80 ≤ b1.toNat) (h1' : b1.toNat ≤ 0xBF) :
    encodeChar (Char.ofNat (b0.toNat % 32 * 64 + low6 b1)) = [b0, b1] := by
  have hc := toNat_charOfNat (n := b0.toNat % 32 * 64 + b1.toNat % 64)
    (by simp [Nat.isValidChar]; omega)
  simp only [low6, encodeChar, hc]
  rw [if_neg (by omega), if_pos (by omega)]
  rw [toUInt8_eq (b := b0) (by omega), toUInt8_eq (b := b1) (by omega)]

/-- A well-formed three-byte sequence is the encoding of its character. -/
theorem encodeChar_three {b0 b1 b2 : UInt8} (h0 : 0xE0 ≤ b0.toNat) (h0' : b0.toNat < 0xF0)
    (h1 : 0x80 ≤ b1.toNat) (h1' : b1.toNat ≤ 0xBF) (hE0 : b0.toNat = 0xE0 → 0xA0 ≤ b1.toNat)
    (hED : b0.toNat = 0xED → b1.toNat ≤ 0x9F) (h2 : 0x80 ≤ b2.toNat) (h2' : b2.toNat ≤ 0xBF) :
    encodeChar (Char.ofNat (b0.toNat % 16 * 4096 + low6 b1 * 64 + low6 b2)) = [b0, b1, b2] := by
  have hc := toNat_charOfNat (n := b0.toNat % 16 * 4096 + b1.toNat % 64 * 64 + b2.toNat % 64) (by
    simp only [Nat.isValidChar]
    by_cases hed : b0.toNat = 0xED
    · have := hED hed; omega
    · omega)
  -- after the lead `0xE0` the second byte is at least `0xA0`: the form is not overlong
  have hlong : 0x800 ≤ b0.toNat % 16 * 4096 + b1.toNat % 64 * 64 + b2.toNat % 64 := by
    by_cases he0 : b0.toNat = 0xE0
    · have := hE0 he0; omega
    · omega
  simp only [low6, encodeChar, hc]
  rw [if_neg (by omega), if_neg (by omega), if_pos (by omega)]
  rw [toUInt8_eq (b := b0) (by omega), toUInt8_eq (b := b1) (by omega),
    toUInt8_eq (b := b2) (by omega)]

/-- A well-formed four-byte sequence is the encoding of its character. -/
theorem encodeChar_four {b0 b1 b2 b3 : UInt8} (h0 : 0xF0 ≤ b0.toNat) (h0' : b0.toNat < 0xF5)
    (h1 : 0x80 ≤ b1.toNat) (h1' : b1.toNat ≤ 0xBF) (hF0 : b0.toNat = 0xF0 → 0x90 ≤ b1.toNat)
    (hF4 : b0.toNat = 0xF4 → b1.toNat ≤ 0x8F) (h2 : 0x80 ≤ b2.toNat) (h2' : b2.toNat ≤ 0xBF)
    (h3 : 0x80 ≤ b3.toNat) (h3' : b3.toNat ≤ 0xBF) :
    encodeChar (Char.ofNat (b0.toNat % 8 * 262144 + low6 b1 * 4096 + low6 b2 * 64 + low6 b3)) =
      [b0, b1, b2, b3] := by
  have hc := toNat_charOfNat
    (n := b0.toNat % 8 * 262144 + b1.toNat % 64 * 4096 + b2.toNat % 64 * 64 + b3.toNat % 64) (by
      simp only [Nat.isValidChar]
      by_cases hf4 : b0.toNat = 0xF4
      · have := hF4 hf4; omega
      · omega)
  -- after the lead `0xF0` the second byte is at least `0x90`: the form is not overlong
  have hlong : 0x10000 ≤
      b0.toNat % 8 * 262144 + b1.toNat % 64 * 4096 + b2.toNat % 64 * 64 + b3.toNat % 64 := by
    by_cases hf0 : b0.toNat = 0xF0
    · have := hF0 hf0; omega
    · omega
  simp only [low6, encodeChar, hc]
  rw [if_neg (by omega), if_neg (by omega), if_neg (by omega)]
  rw [toUInt8_eq (b := b0) (by omega), toUInt8_eq (b := b1) (by omega),
    toUInt8_eq (b := b2) (by omega), toUInt8_eq (b := b3) (by omega)]

theorem isTail_iff {b : UInt8} : isTail b = true ↔ 0x80 ≤ b.toNat ∧ b.toNat ≤ 0xBF := by
  simp [isTail, UInt8.le_iff_toNat_le]

/-- **A well-formed sequence is the encoding of the character read from it.** -/
theorem encodeChar_of_scalar {bs : Bytes} {ch : Char} {k : Nat} (h : scalar? bs = some (ch, k)) :
    encodeChar ch ++ bs.drop (k + 1) = bs := by
  cases bs with
  | nil => cases h
  | cons b0 rest =>
    simp only [scalar?] at h
    by_cases h0 : b0 < 0x80
    · rw [if_pos h0] at h
      cases h
      rw [encodeChar_one (by rwa [UInt8.lt_iff_toNat_lt] at h0)]
      rfl
    rw [if_neg h0] at h
    by_cases h1 : b0 < 0xC2
    · rw [if_pos h1] at h; cases h
    rw [if_neg h1] at h
    have h1' : 0xC2 ≤ b0.toNat := by rw [UInt8.lt_iff_toNat_lt] at h1; simpa using h1
    by_cases h2 : b0 < 0xE0
    · -- two bytes
      rw [if_pos h2] at h
      have h2' : b0.toNat < 0xE0 := by rwa [UInt8.lt_iff_toNat_lt] at h2
      rcases rest with _ | ⟨b1, rest⟩
      · cases h
      · simp only at h
        split_ifs at h with ht
        cases h
        obtain ⟨t1, t1'⟩ := isTail_iff.mp ht
        rw [encodeChar_two h1' h2' t1 t1']
        rfl
    rw [if_neg h2] at h
    have h2' : 0xE0 ≤ b0.toNat := by rw [UInt8.lt_iff_toNat_lt] at h2; simpa using h2
    by_cases h3 : b0 < 0xF0
    · -- three bytes
      rw [if_pos h3] at h
      have h3' : b0.toNat < 0xF0 := by rwa [UInt8.lt_iff_toNat_lt] at h3
      rcases rest with _ | ⟨b1, _ | ⟨b2, rest⟩⟩
      · cases h
      · cases h
      · simp only [Option.ite_none_right_eq_some, Option.some.injEq, Prod.mk.injEq] at h
        obtain ⟨hc, rfl, rfl⟩ := h
        simp only [Bool.and_eq_true, decide_eq_true_eq] at hc
        obtain ⟨⟨hlo, hhi⟩, t2⟩ := hc
        obtain ⟨t2, t2'⟩ := isTail_iff.mp t2
        have hb1 : (b0.toNat = 0xE0 → 0xA0 ≤ b1.toNat) ∧ (b0.toNat = 0xED → b1.toNat ≤ 0x9F) ∧
            0x80 ≤ b1.toNat ∧ b1.toNat ≤ 0xBF := by
          revert hlo hhi
          split_ifs <;> simp_all [UInt8.le_iff_toNat_le, ← UInt8.toNat_inj] <;> omega
        rw [encodeChar_three h2' h3' hb1.2.2.1 hb1.2.2.2 hb1.1 hb1.2.1 t2 t2']
        rfl
    rw [if_neg h3] at h
    have h3' : 0xF0 ≤ b0.toNat := by rw [UInt8.lt_iff_toNat_lt] at h3; simpa using h3
    by_cases h4 : b0 < 0xF5
    · -- four bytes
      rw [if_pos h4] at h
      have h4' : b0.toNat < 0xF5 := by rwa [UInt8.lt_iff_toNat_lt] at h4
      rcases rest with _ | ⟨b1, _ | ⟨b2, _ | ⟨b3, rest⟩⟩⟩
      · cases h
      · cases h
      · cases h
      · simp only [Option.ite_none_right_eq_some, Option.some.injEq, Prod.mk.injEq] at h
        obtain ⟨hc, rfl, rfl⟩ := h
        simp only [Bool.and_eq_true, decide_eq_true_eq] at hc
        obtain ⟨⟨⟨hlo, hhi⟩, t2⟩, t3⟩ := hc
        obtain ⟨t2, t2'⟩ := isTail_iff.mp t2
        obtain ⟨t3, t3'⟩ := isTail_iff.mp t3
        have hb1 : (b0.toNat = 0xF0 → 0x90 ≤ b1.toNat) ∧ (b0.toNat = 0xF4 → b1.toNat ≤ 0x8F) ∧
            0x80 ≤ b1.toNat ∧ b1.toNat ≤ 0xBF := by
          revert hlo hhi
          split_ifs <;> simp_all [UInt8.le_iff_toNat_le, ← UInt8.toNat_inj] <;> omega
        rw [encodeChar_four h3' h4' hb1.2.2.1 hb1.2.2.2 hb1.1 hb1.2.1 t2 t2' t3 t3']
        rfl
    · rw [if_neg h4] at h; cases h

/-- Every character takes at least one byte. -/
theorem exists_cons_encodeChar (c : Char) : ∃ b bs, encodeChar c = b :: bs := by
  dsimp only [encodeChar]
  split_ifs <;> exact ⟨_, _, rfl⟩

/-- The bytes a sequence takes are there, and they are the encoding of its character. -/
theorem scalar?_take {bs : Bytes} {ch : Char} {k : Nat} (h : scalar? bs = some (ch, k)) :
    k + 1 ≤ bs.length ∧ encodeChar ch = bs.take (k + 1) := by
  have he := encodeChar_of_scalar h
  have hk : (encodeChar ch).length = k + 1 := by
    have h2 := scalar_encodeChar ch (bs.drop (k + 1))
    rw [he, h] at h2
    have hpos : 0 < (encodeChar ch).length := by
      obtain ⟨b, bs, hb⟩ := exists_cons_encodeChar ch
      simp [hb]
    simp only [Option.some.injEq, Prod.mk.injEq] at h2
    omega
  refine ⟨?_, ?_⟩
  · have := congrArg List.length he
    simp only [List.length_append, List.length_drop] at this
    omega
  · conv => rhs; rw [← he]
    rw [List.take_left' hk]

/-! ## 4. ASCII bytes -/

theorem isTail_of_ascii {c : UInt8} (hc : c < 0x80) : isTail c = false := by
  simp only [isTail, Bool.and_eq_false_iff, decide_eq_false_iff_not, UInt8.not_le]
  exact .inl hc

/-- An ASCII byte is a character of its own. -/
theorem scalar?_ascii {c : UInt8} (hc : c < 0x80) (rest : Bytes) :
    scalar? (c :: rest) = some (Char.ofNat c.toNat, 0) := by
  simp [scalar?, hc]

/-- A byte that starts no well-formed sequence is not ASCII. -/
theorem high_of_scalar?_none {b : UInt8} {rest : Bytes} (h : scalar? (b :: rest) = none) :
    0x80 ≤ b := by
  by_cases hb : b < 0x80
  · rw [scalar?_ascii hb] at h; cases h
  · simpa using hb

/-- **A sequence never runs across an ASCII byte**: what follows one does not change what is
read before it. -/
theorem scalar?_append_ascii {x y : Bytes} {c : UInt8} (hx : x ≠ []) (hc : c < 0x80) :
    scalar? (x ++ c :: y) = scalar? x := by
  obtain ⟨b0, x, rfl⟩ := List.exists_cons_of_ne_nil hx
  have ht := isTail_of_ascii hc
  -- the second byte of a longer form is at least `0x80`, which an ASCII byte is not
  have hlo : ∀ lo : UInt8, 0x80 ≤ lo → decide (lo ≤ c) = false := by
    intro lo hlo
    simp only [decide_eq_false_iff_not, UInt8.not_le]
    exact UInt8.lt_of_lt_of_le hc hlo
  simp only [scalar?, List.cons_append]
  by_cases h0 : b0 < 0x80
  · simp only [if_pos h0]
  rw [if_neg h0, if_neg h0]
  by_cases h1 : b0 < 0xC2
  · simp only [if_pos h1]
  rw [if_neg h1, if_neg h1]
  by_cases h2 : b0 < 0xE0
  · rw [if_pos h2, if_pos h2]
    rcases x with _ | ⟨b1, x⟩
    · simp [ht]
    · rfl
  rw [if_neg h2, if_neg h2]
  by_cases h3 : b0 < 0xF0
  · rw [if_pos h3, if_pos h3]
    rcases x with _ | ⟨b1, _ | ⟨b2, x⟩⟩
    · rcases y with _ | ⟨d, y⟩
      · rfl
      · simp only [List.nil_append]
        rw [hlo _ (by split <;> decide)]
        simp
    · simp [ht]
    · rfl
  rw [if_neg h3, if_neg h3]
  by_cases h4 : b0 < 0xF5
  · rw [if_pos h4, if_pos h4]
    rcases x with _ | ⟨b1, _ | ⟨b2, _ | ⟨b3, x⟩⟩⟩
    · rcases y with _ | ⟨d1, _ | ⟨d2, y⟩⟩
      · rfl
      · rfl
      · simp only [List.nil_append]
        rw [hlo _ (by split <;> decide)]
        simp
    · rcases y with _ | ⟨d1, y⟩
      · rfl
      · simp [ht]
    · simp [ht]
    · rfl
  · rw [if_neg h4, if_neg h4]

/-! ## 5. Whole strings -/

@[simp] theorem chars_nil : chars [] = [] := by rw [chars]

@[simp] theorem repair_nil : repair [] = [] := by simp [repair, encode]

theorem chars_cons (b : UInt8) (rest : Bytes) :
    chars (b :: rest) = headChar (b :: rest) :: chars ((b :: rest).drop (headWidth (b :: rest))) := by
  rw [chars]

/-- **Reading an encoded character** gives it, and goes on after its bytes. -/
theorem chars_encodeChar_append (c : Char) (rest : Bytes) :
    chars (encodeChar c ++ rest) = c :: chars rest := by
  obtain ⟨b, bs, hb⟩ := exists_cons_encodeChar c
  have hs := scalar_encodeChar c rest
  rw [hb, List.cons_append] at hs ⊢
  rw [chars_cons]
  simp only [headChar, headWidth, hs, List.length_cons, Nat.add_one_sub_one, List.drop_succ_cons,
    List.drop_left]

/-- **Reading what is encoded gives the characters back.** -/
theorem chars_encode (cs : List Char) : chars (encode cs) = cs := by
  induction cs with
  | nil => simp [encode]
  | cons c cs ih =>
    simp only [encode, List.flatMap_cons] at ih ⊢
    rw [chars_encodeChar_append, ih]

theorem headWidth_le {b : UInt8} {rest : Bytes} : headWidth (b :: rest) ≤ (b :: rest).length := by
  unfold headWidth
  split
  · exact (scalar?_take ‹_›).1
  · simp

/-- Reading splits at an ASCII byte. -/
theorem chars_append_ascii {c : UInt8} (hc : c < 0x80) (y : Bytes) :
    ∀ x : Bytes, chars (x ++ c :: y) = chars x ++ Char.ofNat c.toNat :: chars y := by
  intro x
  induction hn : x.length using Nat.strongRecOn generalizing x with
  | _ n ih =>
    cases x with
    | nil =>
      rw [List.nil_append, chars_cons]
      simp [headChar, headWidth, scalar?_ascii hc]
    | cons b x =>
      -- the head sequence ends before the ASCII byte, so the rest is read after it
      have hs : scalar? (b :: (x ++ c :: y)) = scalar? (b :: x) :=
        scalar?_append_ascii (x := b :: x) (by simp) hc
      have hw : headWidth (b :: (x ++ c :: y)) = headWidth (b :: x) := by
        simp only [headWidth, hs]
      have hh : headChar (b :: (x ++ c :: y)) = headChar (b :: x) := by
        simp only [headChar, hs]
      have hle : headWidth (b :: x) ≤ (b :: x).length := headWidth_le
      have hpos := headWidth_pos (b :: x)
      rw [List.cons_append, chars_cons, hw, hh, chars_cons, ← List.cons_append,
        List.drop_append_of_le_length hle,
        ih _ (by simp only [List.length_drop, ← hn]; omega) _ rfl]
      rfl

/-- Repair is the encoding of the reading. -/
theorem repair_cons (b : UInt8) (rest : Bytes) :
    repair (b :: rest) =
      encodeChar (headChar (b :: rest)) ++ repair ((b :: rest).drop (headWidth (b :: rest))) := by
  simp only [repair, encode, chars_cons, List.flatMap_cons]

/-- **Repair splits at an ASCII byte.** -/
theorem repair_append_ascii {c : UInt8} (hc : c < 0x80) (x y : Bytes) :
    repair (x ++ c :: y) = repair x ++ c :: repair y := by
  have hone := encodeChar_one (b := c) (by rwa [UInt8.lt_iff_toNat_lt] at hc)
  simp only [repair, encode, chars_append_ascii hc, List.flatMap_append, List.flatMap_cons, hone]
  rfl

theorem repair_ascii_cons {c : UInt8} (hc : c < 0x80) (y : Bytes) :
    repair (c :: y) = c :: repair y := by
  simpa using repair_append_ascii hc [] y

/-- **Repair keeps a valid string.** -/
theorem repair_of_isValid {bs : Bytes} (h : isValid bs = true) : repair bs = bs := by
  induction hn : bs.length using Nat.strongRecOn generalizing bs with
  | _ n ih =>
    cases bs with
    | nil => exact repair_nil
    | cons b rest =>
      rw [isValid] at h
      split at h
      · rename_i ch k hs
        have hrest := ih _ (by simp only [List.length_drop, ← hn, List.length_cons]; omega) h rfl
        rw [repair_cons]
        simp only [headChar, headWidth, hs]
        rw [show (b :: rest).drop (k + 1) = rest.drop k from rfl, hrest]
        exact encodeChar_of_scalar hs
      · cases h

/-- An encoded text is valid. -/
theorem isValid_encode (cs : List Char) : isValid (encode cs) = true := by
  induction cs with
  | nil => simp [encode, isValid]
  | cons c cs ih =>
    simp only [encode, List.flatMap_cons] at ih ⊢
    obtain ⟨b, bs, hb⟩ := exists_cons_encodeChar c
    have hs := scalar_encodeChar c (cs.flatMap encodeChar)
    rw [hb, List.cons_append] at hs ⊢
    rw [isValid, hs]
    simpa [hb, List.drop_left] using ih

/-- **Repair gives valid UTF-8.** -/
theorem isValid_repair (bs : Bytes) : isValid (repair bs) = true := isValid_encode _

/-- The replacement character is three bytes from `0x80` up. -/
theorem encodeChar_replacement : encodeChar replacement = [0xEF, 0xBF, 0xBD] := by
  decide

/-- **Repair turns a run of bytes from `0x80` up into another.** -/
theorem repair_high {h : Bytes} (hh : ∀ b ∈ h, 0x80 ≤ b) : ∀ b ∈ repair h, 0x80 ≤ b := by
  induction hn : h.length using Nat.strongRecOn generalizing h with
  | _ n ih =>
    cases h with
    | nil => simp
    | cons b rest =>
      have hpos := headWidth_pos (b :: rest)
      have hdrop := ih _ (by simp only [List.length_drop, ← hn, List.length_cons]; omega)
        (h := (b :: rest).drop (headWidth (b :: rest)))
        (fun d hd => hh d (List.mem_of_mem_drop hd)) rfl
      rw [repair_cons]
      intro d hd
      rcases List.mem_append.mp hd with hd | hd
      · unfold headChar at hd
        split at hd
        · rename_i ch k hs
          rw [(scalar?_take hs).2] at hd
          exact hh d (List.mem_of_mem_take hd)
        · rw [encodeChar_replacement] at hd
          simp only [List.mem_cons, List.not_mem_nil, or_false] at hd
          rcases hd with rfl | rfl | rfl <;> decide
      · exact hdrop d hd

/-! ## 6. Validity of joined strings, and the bytes of a Lean string -/

/-- Encoded text followed by anything is as valid as what follows. -/
theorem isValid_encode_append (cs : List Char) (rest : Bytes) :
    isValid (encode cs ++ rest) = isValid rest := by
  induction cs with
  | nil => simp [encode]
  | cons c cs ih =>
    obtain ⟨b, bs, hb⟩ := exists_cons_encodeChar c
    have hs := scalar_encodeChar c (encode cs ++ rest)
    rw [hb, List.cons_append] at hs
    rw [encode, List.flatMap_cons, List.append_assoc, ← encode, hb, List.cons_append, isValid, hs]
    simpa [hb, List.drop_left] using ih

/-- **Valid strings joined are valid.** -/
theorem isValid_append {x y : Bytes} (hx : isValid x = true) (hy : isValid y = true) :
    isValid (x ++ y) = true := by
  rw [← repair_of_isValid hx, repair, isValid_encode_append]
  exact hy

/-- ASCII bytes are valid. -/
theorem isValid_ascii {bs : Bytes} (h : ∀ b ∈ bs, b < 0x80) : isValid bs = true := by
  induction bs with
  | nil => simp [isValid]
  | cons b bs ih =>
    rw [isValid, scalar?_ascii (h b (by simp))]
    exact ih fun d hd => h d (by simp [hd])

/-- An ASCII character is its own byte. -/
theorem encodeChar_ascii {c : Char} (h : c.toNat < 0x80) : encodeChar c = [c.toNat.toUInt8] := by
  simp [encodeChar, h]

/-- Every byte of a character beyond ASCII is from `0x80` up. -/
theorem encodeChar_high {c : Char} (h : 0x80 ≤ c.toNat) : ∀ b ∈ encodeChar c, 0x80 ≤ b := by
  have hv := isValidChar_toNat c
  simp only [Nat.isValidChar] at hv
  dsimp only [encodeChar]
  split_ifs <;> simp [UInt8.le_iff_toNat_le] <;> omega

/-- An ASCII byte stands in a character's bytes once if it is the character, and never
otherwise. -/
theorem count_encodeChar {a : UInt8} (ha : a < 0x80) (c : Char) :
    (encodeChar c).count a = if c.toNat = a.toNat then 1 else 0 := by
  have ha' : a.toNat < 0x80 := by rwa [UInt8.lt_iff_toNat_lt] at ha
  by_cases hc : c.toNat < 0x80
  · rw [encodeChar_ascii hc, List.count_singleton]
    have hmod : c.toNat % 256 = c.toNat := Nat.mod_eq_of_lt (by omega)
    simp only [beq_iff_eq, ← UInt8.toNat_inj, UInt8.toNat_ofNat', hmod]
  · rw [if_neg (by omega), List.count_eq_zero]
    intro h
    have := encodeChar_high (by omega) a h
    grind

theorem bytes_toList_loop (a : Array UInt8) (i : Nat) (r : List UInt8) :
    ByteArray.toList.loop ⟨a⟩ i r = r.reverse ++ a.toList.drop i := by
  fun_induction ByteArray.toList.loop ⟨a⟩ i r with
  | case1 i r hi ih =>
    have hi' : i < a.toList.length := hi
    have hget : (⟨a⟩ : ByteArray).get! i = a.toList[i] := by
      show a[i]! = _
      simp [getElem!_pos a i hi]
    rw [ih, hget, List.reverse_cons, List.append_assoc, List.singleton_append,
      ← List.drop_eq_getElem_cons hi']
  | case2 i r hi =>
    have : a.toList.length ≤ i := Nat.le_of_not_lt hi
    simp [List.drop_eq_nil_of_le this]

theorem bytes_toList (b : ByteArray) : b.toList = b.data.toList := by
  obtain ⟨a⟩ := b
  simp [ByteArray.toList, bytes_toList_loop]

/-- The library's encoder of a character is this module's. -/
theorem utf8EncodeChar_eq (c : Char) : String.utf8EncodeChar c = encodeChar c := by
  have hv := isValidChar_toNat c
  simp only [Nat.isValidChar] at hv
  have hval : c.val.toNat = c.toNat := rfl
  unfold String.utf8EncodeChar encodeChar
  simp only [hval]
  split_ifs <;> simp [← UInt8.toNat_inj, UInt8.toNat_add] <;> omega

/-- **The bytes of a string are the encoding of its characters.** -/
theorem ofString_eq_encode (s : String) : ofString s = encode s.toList := by
  rw [ofString, String.toUTF8_eq_toByteArray, ← String.utf8Encode_toList, List.utf8Encode,
    bytes_toList, List.toList_data_toByteArray, encode, funext utf8EncodeChar_eq]

end Inventory.Utf8
