import Inventory.Json.Encode
import Inventory.Proofs.Json.Strings
import Inventory.Proofs.Text.Utf8
/-!
# Written strings

How this library writes a string as JSON (`escapeFor`, `escapeBytes`, `quoteString`,
`quoteBytesWith`), against how the machine and the decoder read it back.

Writing one character gives one of three things (`escapeFor_cases`): a two-byte escape, a
`\uXXXX` escape of its code point, or its own UTF-8 bytes, which are then neither a control
byte, a quote nor a backslash. Every property below is a case analysis over these three.

* Each piece is read inside a literal without leaving it (`Scanner.LiteralBody`), so a written
  string is one string value (`isString_quoteString`, `isString_quoteBytesWith`).
* Decoding undoes writing: the text of a written string is the string (`decode_quoteString`),
  and the text of written bytes is their reading as UTF-8, each stray byte read as `U+FFFD`
  (`decode_quoteBytesWith`).
* A written string is UTF-8 (`isValid_quoteBytesWith`) and holds no byte below `0x20`
  (`le_of_mem_quoteBytesWith`); without the HTML escapes each `<`, `>` and `&` is written as
  itself, so the written string holds as many of each as the bytes (`count_quoteBytesWith`).
-/

set_option autoImplicit false

namespace Inventory.Json

/-! ## 1. Escapes -/

/-- The bytes after the backslash of the two-byte escapes the writer uses. -/
def shortEscapes : List UInt8 := [0x22, 0x5C, 0x62, 0x66, 0x6E, 0x72, 0x74]

theorem uEscape_eq (v : Nat) :
    uEscape v = [0x5C, 0x75, hexByte (v / 4096 % 16), hexByte (v / 256 % 16),
      hexByte (v / 16 % 16), hexByte (v % 16)] := by
  simp [uEscape, Text.hexDigits, List.range_succ, hexByte]

/-- A hexadecimal digit as written: one the machine accepts, read back as its value, and
neither a control byte nor one of `<` and `>`. -/
theorem hexByte_spec : ∀ n < 16, isHex (hexByte n) = true ∧ hexValue (hexByte n) = n ∧
    0x30 ≤ hexByte n ∧ hexByte n < 0x80 ∧ hexByte n ≠ 0x3C ∧ hexByte n ≠ 0x3E := by
  decide

theorem hex4_uEscape {v : Nat} (hv : v < 0x10000) :
    hex4 (hexByte (v / 4096 % 16)) (hexByte (v / 256 % 16)) (hexByte (v / 16 % 16))
      (hexByte (v % 16)) = v := by
  simp only [hex4, (hexByte_spec _ (Nat.mod_lt _ (by decide))).2.1]
  omega

/-- **What writing one character gives**: a two-byte escape that reads back as the character;
the `\uXXXX` escape of its code point, which is no surrogate, written without the HTML escapes
only for a control character or a line or paragraph separator; or its own UTF-8 bytes. -/
theorem escapeFor_cases (html : Bool) (c : Char) :
    (∃ x ∈ shortEscapes, escapeFor html c = [0x5C, x] ∧ escapeValue x = c) ∨
    (escapeFor html c = uEscape c.toNat ∧ c.toNat < 0x10000 ∧
      Utf8.isSurrogate c.toNat = false ∧
      (html = false → c.toNat < 0x20 ∨ c.toNat = 0x2028 ∨ c.toNat = 0x2029)) ∨
    (escapeFor html c = Utf8.encodeChar c ∧ 0x20 ≤ c.toNat ∧ c ≠ '"' ∧ c ≠ '\\') := by
  have hsur : ∀ {v : Nat}, (v < 0x20 ∨ v = 0x2028 ∨ v = 0x2029 ∨ v = 0x3C ∨ v = 0x3E ∨
      v = 0x26) → Utf8.isSurrogate v = false := by
    intro v hv; simp [Utf8.isSurrogate]; omega
  dsimp only [escapeFor]
  by_cases h1 : c = '"'
  · rw [if_pos h1]; exact .inl ⟨0x22, by decide, rfl, by rw [h1]; decide⟩
  rw [if_neg h1]
  by_cases h2 : c = '\\'
  · rw [if_pos h2]; exact .inl ⟨0x5C, by decide, rfl, by rw [h2]; decide⟩
  rw [if_neg h2]
  by_cases h3 : c = '\x08'
  · rw [if_pos h3]; exact .inl ⟨0x62, by decide, rfl, by rw [h3]; decide⟩
  rw [if_neg h3]
  by_cases h4 : c = '\x0c'
  · rw [if_pos h4]; exact .inl ⟨0x66, by decide, rfl, by rw [h4]; decide⟩
  rw [if_neg h4]
  by_cases h5 : c = '\n'
  · rw [if_pos h5]; exact .inl ⟨0x6E, by decide, rfl, by rw [h5]; decide⟩
  rw [if_neg h5]
  by_cases h6 : c = '\r'
  · rw [if_pos h6]; exact .inl ⟨0x72, by decide, rfl, by rw [h6]; decide⟩
  rw [if_neg h6]
  by_cases h7 : c = '\t'
  · rw [if_pos h7]; exact .inl ⟨0x74, by decide, rfl, by rw [h7]; decide⟩
  rw [if_neg h7]
  by_cases h8 : c.toNat < 0x20
  · rw [if_pos h8]
    exact .inr (.inl ⟨rfl, by omega, hsur (.inl h8), fun _ => .inl h8⟩)
  rw [if_neg h8]
  by_cases h9 : c.toNat = 0x2028 ∨ c.toNat = 0x2029
  · rw [if_pos (by simpa using h9)]
    exact .inr (.inl ⟨rfl, by omega, hsur (by omega), fun _ => .inr h9⟩)
  rw [if_neg (by simpa using h9)]
  by_cases h10 : html = true ∧ ((c = '<' ∨ c = '>') ∨ c = '&')
  · -- the HTML characters, escaped only when asked
    rw [if_pos (by simpa using h10)]
    obtain ⟨rfl, h10⟩ := h10
    have hv : c.toNat = 0x3C ∨ c.toNat = 0x3E ∨ c.toNat = 0x26 := by
      rcases h10 with (rfl | rfl) | rfl <;> decide
    exact .inr (.inl ⟨rfl, by omega, hsur (by omega), by simp⟩)
  rw [if_neg (by simpa using h10)]
  exact .inr (.inr ⟨rfl, by omega, h1, h2⟩)

/-! ## 2. The machine inside a literal -/

namespace Scanner

/-- **Bytes a string literal may hold**: read from inside a literal, they are taken and leave
the machine inside it, as it was. -/
def LiteralBody (b : Bytes) : Prop :=
  ∀ s : Scanner, s.phase = .inString → Inside s b ∧ s.feed b = s

theorem literalBody_nil : LiteralBody [] := fun _ _ => ⟨trivial, rfl⟩

theorem LiteralBody.append {x y : Bytes} (hx : LiteralBody x) (hy : LiteralBody y) :
    LiteralBody (x ++ y) := by
  intro s hp
  obtain ⟨h1, h2⟩ := hx s hp
  obtain ⟨h3, h4⟩ := hy s hp
  rw [inside_append, feed_append, h2]
  exact ⟨⟨h1, h3⟩, h4⟩

/-- A byte that is not a control byte, a quote or a backslash is taken as it is. -/
theorem literalBody_plain {b : Bytes} (hb : ∀ c ∈ b, 0x20 ≤ c ∧ c ≠ 0x22 ∧ c ≠ 0x5C) :
    LiteralBody b := by
  induction b with
  | nil => exact literalBody_nil
  | cons c b ih =>
    intro s hp
    obtain ⟨h1, h2, h3⟩ := hb c (by simp)
    have hstep : s.step c = (s, .continue) := by
      have hq : (c == 0x22) = false := by simpa using h2
      have hb' : (c == 0x5C) = false := by simpa using h3
      have hlow : ¬ c < 0x20 := by grind
      unfold step
      rw [hp]
      simp only [hq, hb', hlow, Bool.false_eq_true, ↓reduceIte]
    obtain ⟨i1, i2⟩ := ih (fun d hd => hb d (by simp [hd])) s hp
    rw [inside_cons, feed_cons, hstep]
    exact ⟨⟨rfl, i1⟩, i2⟩

/-- Back inside the literal after an escape, the machine is as it was before it. -/
theorem setPhase_inString {s : Scanner} (hp : s.phase = .inString) :
    { s with phase := .inString } = s := by
  rw [← hp]

theorem literalBody_short {x : UInt8} (hx : x ∈ shortEscapes) : LiteralBody [0x5C, x] := by
  intro s hp
  have h1 : s.step 0x5C = ({ s with phase := .inStringEsc }, .continue) := by
    unfold step; rw [hp]; rfl
  have h2 : ({ s with phase := .inStringEsc } : Scanner).step x =
      ({ s with phase := .inString }, .continue) := by
    simp only [shortEscapes, List.mem_cons, List.not_mem_nil, or_false] at hx
    rcases hx with rfl | rfl | rfl | rfl | rfl | rfl | rfl <;> rfl
  simp only [inside_cons, feed_cons, h1, h2, setPhase_inString hp]
  exact ⟨⟨rfl, rfl, trivial⟩, rfl⟩

theorem literalBody_uEscape (v : Nat) : LiteralBody (uEscape v) := by
  intro s hp
  have hx : ∀ n < 16, isHex (hexByte n) = true := fun n hn => (hexByte_spec n hn).1
  have hd : ∀ (k : Nat) (n : Nat), n < 16 → ({ s with phase := .inStringEscU k } : Scanner).step
      (hexByte n) = ({ s with phase := if k < 3 then .inStringEscU (k + 1) else .inString },
        .continue) := by
    intro k n hn
    simp only [step, hx n hn, ↓reduceIte]
  have h1 : s.step 0x5C = ({ s with phase := .inStringEsc }, .continue) := by
    unfold step; rw [hp]; rfl
  have h2 : ({ s with phase := .inStringEsc } : Scanner).step 0x75 =
      ({ s with phase := .inStringEscU 0 }, .continue) := rfl
  have m := fun (n : Nat) => Nat.mod_lt n (show 16 > 0 by decide)
  rw [uEscape_eq]
  simp only [inside_cons, feed_cons, h1, h2, hd _ _ (m _), Nat.reduceAdd, Nat.reduceLT,
    ↓reduceIte, setPhase_inString hp]
  exact ⟨⟨rfl, rfl, rfl, rfl, rfl, rfl, trivial⟩, rfl⟩

/-- The UTF-8 bytes of a character that is not a control character, a quote or a backslash. -/
theorem literalBody_encodeChar {c : Char} (h0 : 0x20 ≤ c.toNat) (h1 : c ≠ '"') (h2 : c ≠ '\\') :
    LiteralBody (Utf8.encodeChar c) := by
  apply literalBody_plain
  by_cases hc : c.toNat < 0x80
  · rw [Utf8.encodeChar_ascii hc]
    have h1' : c.toNat ≠ 0x22 := fun h => h1 (Char.toNat_inj.mp h)
    have h2' : c.toNat ≠ 0x5C := fun h => h2 (Char.toNat_inj.mp h)
    simp only [List.mem_singleton, ne_eq, UInt8.le_iff_toNat_le, ← UInt8.toNat_inj]
    simp
    omega
  · intro b hb
    have := Utf8.encodeChar_high (by omega) b hb
    refine ⟨by grind, by grind, by grind⟩

/-- **Every piece the writer gives stays inside the literal.** -/
theorem literalBody_escapeFor (html : Bool) (c : Char) : LiteralBody (escapeFor html c) := by
  rcases escapeFor_cases html c with ⟨x, hx, he, -⟩ | ⟨he, -⟩ | ⟨he, h0, h1, h2⟩
  · rw [he]; exact literalBody_short hx
  · rw [he]; exact literalBody_uEscape _
  · rw [he]; exact literalBody_encodeChar h0 h1 h2

theorem literalBody_escapes (html : Bool) (cs : List Char) :
    LiteralBody (cs.flatMap (escapeFor html)) := by
  induction cs with
  | nil => exact literalBody_nil
  | cons c cs ih => exact (literalBody_escapeFor html c).append ih

theorem literalBody_escapeBytes (html : Bool) (bs : Bytes) : LiteralBody (escapeBytes html bs) := by
  induction bs using escapeBytes.induct with
  | case1 => simpa [escapeBytes] using literalBody_nil
  | case2 b rest c k hs ih =>
    rw [escapeBytes, hs]
    exact (literalBody_escapeFor html c).append ih
  | case3 b rest hs ih =>
    rw [escapeBytes, hs]
    exact (literalBody_uEscape _).append ih

end Scanner

open Scanner

/-- **A literal body between quotes is a string value.** -/
theorem isString_of_literalBody {b : Bytes} (hb : LiteralBody b) : IsString (0x22 :: b ++ [0x22]) := by
  have hclose : ({ phase := .inString } : Scanner).step 0x22 =
      ({ phase := .endValue }, .continue) := rfl
  obtain ⟨h1, h2⟩ := hb { phase := .inString } rfl
  refine ⟨⟨?_, ?_, by simp [isBlank]⟩, rfl⟩
  · rw [List.cons_append, inside_cons, step_openQuote, inside_append, h2]
    exact ⟨rfl, h1, by rw [hclose]; rfl, trivial⟩
  · rw [List.cons_append, feed_cons, step_openQuote, feed_append, h2]
    simp only [feed_cons, hclose, feed_nil]
    exact ⟨rfl, rfl, .inr rfl⟩

theorem isString_quoteString (s : String) : IsString (quoteString s) :=
  isString_of_literalBody (literalBody_escapes false s.toList)

theorem isString_quoteBytesWith (html : Bool) (bs : Bytes) : IsString (quoteBytesWith html bs) :=
  isString_of_literalBody (literalBody_escapeBytes html bs)

/-! ## 3. Reading back -/

theorem unescape_short {x : UInt8} (hx : x ∈ shortEscapes) (rest : Bytes) :
    unescape (0x5C :: x :: rest) = escapeValue x :: unescape rest := by
  have hu : x ≠ 0x75 := by
    simp only [shortEscapes, List.mem_cons, List.not_mem_nil, or_false] at hx
    rcases hx with rfl | rfl | rfl | rfl | rfl | rfl | rfl <;> decide
  exact unescape.eq_4 x rest (fun _ _ _ _ _ _ _ _ _ h _ => hu h) (fun _ _ _ _ _ h _ => hu h)

/-- A `\uXXXX` escape of a code point that is no surrogate reads as its character, whatever
follows it; the decoder's look-ahead for a surrogate pair changes nothing here. -/
theorem unescape_uEscape {v : Nat} (hv : v < 0x10000) (hs : Utf8.isSurrogate v = false)
    (rest : Bytes) : unescape (uEscape v ++ rest) = Char.ofNat v :: unescape rest := by
  rw [uEscape_eq]
  simp only [List.cons_append, List.nil_append]
  by_cases hpair : ∃ e f g h more, rest = 0x5C :: 0x75 :: e :: f :: g :: h :: more
  · obtain ⟨e, f, g, h, more, rfl⟩ := hpair
    rw [unescape.eq_2, hex4_uEscape hv, hs]
    rfl
  · rw [unescape.eq_3 _ _ _ _ _ fun e f g h more heq => hpair ⟨e, f, g, h, more, heq⟩,
      hex4_uEscape hv, hs]
    rfl

/-- The UTF-8 bytes of any character but the backslash read back as the character. -/
theorem unescape_encodeChar {c : Char} (hc : c ≠ '\\') (rest : Bytes) :
    unescape (Utf8.encodeChar c ++ rest) = c :: unescape rest := by
  obtain ⟨b, bs, hb⟩ := Utf8.exists_cons_encodeChar c
  -- the lead byte is no backslash: an ASCII character is its own byte, a wider one starts high
  have hne : b ≠ 0x5C := by
    by_cases ha : c.toNat < 0x80
    · rw [Utf8.encodeChar_ascii ha, List.cons.injEq] at hb
      rw [← hb.1]
      intro h
      apply hc
      apply Char.toNat_inj.mp
      have hmod : c.toNat % 256 = c.toNat := Nat.mod_eq_of_lt (by omega)
      simpa [← UInt8.toNat_inj, hmod] using h
    · have := Utf8.encodeChar_high (c := c) (by omega) b (by rw [hb]; simp)
      rintro rfl
      exact absurd this (by decide)
  have hs := Utf8.scalar_encodeChar c rest
  rw [hb, List.cons_append] at hs ⊢
  rw [unescape.eq_5 _ _ (fun _ _ _ _ _ _ _ _ _ h _ => hne h) (fun _ _ _ _ _ h _ => hne h)
    (fun _ _ h _ => hne h), hs]
  simp

/-- **Reading back one written character**, whatever follows it. -/
theorem unescape_escapeFor (html : Bool) (c : Char) (rest : Bytes) :
    unescape (escapeFor html c ++ rest) = c :: unescape rest := by
  rcases escapeFor_cases html c with ⟨x, hx, he, hc⟩ | ⟨he, hv, hs, -⟩ | ⟨he, -, -, h2⟩
  · rw [he, List.cons_append, List.cons_append, List.nil_append, unescape_short hx, hc]
  · rw [he, unescape_uEscape hv hs, Char.ofNat_toNat]
  · rw [he, unescape_encodeChar h2]

theorem unescape_escapes (html : Bool) (cs : List Char) (rest : Bytes) :
    unescape (cs.flatMap (escapeFor html) ++ rest) = cs ++ unescape rest := by
  induction cs with
  | nil => rfl
  | cons c cs ih =>
    rw [List.flatMap_cons, List.append_assoc, unescape_escapeFor, ih, List.cons_append]

/-- **Reading back written bytes** gives their reading as UTF-8: a stray byte, written as the
escape of `U+FFFD`, reads as `U+FFFD`. -/
theorem unescape_escapeBytes (html : Bool) (bs tail : Bytes) :
    unescape (escapeBytes html bs ++ tail) = Utf8.chars bs ++ unescape tail := by
  induction bs using escapeBytes.induct with
  | case1 => simp [escapeBytes]
  | case2 b rest c k hs ih =>
    rw [escapeBytes, hs, List.append_assoc, unescape_escapeFor, ih, Utf8.chars_cons]
    simp [Utf8.headChar, Utf8.headWidth, hs]
  | case3 b rest hs ih =>
    rw [escapeBytes, hs, List.append_assoc, unescape_uEscape (by decide) (by decide), ih,
      Utf8.chars_cons]
    simp [Utf8.headChar, Utf8.headWidth, hs]
    decide

/-- The text of a literal is the reading of what stands between its quotes. -/
theorem decodeStringLiteral_quoted (b : Bytes) :
    decodeStringLiteral (0x22 :: b ++ [0x22]) = String.ofList (unescape b) := by
  simp [decodeStringLiteral]

/-- **Decoding a written string gives the string.** -/
theorem decode_quoteString (s : String) : decodeStringLiteral (quoteString s) = s := by
  have h := unescape_escapes false s.toList []
  rw [List.append_nil, unescape.eq_1, List.append_nil] at h
  rw [quoteString, List.cons_append, ← List.cons_append, decodeStringLiteral_quoted, h,
    String.ofList_toList]

/-- **Decoding written bytes gives their reading as UTF-8.** -/
theorem decode_quoteBytesWith (html : Bool) (bs : Bytes) :
    decodeStringLiteral (quoteBytesWith html bs) = Utf8.decode bs := by
  have h := unescape_escapeBytes html bs []
  rw [List.append_nil, unescape.eq_1, List.append_nil] at h
  rw [quoteBytesWith, List.cons_append, ← List.cons_append, decodeStringLiteral_quoted, h,
    Utf8.decode]

/-! ## 4. The bytes of a written string -/

/-- The bytes `<`, `>` and `&`, which only the HTML escapes change. -/
def htmlBytes : List UInt8 := [0x3C, 0x3E, 0x26]

theorem short_ascii : ∀ x ∈ shortEscapes, ∀ b ∈ ([0x5C, x] : Bytes), 0x20 ≤ b ∧ b < 0x80 := by
  simp [shortEscapes]

/-- A two-byte escape holds none of `<`, `>` and `&`, and neither does its character. -/
theorem count_short : ∀ x ∈ shortEscapes, ∀ a ∈ htmlBytes,
    ([0x5C, x] : Bytes).count a = (Utf8.encodeChar (escapeValue x)).count a := by
  decide +kernel

theorem uEscape_ascii (v : Nat) : ∀ b ∈ uEscape v, 0x20 ≤ b ∧ b < 0x80 ∧ b ∉ htmlBytes := by
  have hd := fun (n : Nat) => hexByte_spec (n % 16) (Nat.mod_lt n (by decide))
  rw [uEscape_eq]
  intro b hb
  simp only [List.mem_cons, List.not_mem_nil, or_false] at hb
  rcases hb with rfl | rfl | rfl | rfl | rfl | rfl
  · decide
  · decide
  all_goals
    obtain ⟨-, -, h1, h2, h3, h4⟩ := hd _
    refine ⟨by grind, h2, ?_⟩
    simp only [htmlBytes, List.mem_cons, List.not_mem_nil, or_false]
    grind

theorem isValid_escapeFor (html : Bool) (c : Char) : Utf8.isValid (escapeFor html c) = true := by
  rcases escapeFor_cases html c with ⟨x, hx, he, -⟩ | ⟨he, -⟩ | ⟨he, -⟩
  · rw [he]
    exact Utf8.isValid_ascii fun b hb => (short_ascii x hx b hb).2
  · rw [he]
    exact Utf8.isValid_ascii fun b hb => (uEscape_ascii _ b hb).2.1
  · rw [he]
    simpa [Utf8.encode] using Utf8.isValid_encode [c]

theorem le_of_mem_escapeFor (html : Bool) (c : Char) : ∀ b ∈ escapeFor html c, 0x20 ≤ b := by
  rcases escapeFor_cases html c with ⟨x, hx, he, -⟩ | ⟨he, -⟩ | ⟨he, h0, -⟩
  · rw [he]
    exact fun b hb => (short_ascii x hx b hb).1
  · rw [he]
    exact fun b hb => (uEscape_ascii _ b hb).1
  · rw [he]
    intro b hb
    by_cases hc : c.toNat < 0x80
    · rw [Utf8.encodeChar_ascii hc, List.mem_singleton] at hb
      subst hb
      have hmod : c.toNat % 256 = c.toNat := Nat.mod_eq_of_lt (by omega)
      simp [UInt8.le_iff_toNat_le, hmod]
      omega
    · have := Utf8.encodeChar_high (by omega) b hb
      grind

/-- Without the HTML escapes, `<`, `>` and `&` are written exactly where the character's own
bytes have them. -/
theorem count_escapeFor {a : UInt8} (ha : a ∈ htmlBytes) (c : Char) :
    (escapeFor false c).count a = (Utf8.encodeChar c).count a := by
  have ha' : a < 0x80 ∧ 0x20 ≤ a := by
    simp only [htmlBytes, List.mem_cons, List.not_mem_nil, or_false] at ha
    rcases ha with rfl | rfl | rfl <;> decide
  rcases escapeFor_cases false c with ⟨x, hx, he, hc⟩ | ⟨he, -, -, hlow⟩ | ⟨he, -⟩
  · rw [he, ← hc]
    exact count_short x hx a ha
  · -- a control character or a separator: neither side holds the byte
    rw [he, List.count_eq_zero.mpr fun h => (uEscape_ascii _ a h).2.2 ha,
      Utf8.count_encodeChar ha'.1, if_neg]
    have := hlow rfl
    have : 0x20 ≤ a.toNat := by rw [UInt8.le_iff_toNat_le] at ha'; exact ha'.2
    have : a.toNat < 0x80 := by rw [UInt8.lt_iff_toNat_lt] at ha'; exact ha'.1
    omega
  · rw [he]

theorem count_escapeBytes {a : UInt8} (ha : a ∈ htmlBytes) (bs : Bytes) :
    (escapeBytes false bs).count a = bs.count a := by
  induction bs using escapeBytes.induct with
  | case1 => simp [escapeBytes]
  | case2 b rest c k hs ih =>
    rw [escapeBytes, hs, List.count_append, ih, count_escapeFor ha, ← List.count_append,
      ← List.drop_succ_cons, Utf8.encodeChar_of_scalar hs]
  | case3 b rest hs ih =>
    have hb : b ∉ htmlBytes := by
      have := Utf8.high_of_scalar?_none hs
      simp only [htmlBytes, List.mem_cons, List.not_mem_nil, or_false]
      grind
    rw [escapeBytes, hs, List.count_append, ih,
      List.count_eq_zero.mpr fun h => (uEscape_ascii _ a h).2.2 ha, List.count_cons]
    have : (b == a) = false := by
      rw [beq_eq_false_iff_ne]
      rintro rfl
      exact hb ha
    simp [this]

theorem isValid_escapeBytes (html : Bool) (bs : Bytes) :
    Utf8.isValid (escapeBytes html bs) = true := by
  induction bs using escapeBytes.induct with
  | case1 => simp [escapeBytes, Utf8.isValid]
  | case2 b rest c k hs ih =>
    rw [escapeBytes, hs]
    exact Utf8.isValid_append (isValid_escapeFor html c) ih
  | case3 b rest hs ih =>
    rw [escapeBytes, hs]
    exact Utf8.isValid_append (Utf8.isValid_ascii fun b hb => (uEscape_ascii _ b hb).2.1) ih

theorem le_of_mem_escapeBytes (html : Bool) (bs : Bytes) : ∀ b ∈ escapeBytes html bs, 0x20 ≤ b := by
  induction bs using escapeBytes.induct with
  | case1 => simp [escapeBytes]
  | case2 b rest c k hs ih =>
    rw [escapeBytes, hs]
    intro d hd
    rcases List.mem_append.mp hd with hd | hd
    · exact le_of_mem_escapeFor html c d hd
    · exact ih d hd
  | case3 b rest hs ih =>
    rw [escapeBytes, hs]
    intro d hd
    rcases List.mem_append.mp hd with hd | hd
    · exact (uEscape_ascii _ d hd).1
    · exact ih d hd

/-- **Written bytes are UTF-8.** -/
theorem isValid_quoteBytesWith (html : Bool) (bs : Bytes) :
    Utf8.isValid (quoteBytesWith html bs) = true := by
  have hq : Utf8.isValid [0x22] = true := Utf8.isValid_ascii (by simp)
  rw [quoteBytesWith, List.cons_append, ← List.singleton_append]
  exact Utf8.isValid_append hq (Utf8.isValid_append (isValid_escapeBytes html bs) hq)

/-- **A written string is UTF-8.** -/
theorem isValid_quoteString (s : String) : Utf8.isValid (quoteString s) = true := by
  have hq : Utf8.isValid [0x22] = true := Utf8.isValid_ascii (by simp)
  have hbody : Utf8.isValid (s.toList.flatMap (escapeFor false)) = true := by
    induction s.toList with
    | nil => simp [Utf8.isValid]
    | cons c cs ih => exact Utf8.isValid_append (isValid_escapeFor false c) ih
  rw [quoteString, List.cons_append, ← List.singleton_append]
  exact Utf8.isValid_append hq (Utf8.isValid_append hbody hq)

/-- **Written bytes hold no control byte.** -/
theorem le_of_mem_quoteBytesWith (html : Bool) (bs : Bytes) :
    ∀ b ∈ quoteBytesWith html bs, 0x20 ≤ b := by
  intro b hb
  simp only [quoteBytesWith, List.cons_append, List.mem_cons, List.mem_append,
    List.not_mem_nil, or_false] at hb
  rcases hb with rfl | hb | rfl
  · decide
  · exact le_of_mem_escapeBytes html bs b hb
  · decide

/-- **Without the HTML escapes, `<`, `>` and `&` are written as themselves**: the written
string holds as many of each as the bytes. -/
theorem count_quoteBytesWith {a : UInt8} (ha : a ∈ htmlBytes) (bs : Bytes) :
    (quoteBytesWith false bs).count a = bs.count a := by
  have hq : (0x22 == a) = false := by
    simp only [htmlBytes, List.mem_cons, List.not_mem_nil, or_false] at ha
    rcases ha with rfl | rfl | rfl <;> decide
  simp [quoteBytesWith, List.count_cons, List.count_append, count_escapeBytes ha, hq]

end Inventory.Json
