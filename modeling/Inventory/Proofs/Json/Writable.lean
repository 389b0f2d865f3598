import Inventory.Proofs.Json.Scalars
import Inventory.Proofs.Json.Quote
/-!
# Which values the writer refuses

The writer refuses a value for one reason only: a number literal in it that is neither empty
nor a number text. Its test of a literal, `isLiteral`, accepts exactly the texts whose bytes are
a `NumberText` (`isLiteral_iff_numberText`), so leading zeros, a lone minus, a point without
digits after it and an exponent without digits are all refused, and nothing else is.

Writing goes through a value from left to right and stops at the first refused literal, so the
error it reports is that literal, the first of the value's literals in order (`Value.literals`)
that is refused (`write_eq_error_iff`). A value without one is written
(`write_error_iff_refused`).
-/

set_option autoImplicit false

namespace Inventory.Json

/-! ## 1. A literal read back from its bytes -/

/-- Bytes read one character each. -/
def asciiChars (bs : Bytes) : List Char := bs.map fun b => Char.ofNat b.toNat

@[simp] theorem asciiChars_nil : asciiChars [] = [] := rfl

@[simp] theorem asciiChars_cons (b : UInt8) (bs : Bytes) :
    asciiChars (b :: bs) = Char.ofNat b.toNat :: asciiChars bs := rfl

@[simp] theorem asciiChars_append (x y : Bytes) :
    asciiChars (x ++ y) = asciiChars x ++ asciiChars y := List.map_append

/-- **ASCII bytes are read one character each.** -/
theorem chars_ascii {bs : Bytes} (h : ∀ b ∈ bs, b < 0x80) : Utf8.chars bs = asciiChars bs := by
  induction bs with
  | nil => simp
  | cons b bs ih =>
    have hsplit := Utf8.chars_append_ascii (h b (by simp)) bs []
    rw [List.nil_append, Utf8.chars_nil, List.nil_append] at hsplit
    rw [hsplit, ih fun c hc => h c (by simp [hc]), asciiChars_cons]

/-- The characters of a text are its bytes read back. -/
theorem toList_eq_chars (s : String) : s.toList = Utf8.chars (Utf8.ofString s) := by
  rw [Utf8.ofString_eq_encode, Utf8.chars_encode]

theorem toNat_ofByte (b : UInt8) : (Char.ofNat b.toNat).toNat = b.toNat :=
  Utf8.toNat_charOfNat (by have := b.toNat_lt; simp only [Nat.isValidChar]; omega)

/-- A byte is a digit exactly when its character is. -/
theorem isDigitChar_ofByte (b : UInt8) : isDigitChar (Char.ofNat b.toNat) = isDigit b := by
  have h := toNat_ofByte b
  have e1 : '0' ≤ Char.ofNat b.toNat ↔ 48 ≤ b.toNat := by
    show 48 ≤ (Char.ofNat b.toNat).toNat ↔ _
    rw [h]
  have e2 : Char.ofNat b.toNat ≤ '9' ↔ b.toNat ≤ 57 := by
    show (Char.ofNat b.toNat).toNat ≤ 57 ↔ _
    rw [h]
  simp only [isDigitChar, isDigit, UInt8.le_iff_toNat_le, e1, e2]
  rfl

theorem lt_of_isDigit {c : UInt8} (h : isDigit c = true) : c < 0x80 := by
  simp only [isDigit, Bool.and_eq_true, decide_eq_true_eq] at h
  grind

theorem AllDigits.ascii {ds : Bytes} (h : AllDigits ds) : ∀ b ∈ ds, b < 0x80 :=
  fun b hb => lt_of_isDigit (h b hb)

/-- **A number text is ASCII.** -/
theorem NumberText.ascii {bs : Bytes} (h : NumberText bs) : ∀ b ∈ bs, b < 0x80 := by
  obtain ⟨sign, int, frac, exp, rfl, hsign, hi, hf, he⟩ := h
  intro b hb
  simp only [List.mem_append] at hb
  rcases hb with ((hb | hb) | hb) | hb
  · rcases hsign with rfl | rfl <;> simp_all
  · cases hi with
    | zero => simp_all
    | lead hlo hhi hds =>
      rcases List.mem_cons.mp hb with rfl | hb
      · grind
      · exact hds.ascii b hb
  · cases hf with
    | none => cases hb
    | point hd hds =>
      rcases List.mem_cons.mp hb with rfl | hb
      · decide
      rcases List.mem_cons.mp hb with rfl | hb
      · exact lt_of_isDigit hd
      · exact hds.ascii b hb
  · cases he with
    | none => cases hb
    | mark hm hsgn hd hds =>
      rcases List.mem_cons.mp hb with rfl | hb
      · rcases hm with rfl | rfl <;> decide
      rcases List.mem_append.mp hb with hb | hb
      · rcases hsgn with rfl | rfl | rfl <;> simp_all
      rcases List.mem_cons.mp hb with rfl | hb
      · exact lt_of_isDigit hd
      · exact hds.ascii b hb

/-- Digits are passed over up to a character that is no digit. -/
theorem dropWhile_digits {ds : Bytes} (hds : AllDigits ds) {r : List Char}
    (hr : ∀ c ∈ r.head?, isDigitChar c = false) :
    (asciiChars ds ++ r).dropWhile isDigitChar = r := by
  induction ds with
  | nil =>
    cases r with
    | nil => rfl
    | cons c r => simp_all
  | cons d ds ih =>
    have hd : isDigitChar (Char.ofNat d.toNat) = true := by
      rw [isDigitChar_ofByte]; exact hds d (by simp)
    rw [asciiChars_cons, List.cons_append, List.dropWhile_cons_of_pos hd]
    exact ih fun c hc => hds c (by simp [hc])

/-- A digit's character is none of the characters outside `0` to `9`. -/
theorem ofByte_ne_of_isDigit {d : UInt8} (hd : isDigit d = true) {c : Char}
    (hc : c.toNat < 0x30 ∨ 0x39 < c.toNat) : Char.ofNat d.toNat ≠ c := by
  intro h
  have h1 := toNat_ofByte d
  rw [h] at h1
  simp only [isDigit, Bool.and_eq_true, decide_eq_true_eq, UInt8.le_iff_toNat_le] at hd
  have : (0x30 : UInt8).toNat = 48 := rfl
  have : (0x39 : UInt8).toNat = 57 := rfl
  omega

/-- An exponent part is what `exponentOk` accepts. -/
theorem exponentOk_expPart {e : Bytes} (he : ExpPart e) : exponentOk (asciiChars e) = true := by
  cases he with
  | none => rfl
  | @mark m sign d ds hm hsign hd hds =>
    have hmark : Char.ofNat m.toNat = 'e' ∨ Char.ofNat m.toNat = 'E' := by
      rcases hm with rfl | rfl <;> decide
    -- the sign, if any, is passed over and the digits are what is left
    have hdigits : exponentDigits (asciiChars sign ++ asciiChars (d :: ds)) = asciiChars (d :: ds) := by
      rcases hsign with rfl | rfl | rfl
      · have h1 : Char.ofNat d.toNat ≠ '+' := ofByte_ne_of_isDigit hd (by decide)
        have h2 : Char.ofNat d.toNat ≠ '-' := ofByte_ne_of_isDigit hd (by decide)
        simp [exponentDigits, h1, h2]
      · rfl
      · rfl
    have hrest : (asciiChars ds).dropWhile isDigitChar = [] := by
      simpa using dropWhile_digits hds (r := []) (by simp)
    rw [asciiChars_cons, asciiChars_append, exponentOk, if_pos (by rcases hmark with h | h <;> simp [h]),
      hdigits, asciiChars_cons]
    show (isDigitChar (Char.ofNat d.toNat) && ((asciiChars ds).dropWhile isDigitChar).isEmpty) = true
    rw [isDigitChar_ofByte, hd, hrest]
    rfl

/-- A fraction and an exponent start with no digit. -/
theorem head_fracExp {f e : Bytes} (hf : FracPart f) (he : ExpPart e) :
    ∀ c ∈ (asciiChars f ++ asciiChars e).head?, isDigitChar c = false := by
  intro c hc
  cases hf with
  | point => cases hc; decide
  | none =>
    cases he with
    | none => cases hc
    | mark hm =>
      cases hc
      rcases hm with rfl | rfl <;> decide

/-- **A fraction followed by an exponent is what `fractionAndExponent` accepts.** -/
theorem fractionAndExponent_parts {f e : Bytes} (hf : FracPart f) (he : ExpPart e) :
    fractionAndExponent (asciiChars f ++ asciiChars e) = true := by
  rw [fractionAndExponent_eq]
  -- `afterFraction` passes over the fraction and leaves the exponent
  have hafter : afterFraction (asciiChars f ++ asciiChars e) = asciiChars e := by
    have he' := head_fracExp FracPart.none he
    rw [asciiChars_nil, List.nil_append] at he'
    cases hf with
    | none =>
      rw [asciiChars_nil, List.nil_append]
      cases he with
      | none => rfl
      | mark hm =>
        unfold afterFraction
        split
        · rename_i heq
          rcases hm with rfl | rfl <;> simp at heq
        · rfl
    | @point d ds hd hds =>
      have hd' : isDigitChar (Char.ofNat d.toNat) = true := by rw [isDigitChar_ofByte, hd]
      have hdot : Char.ofNat (0x2E : UInt8).toNat = '.' := by decide
      rw [asciiChars_cons, asciiChars_cons, hdot, List.cons_append, List.cons_append]
      show (if isDigitChar (Char.ofNat d.toNat) then _ else _) = _
      rw [if_pos hd', dropWhile_digits hds he']
  rw [hafter]
  exact exponentOk_expPart he

/-- The first digit of an integer part that is not `0`: a digit from `1` to `9`. -/
theorem ofByte_lead {d : UInt8} (hlo : 0x31 ≤ d) (hhi : d ≤ 0x39) :
    isDigit d = true ∧ Char.ofNat d.toNat ≠ '0' ∧
      ('1' ≤ Char.ofNat d.toNat && Char.ofNat d.toNat ≤ '9') = true := by
  have h1 := toNat_ofByte d
  have hlo' : 49 ≤ d.toNat := UInt8.le_iff_toNat_le.mp hlo
  have hhi' : d.toNat ≤ 57 := UInt8.le_iff_toNat_le.mp hhi
  refine ⟨?_, fun h0 => ?_, ?_⟩
  · simp only [isDigit, Bool.and_eq_true, decide_eq_true_eq, UInt8.le_iff_toNat_le,
      UInt8.reduceToNat]
    omega
  · rw [h0] at h1
    simp at h1
    omega
  · simp only [Bool.and_eq_true, decide_eq_true_eq]
    exact ⟨show 49 ≤ (Char.ofNat d.toNat).toNat by omega,
      show (Char.ofNat d.toNat).toNat ≤ 57 by omega⟩

/-- **A number text is a literal the writer accepts.** -/
theorem isLiteral_of_numberText {s : String} (h : NumberText (Utf8.ofString s)) :
    isLiteral s = true := by
  have hs : s.toList = asciiChars (Utf8.ofString s) := by rw [toList_eq_chars, chars_ascii h.ascii]
  obtain ⟨sign, int, frac, exp, heq, hsign, hi, hf, he⟩ := h
  rw [heq, asciiChars_append, asciiChars_append, asciiChars_append] at hs
  have hfe := fractionAndExponent_parts hf he
  -- the integer part starts with a digit, so no minus is taken off it
  have hunsigned : unsigned s.toList = asciiChars int ++ (asciiChars frac ++ asciiChars exp) := by
    rw [hs]
    rcases hsign with rfl | rfl
    · cases hi with
      | zero => rfl
      | lead hlo hhi =>
        simp [unsigned, ofByte_ne_of_isDigit (ofByte_lead hlo hhi).1 (c := '-') (by decide)]
    · simp [unsigned]
  rw [isLiteral_eq, hunsigned]
  cases hi with
  | zero => exact hfe
  | @lead d ds hlo hhi hds =>
    obtain ⟨-, h0, hrange⟩ := ofByte_lead hlo hhi
    -- the first digit is not `0` (`h0`), so the second case of the test applies
    simp only [asciiChars_cons, List.cons_append]
    rw [hrange, dropWhile_digits hds (head_fracExp hf he), hfe]
    rfl

/-- **The writer's literal test is the number grammar.** -/
theorem isLiteral_iff_numberText {s : String} : isLiteral s = true ↔ NumberText (Utf8.ofString s) :=
  ⟨numberText_ofString, isLiteral_of_numberText⟩

/-! ## 2. The number literals of a value -/

mutual

/-- **The number literals of a value**, in the order the writer meets them. -/
def Value.literals : Value → List String
  | .number lit => [lit]
  | .array items => Value.itemsLiterals items
  | .object members => Value.membersLiterals members
  | _ => []

/-- The number literals of the items of an array. -/
def Value.itemsLiterals : List Value → List String
  | [] => []
  | v :: rest => v.literals ++ Value.itemsLiterals rest

/-- The number literals of the members' values of an object. -/
def Value.membersLiterals : List (String × Value) → List String
  | [] => []
  | (_, v) :: rest => v.literals ++ Value.membersLiterals rest

end

/-- **A literal the writer refuses**: not empty, and not a literal. -/
def refused (lit : String) : Bool := !lit.isEmpty && !isLiteral lit

theorem refused_iff {lit : String} : refused lit = true ↔ lit ≠ "" ∧ ¬NumberText (Utf8.ofString lit) := by
  rw [← isLiteral_iff_numberText]
  simp [refused]

/-! ## 3. The first refused literal is the error -/

/-- Two steps written one after the other fail with the first one's error, or else with the
second's. -/
theorem bind_eq_error_iff {α β : Type} {x : Except WriteError α} {f : α → Except WriteError β}
    {lit : String} {first : Option String}
    (hx : ∀ t, x = .error (.invalidNumber t) ↔ first = some t) :
    (x >>= f) = .error (.invalidNumber lit) ↔
      first = some lit ∨ ∃ a, x = .ok a ∧ first = none ∧ f a = .error (.invalidNumber lit) := by
  cases x with
  | error e =>
    cases e with
    | invalidNumber t =>
      have ht := (hx t).mp rfl
      simp only [ht, bind, Except.bind, Except.error.injEq, WriteError.invalidNumber.injEq,
        Option.some.injEq, reduceCtorEq, false_and, exists_false, or_false]
  | ok a =>
    have hnone : first = none := by
      cases h : first with
      | none => rfl
      | some t => exact absurd ((hx t).mpr h) (by simp)
    simp [hnone, bind, Except.bind]

/-- Two writes one after the other, each failing with the first refused literal of its own list,
fail with the first refused literal of the two lists in turn. -/
theorem bind_bind_eq_error_iff {α β γ : Type} {x : Except WriteError α} {y : Except WriteError β}
    {g : α → β → γ} {xs ys : List String}
    (hx : ∀ t, x = .error (.invalidNumber t) ↔ xs.find? refused = some t)
    (hy : ∀ t, y = .error (.invalidNumber t) ↔ ys.find? refused = some t) (lit : String) :
    (x >>= fun a => y >>= fun b => .ok (g a b)) = .error (.invalidNumber lit) ↔
      (xs ++ ys).find? refused = some lit := by
  rw [List.find?_append, bind_eq_error_iff hx]
  cases hv : xs.find? refused with
  | some t => simp
  | none =>
    simp only [Option.none_or, reduceCtorEq, false_or, true_and]
    constructor
    · rintro ⟨a, -, h⟩
      rcases (bind_eq_error_iff hy).mp h with h | ⟨_, _, _, h⟩
      · exact h
      · cases h
    · intro h
      -- the first write cannot fail: its list has no refused literal
      obtain ⟨a, ha⟩ : ∃ a, x = .ok a := by
        cases x with
        | ok a => exact ⟨a, rfl⟩
        | error e =>
          cases e with
          | invalidNumber t => rw [(hx t).mp rfl] at hv; cases hv
      exact ⟨a, ha, (bind_eq_error_iff hy).mpr (.inl h)⟩

mutual

/-- **Writing fails with the first refused literal**, and only then. -/
theorem write_eq_error_iff (html : Bool) :
    ∀ (v : Value) (lit : String), v.write html = .error (.invalidNumber lit) ↔
      v.literals.find? refused = some lit
  | .null, lit => by simp [Value.write, Value.literals]
  | .bool true, lit => by simp [Value.write, Value.literals]
  | .bool false, lit => by simp [Value.write, Value.literals]
  | .number t, lit => by
    simp only [Value.write, Value.literals, List.find?_cons, List.find?_nil, refused]
    by_cases he : t.isEmpty <;> by_cases hl : isLiteral t <;> simp [he, hl]
  | .string s, lit => by simp [Value.write, Value.literals]
  | .array items, lit => by
    have ih := writeItems_eq_error_iff html items
    simp only [Value.write, Value.literals]
    rw [bind_eq_error_iff ih]
    simp
  | .object members, lit => by
    have ih := writeMembers_eq_error_iff html members
    simp only [Value.write, Value.literals]
    rw [bind_eq_error_iff ih]
    simp

/-- Writing the items of an array fails with the first refused literal among them. -/
theorem writeItems_eq_error_iff (html : Bool) :
    ∀ (items : List Value) (lit : String), Value.writeItems html items = .error (.invalidNumber lit) ↔
      (Value.itemsLiterals items).find? refused = some lit
  | [], lit => by simp [Value.writeItems, Value.itemsLiterals]
  | v :: rest, lit => by
    simp only [Value.writeItems, Value.itemsLiterals]
    exact bind_bind_eq_error_iff (write_eq_error_iff html v) (writeItems_eq_error_iff html rest) lit

/-- Writing the members of an object fails with the first refused literal among their values. -/
theorem writeMembers_eq_error_iff (html : Bool) :
    ∀ (ms : List (String × Value)) (lit : String),
      Value.writeMembers html ms = .error (.invalidNumber lit) ↔
        (Value.membersLiterals ms).find? refused = some lit
  | [], lit => by simp [Value.writeMembers, Value.membersLiterals]
  | (k, v) :: rest, lit => by
    simp only [Value.writeMembers, Value.membersLiterals]
    exact bind_bind_eq_error_iff (write_eq_error_iff html v) (writeMembers_eq_error_iff html rest) lit

end

/-- **A value is refused exactly when one of its number literals is neither empty nor a number
text.** -/
theorem write_error_iff_refused (html : Bool) (v : Value) :
    (∃ e, v.write html = .error e) ↔ ∃ lit ∈ v.literals, lit ≠ "" ∧ ¬NumberText (Utf8.ofString lit) := by
  constructor
  · rintro ⟨⟨lit⟩, h⟩
    have hfind := (write_eq_error_iff html v lit).mp h
    exact ⟨lit, List.mem_of_find?_eq_some hfind, refused_iff.mp (List.find?_some hfind)⟩
  · rintro ⟨lit, hmem, hbad⟩
    obtain ⟨t, ht⟩ := Option.isSome_iff_exists.mp
      (List.find?_isSome.mpr ⟨lit, hmem, refused_iff.mpr hbad⟩)
    exact ⟨_, (write_eq_error_iff html v t).mpr ht⟩

/-- Without the HTML escapes, a written string holds each of `<`, `>` and `&` exactly where the
text has it. -/
theorem count_quoteString {a : UInt8} (ha : a ∈ htmlBytes) (s : String) :
    (quoteString s).count a = (Utf8.ofString s).count a := by
  have hq : (0x22 == a) = false := by
    simp only [htmlBytes, List.mem_cons, List.not_mem_nil, or_false] at ha
    rcases ha with rfl | rfl | rfl <;> decide
  rw [Utf8.ofString_eq_encode, quoteString, Utf8.encode]
  induction s.toList with
  | nil => simp [List.count_cons, hq]
  | cons c cs ih =>
    simp only [List.flatMap_cons, List.count_cons, List.cons_append, List.count_append, hq] at ih ⊢
    rw [count_escapeFor ha]
    omega

end Inventory.Json
