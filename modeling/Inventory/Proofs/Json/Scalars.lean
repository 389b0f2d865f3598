import Inventory.Proofs.Json.Arrays
import Inventory.Proofs.Text.Utf8
import Mathlib.Data.List.TakeWhile
/-!
# Numbers and words

The grammar of a number literal, `-?(0|[1-9][0-9]*)(.[0-9]+)?([eE][+-]?[0-9]+)?`, as bytes
(`NumberText`), and the three words `true`, `false` and `null` (`words`). The machine reads
each of them alone as one whole value that opens nothing (`isValue_numberText`,
`isValue_word`): a number runs through the phases of its parts with nothing open (`NumRun`),
and ends in a phase where it may stop.

The writer's test of a number literal, `isLiteral`, describes the same language on characters:
a literal it accepts is, as bytes, a number text (`numberText_ofString`).
-/

set_option autoImplicit false

namespace Inventory.Json

/-! ## 1. The grammar -/

/-- The bytes that are decimal digits. -/
def AllDigits (ds : Bytes) : Prop := ∀ c ∈ ds, isDigit c = true

/-- **The integer part** of a number: `0`, or a digit from `1` to `9` and more digits. -/
inductive IntPart : Bytes → Prop
  | zero : IntPart [0x30]
  | lead {d : UInt8} {ds : Bytes} : 0x31 ≤ d → d ≤ 0x39 → AllDigits ds → IntPart (d :: ds)

/-- **The fraction** of a number, if any: a point and at least one digit. -/
inductive FracPart : Bytes → Prop
  | none : FracPart []
  | point {d : UInt8} {ds : Bytes} : isDigit d = true → AllDigits ds → FracPart (0x2E :: d :: ds)

/-- **The exponent** of a number, if any: `e` or `E`, an optional sign, at least one digit. -/
inductive ExpPart : Bytes → Prop
  | none : ExpPart []
  | mark {e : UInt8} {sign : Bytes} {d : UInt8} {ds : Bytes} : (e = 0x65 ∨ e = 0x45) →
      (sign = [] ∨ sign = [0x2B] ∨ sign = [0x2D]) → isDigit d = true → AllDigits ds →
      ExpPart (e :: (sign ++ d :: ds))

/-- **A number literal**: an optional minus, the integer part, the fraction and the exponent. -/
def NumberText (bs : Bytes) : Prop :=
  ∃ sign int frac exp, bs = sign ++ int ++ frac ++ exp ∧ (sign = [] ∨ sign = [0x2D]) ∧
    IntPart int ∧ FracPart frac ∧ ExpPart exp

/-- The words `true`, `false` and `null`. -/
def words : List Bytes :=
  [[0x74, 0x72, 0x75, 0x65], [0x66, 0x61, 0x6C, 0x73, 0x65], [0x6E, 0x75, 0x6C, 0x6C]]

namespace Scanner

/-! ## 2. The machine inside a number -/

/-- The machine inside a top-level number: its phase, nothing open. -/
def numAt (p : Phase) : Scanner := { phase := p }

/-- **A run through the phases of a number**: from phase `p` the bytes are taken, nothing is
opened, and the machine ends in phase `p'`. -/
def NumRun (p : Phase) (bs : Bytes) (p' : Phase) : Prop :=
  Inside (numAt p) bs ∧ (numAt p).feed bs = numAt p' ∧ (numAt p).peak bs = 0

theorem numRun_nil (p : Phase) : NumRun p [] p := ⟨trivial, rfl, rfl⟩

theorem NumRun.append {p q r : Phase} {a b : Bytes} (ha : NumRun p a q) (hb : NumRun q b r) :
    NumRun p (a ++ b) r := by
  obtain ⟨a1, a2, a3⟩ := ha
  obtain ⟨b1, b2, b3⟩ := hb
  refine ⟨?_, ?_, ?_⟩
  · rw [inside_append, a2]; exact ⟨a1, b1⟩
  · rw [feed_append, a2, b2]
  · rw [peak_append, a2, a3, b3]; rfl

/-- One byte that moves the machine from one phase of a number to another. -/
theorem numRun_step {p p' : Phase} {c : UInt8} {code : Code}
    (h : (numAt p).step c = (numAt p', code)) (hc : code.stops = false) : NumRun p [c] p' := by
  refine ⟨?_, ?_, ?_⟩
  · rw [inside_cons, h]; exact ⟨hc, trivial⟩
  · rw [feed_cons, h]; rfl
  · rw [peak, h]; rfl

/-- **Digits** where a number may go on with digits leave it in its phase. -/
theorem numRun_digits {p : Phase} (hp : p = .one ∨ p = .dot0 ∨ p = .exp0) {ds : Bytes}
    (hds : AllDigits ds) : NumRun p ds p := by
  induction ds with
  | nil => exact numRun_nil p
  | cons d ds ih =>
    have hd : isDigit d = true := hds d (by simp)
    have hstep : (numAt p).step d = (numAt p, .continue) := by
      rcases hp with rfl | rfl | rfl <;> simp [numAt, step, hd]
    exact (numRun_step hstep rfl).append (ih fun c hc => hds c (by simp [hc]))

/-- The first digit of a number's integer part, after the minus or without one. -/
theorem numRun_intPart {p : Phase} (hp : p = .beginValue ∨ p = .neg) {i : Bytes}
    (hi : IntPart i) : ∃ q, (q = .zero ∨ q = .one) ∧ NumRun p i q := by
  cases hi with
  | zero =>
    refine ⟨.zero, .inl rfl, ?_⟩
    rcases hp with rfl | rfl
    · exact numRun_step rfl rfl
    · exact numRun_step rfl rfl
  | @lead d ds hlo hhi hds =>
    -- a digit from 1 to 9 is none of the bytes tested before it
    have hne : ∀ b : UInt8, (b < 0x31 ∨ 0x39 < b) → (d == b) = false := by
      intro b hb
      grind
    have hb : isBlank d = false := by
      simp only [isBlank, hne 0x20 (by decide), hne 0x09 (by decide), hne 0x0D (by decide),
        hne 0x0A (by decide), Bool.or_self]
    have hrange : (0x31 ≤ d && d ≤ 0x39) = true := by simp [hlo, hhi]
    have hd : isDigit d = true := by
      simp only [isDigit, Bool.and_eq_true, decide_eq_true_eq]
      constructor <;> grind
    have hstep : ∃ code : Code, code.stops = false ∧ (numAt p).step d = (numAt .one, code) := by
      rcases hp with rfl | rfl
      · refine ⟨.beginLiteral, rfl, ?_⟩
        simp only [numAt, step, atBeginValue, hb, hne 0x7B (by decide), hne 0x5B (by decide),
          hne 0x22 (by decide), hne 0x2D (by decide), hne 0x30 (by decide), hne 0x74 (by decide),
          hne 0x66 (by decide), hne 0x6E (by decide), hrange, Bool.false_eq_true, ↓reduceIte]
      · refine ⟨.continue, rfl, ?_⟩
        simp only [numAt, step, hne 0x30 (by decide), hrange, Bool.false_eq_true, ↓reduceIte]
    obtain ⟨code, hcode, hstep⟩ := hstep
    exact ⟨.one, .inr rfl, (numRun_step hstep hcode).append (numRun_digits (.inl rfl) hds)⟩

/-- The fraction, if any, ends the number in a phase where digits may go on. -/
theorem numRun_fracPart {q : Phase} (hq : q = .zero ∨ q = .one) {f : Bytes} (hf : FracPart f) :
    ∃ r, (r = .zero ∨ r = .one ∨ r = .dot0) ∧ NumRun q f r := by
  cases hf with
  | none =>
    refine ⟨q, ?_, numRun_nil q⟩
    rcases hq with rfl | rfl
    · exact .inl rfl
    · exact .inr (.inl rfl)
  | @point d ds hd hds =>
    have hpoint : (numAt q).step 0x2E = (numAt .dot, .continue) := by
      rcases hq with rfl | rfl <;> rfl
    have hdigit : (numAt .dot).step d = (numAt .dot0, .continue) := by simp [numAt, step, hd]
    exact ⟨.dot0, .inr (.inr rfl), (numRun_step hpoint rfl).append
      ((numRun_step hdigit rfl).append (numRun_digits (.inr (.inl rfl)) hds))⟩

/-- The exponent, if any, ends the number in a phase where it may stop. -/
theorem numRun_expPart {r : Phase} (hr : r = .zero ∨ r = .one ∨ r = .dot0) {e : Bytes}
    (he : ExpPart e) : ∃ t : Phase, t.closes = true ∧ NumRun r e t := by
  cases he with
  | none =>
    refine ⟨r, ?_, numRun_nil r⟩
    rcases hr with rfl | rfl | rfl <;> rfl
  | @mark m sign d ds hm hsign hd hds =>
    have hmark : (numAt r).step m = (numAt .exp, .continue) := by
      rcases hr with rfl | rfl | rfl <;> rcases hm with rfl | rfl <;> rfl
    -- the sign, if any, moves to `expSign`; either way a digit must follow
    have hsigned : ∃ p, (p = .exp ∨ p = .expSign) ∧ NumRun .exp sign p := by
      rcases hsign with rfl | rfl | rfl
      · exact ⟨.exp, .inl rfl, numRun_nil _⟩
      · exact ⟨.expSign, .inr rfl, numRun_step rfl rfl⟩
      · exact ⟨.expSign, .inr rfl, numRun_step rfl rfl⟩
    obtain ⟨p, hp, hsignRun⟩ := hsigned
    have hdigit : (numAt p).step d = (numAt .exp0, .continue) := by
      rcases hp with rfl | rfl
      · have h1 : (d == 0x2B) = false := by
          have : isDigit d = true := hd
          simp only [isDigit, Bool.and_eq_true, decide_eq_true_eq] at this
          grind
        have h2 : (d == 0x2D) = false := by
          have : isDigit d = true := hd
          simp only [isDigit, Bool.and_eq_true, decide_eq_true_eq] at this
          grind
        simp [numAt, step, atExpSign, hd, h1, h2]
      · simp [numAt, step, atExpSign, hd]
    exact ⟨.exp0, rfl, (numRun_step hmark rfl).append (hsignRun.append
      ((numRun_step hdigit rfl).append (numRun_digits (.inr (.inr rfl)) hds)))⟩

/-- The state inside a top-level number that may stop holds one whole value. -/
theorem numAt_ended {t : Phase} (ht : t.closes = true) : Ended (numAt t) :=
  ⟨rfl, rfl, .inr ht⟩

end Scanner

open Scanner

/-- **A number literal is one whole value** that opens nothing. -/
theorem isValue_numberText {bs : Bytes} (h : NumberText bs) :
    IsValue bs ∧ Scanner.peak {} bs = 0 := by
  obtain ⟨sign, int, frac, exp, rfl, hsign, hi, hf, he⟩ := h
  -- the run from the start to the end of the integer part, through the minus if any
  have hstart : ∃ q, (q = .zero ∨ q = .one) ∧ NumRun .beginValue (sign ++ int) q := by
    rcases hsign with rfl | rfl
    · exact numRun_intPart (.inl rfl) hi
    · obtain ⟨q, hq, hrun⟩ := numRun_intPart (.inr rfl) hi
      exact ⟨q, hq, (numRun_step rfl rfl).append hrun⟩
  obtain ⟨q, hq, hrun⟩ := hstart
  obtain ⟨r, hr, hfrac⟩ := numRun_fracPart hq hf
  obtain ⟨t, ht, hexp⟩ := numRun_expPart hr he
  obtain ⟨h1, h2, h3⟩ := (hrun.append hfrac).append hexp
  refine ⟨⟨h1, h2 ▸ numAt_ended ht, ?_⟩, h3⟩
  -- the first byte is the minus or a digit
  rcases hsign with rfl | rfl
  · cases hi with
    | zero => simp [isBlank]
    | @lead d ds hlo hhi hds =>
      intro c hc
      simp only [List.nil_append, List.cons_append, List.head?_cons, Option.mem_def,
        Option.some.injEq] at hc
      subst hc
      simp only [isBlank, Bool.or_eq_false_iff, beq_eq_false_iff_ne, ne_eq]
      grind
  · simp [isBlank]

/-- **Each word is one whole value** that opens nothing. -/
theorem isValue_word {w : Bytes} (h : w ∈ words) : IsValue w ∧ Scanner.peak {} w = 0 := by
  simp only [words, List.mem_cons, List.not_mem_nil, or_false] at h
  rcases h with rfl | rfl | rfl
  all_goals exact ⟨⟨⟨rfl, rfl, rfl, rfl, by trivial⟩, ⟨rfl, rfl, .inr rfl⟩, by simp [isBlank]⟩, rfl⟩

/-! ## 4. The literals the writer accepts

`isLiteral` reads a literal in stages: the minus sign, the integer part, then
`fractionAndExponent`, which reads the fraction and then tests what follows it. The stages are
named here (`unsigned`, `afterFraction`, `exponentDigits`, `exponentOk`), each equal to the
part of the test it names, and each is shown to read its part of the grammar.
-/

/-- ASCII characters as bytes. -/
def asciiBytes (cs : List Char) : Bytes := cs.map fun c => c.toNat.toUInt8

/-- ASCII characters are written as themselves. -/
theorem encode_ascii {cs : List Char} (h : ∀ c ∈ cs, c.toNat < 0x80) :
    Utf8.encode cs = asciiBytes cs := by
  induction cs with
  | nil => rfl
  | cons c cs ih =>
    simp only [Utf8.encode, List.flatMap_cons, asciiBytes, List.map_cons] at ih ⊢
    rw [Utf8.encodeChar_ascii (h c (by simp)), ih fun d hd => h d (by simp [hd])]
    rfl

theorem digit_of_isDigitChar {c : Char} (h : isDigitChar c = true) :
    c.toNat < 0x80 ∧ isDigit c.toNat.toUInt8 = true := by
  simp only [isDigitChar, Bool.and_eq_true, decide_eq_true_eq] at h
  obtain ⟨h1, h2⟩ := h
  have a : 48 ≤ c.toNat := h1
  have b : c.toNat ≤ 57 := h2
  refine ⟨by omega, ?_⟩
  simp only [isDigit, Bool.and_eq_true, decide_eq_true_eq, UInt8.le_iff_toNat_le]
  simp
  omega

theorem allDigits_of_all {ds : List Char} (h : ∀ c ∈ ds, isDigitChar c = true) :
    AllDigits (asciiBytes ds) ∧ ∀ c ∈ ds, c.toNat < 0x80 := by
  refine ⟨?_, fun c hc => (digit_of_isDigitChar (h c hc)).1⟩
  intro b hb
  obtain ⟨c, hc, rfl⟩ := List.mem_map.mp hb
  exact (digit_of_isDigitChar (h c hc)).2

/-- What `fractionAndExponent` reads its exponent from: the characters after the fraction. -/
def afterFraction (r : List Char) : List Char :=
  match r with
  | '.' :: d :: more => if isDigitChar d then more.dropWhile isDigitChar else r
  | _ => r

/-- The digits of an exponent: what follows its mark and its sign, if any. -/
def exponentDigits (more : List Char) : List Char :=
  match more with
  | '+' :: x => x
  | '-' :: x => x
  | x => x

/-- The test `fractionAndExponent` makes of what follows the fraction. -/
def exponentOk (r : List Char) : Bool :=
  match r with
  | [] => true
  | e :: more =>
    if e = 'e' || e = 'E' then
      match exponentDigits more with
      | d :: x => isDigitChar d && (x.dropWhile isDigitChar).isEmpty
      | [] => false
    else false

theorem fractionAndExponent_eq (r : List Char) :
    fractionAndExponent r = exponentOk (afterFraction r) := rfl

/-- The fraction `fractionAndExponent` passes over. -/
theorem afterFraction_spec (r : List Char) : ∃ f, r = f ++ afterFraction r ∧
    FracPart (asciiBytes f) ∧ ∀ c ∈ f, c.toNat < 0x80 := by
  unfold afterFraction
  split
  · rename_i d more
    split
    · rename_i hd
      have hds : AllDigits (asciiBytes (more.takeWhile isDigitChar)) ∧
          ∀ c ∈ more.takeWhile isDigitChar, c.toNat < 0x80 :=
        allDigits_of_all fun c hc => List.mem_takeWhile_imp hc
      refine ⟨'.' :: d :: more.takeWhile isDigitChar, by simp, ?_, ?_⟩
      · exact FracPart.point (digit_of_isDigitChar hd).2 hds.1
      · intro c hc
        simp only [List.mem_cons] at hc
        rcases hc with rfl | rfl | hc
        · decide
        · exact (digit_of_isDigitChar hd).1
        · exact hds.2 c hc
    · exact ⟨[], rfl, .none, by simp⟩
  · exact ⟨[], rfl, .none, by simp⟩

/-- The sign `exponentDigits` passes over. -/
theorem exponentDigits_spec (more : List Char) : ∃ sign, more = sign ++ exponentDigits more ∧
    (sign = [] ∨ sign = ['+'] ∨ sign = ['-']) := by
  unfold exponentDigits
  split
  · exact ⟨['+'], rfl, .inr (.inl rfl)⟩
  · exact ⟨['-'], rfl, .inr (.inr rfl)⟩
  · exact ⟨[], rfl, .inl rfl⟩

/-- What `exponentOk` accepts is an exponent, in ASCII. -/
theorem exponentOk_spec {r : List Char} (h : exponentOk r = true) :
    ExpPart (asciiBytes r) ∧ ∀ c ∈ r, c.toNat < 0x80 := by
  unfold exponentOk at h
  split at h
  · exact ⟨.none, by simp⟩
  · rename_i e more
    split at h
    · rename_i hmark
      have hmark' : e = 'e' ∨ e = 'E' := by simpa using hmark
      obtain ⟨sign, hmore, hsign⟩ := exponentDigits_spec more
      split at h
      · rename_i d x hdx
        simp only [Bool.and_eq_true, List.isEmpty_iff, List.dropWhile_eq_nil_iff] at h
        obtain ⟨hd, hx⟩ := h
        have hxs := allDigits_of_all hx
        rw [hdx] at hmore
        subst hmore
        -- the mark, the sign and the digits, each ASCII
        have hsignb : asciiBytes sign = [] ∨ asciiBytes sign = [0x2B] ∨ asciiBytes sign = [0x2D] := by
          rcases hsign with rfl | rfl | rfl <;> simp [asciiBytes]
        have hmarkb : (e.toNat.toUInt8 = 0x65 ∨ e.toNat.toUInt8 = 0x45) := by
          rcases hmark' with rfl | rfl <;> simp
        refine ⟨?_, ?_⟩
        · have := ExpPart.mark hmarkb hsignb (digit_of_isDigitChar hd).2 hxs.1
          simpa [asciiBytes] using this
        · intro c hc
          simp only [List.mem_cons, List.mem_append] at hc
          rcases hc with rfl | (hc | rfl | hc)
          · rcases hmark' with rfl | rfl <;> decide
          · rcases hsign with rfl | rfl | rfl <;> simp_all
          · exact (digit_of_isDigitChar hd).1
          · exact hxs.2 c hc
      · cases h
    · cases h

/-- The characters of a literal after its minus sign, if any. -/
def unsigned (cs : List Char) : List Char :=
  match cs with
  | '-' :: r => r
  | r => r

theorem isLiteral_eq (s : String) : isLiteral s = (match unsigned s.toList with
    | '0' :: r => fractionAndExponent r
    | c :: r => '1' ≤ c && c ≤ '9' && fractionAndExponent (r.dropWhile isDigitChar)
    | [] => false) := rfl

/-- The sign `unsigned` passes over. -/
theorem unsigned_spec (cs : List Char) : ∃ sign, cs = sign ++ unsigned cs ∧
    (sign = [] ∨ sign = ['-']) := by
  unfold unsigned
  split
  · exact ⟨['-'], rfl, .inr rfl⟩
  · exact ⟨[], rfl, .inl rfl⟩

/-- What `fractionAndExponent` accepts is a fraction and an exponent, in ASCII. -/
theorem fracExp_spec {r : List Char} (h : fractionAndExponent r = true) :
    ∃ f e, r = f ++ e ∧ FracPart (asciiBytes f) ∧ ExpPart (asciiBytes e) ∧
      ∀ c ∈ r, c.toNat < 0x80 := by
  obtain ⟨f, hr, hf, hfa⟩ := afterFraction_spec r
  rw [fractionAndExponent_eq] at h
  obtain ⟨he, hea⟩ := exponentOk_spec h
  refine ⟨f, _, hr, hf, he, ?_⟩
  rw [hr]
  intro c hc
  rcases List.mem_append.mp hc with hc | hc
  · exact hfa c hc
  · exact hea c hc

/-- **A literal the writer accepts is a number text**, as bytes. -/
theorem numberText_ofString {lit : String} (h : isLiteral lit = true) :
    NumberText (Utf8.ofString lit) := by
  obtain ⟨sign, hlit, hsign⟩ := unsigned_spec lit.toList
  rw [isLiteral_eq] at h
  -- the integer part, then the fraction and the exponent after it
  obtain ⟨int, rest, hcs, hint, hinta, hrest⟩ : ∃ int rest, unsigned lit.toList = int ++ rest ∧
      IntPart (asciiBytes int) ∧ (∀ c ∈ int, c.toNat < 0x80) ∧ fractionAndExponent rest = true := by
    split at h
    · rename_i r hr
      exact ⟨['0'], r, hr, by simpa [asciiBytes] using IntPart.zero, by simp, h⟩
    · rename_i c r hzero hr
      simp only [Bool.and_eq_true, decide_eq_true_eq] at h
      obtain ⟨⟨hlo, hhi⟩, hfe⟩ := h
      have hlo' : 49 ≤ c.toNat := hlo
      have hhi' : c.toNat ≤ 57 := hhi
      have hds : AllDigits (asciiBytes (r.takeWhile isDigitChar)) ∧
          ∀ c ∈ r.takeWhile isDigitChar, c.toNat < 0x80 :=
        allDigits_of_all fun c hc => List.mem_takeWhile_imp hc
      refine ⟨c :: r.takeWhile isDigitChar, r.dropWhile isDigitChar, by simp [hr], ?_, ?_, hfe⟩
      · have hb : (0x31 : UInt8) ≤ c.toNat.toUInt8 ∧ c.toNat.toUInt8 ≤ 0x39 := by
          simp only [UInt8.le_iff_toNat_le]
          simp
          omega
        exact IntPart.lead hb.1 hb.2 hds.1
      · intro d hd
        rcases List.mem_cons.mp hd with rfl | hd
        · omega
        · exact hds.2 d hd
    · cases h
  obtain ⟨f, e, hre, hf, he, hresta⟩ := fracExp_spec hrest
  have hascii : ∀ c ∈ lit.toList, c.toNat < 0x80 := by
    rw [hlit, hcs, hre]
    intro c hc
    simp only [List.mem_append] at hc
    rcases hc with hc | hc | hc | hc
    · -- the sign is a minus or nothing
      rcases hsign with rfl | rfl
      · cases hc
      · rw [List.mem_singleton.mp hc]
        decide
    · exact hinta c hc
    · exact hresta c (by rw [hre]; exact List.mem_append_left _ hc)
    · exact hresta c (by rw [hre]; exact List.mem_append_right _ hc)
  refine ⟨asciiBytes sign, asciiBytes int, asciiBytes f, asciiBytes e, ?_, ?_, hint, hf, he⟩
  · rw [Utf8.ofString_eq_encode, encode_ascii hascii, hlit, hcs, hre]
    simp [asciiBytes]
  · rcases hsign with rfl | rfl <;> simp [asciiBytes]

end Inventory.Json
