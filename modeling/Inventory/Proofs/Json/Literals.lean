import Inventory.Proofs.Json.Grammar
/-!
# Every scalar value is a scalar text

The converse of completeness for the values that are not containers: a byte string the machine
takes as one value and that starts with neither `{` nor `[` is a string literal, a number or a
word of the grammar (`scalarText_of_isValue`).

A scalar is read with nothing open, so the machine's state inside it is its phase alone
(`numAt`). The proofs follow the phases: for each phase, what a run from it must take to end
holding a whole value. A byte the phase does not take is refused or, where the scalar may stop,
ends the value; either way no run inside the value takes it.

Where a value ends is decided without the machine too: after a whole value, the next byte ends
it exactly when no value goes on with that byte (`step_done_iff`). Only a number can go on, and
one more digit at most ends it again (`exists_completion`).
-/

set_option autoImplicit false

namespace Inventory.Json

/-- **A scalar text**: a string literal, a number or a word. -/
def ScalarText (v : Bytes) : Prop := StringText v ∨ NumberText v ∨ v ∈ words

namespace Scanner

/-! ## 1. Runs inside a literal -/

/-- A byte that the machine takes is taken in every run that starts with it. -/
theorem run_step {s t : Scanner} {c : UInt8} {code : Code} (h : s.step c = (t, code))
    (hc : code.stops = false) (r : Bytes) :
    (Inside s (c :: r) ↔ Inside t r) ∧ s.feed (c :: r) = t.feed r := by
  rw [inside_cons, feed_cons, h]
  exact ⟨⟨And.right, fun h' => ⟨hc, h'⟩⟩, rfl⟩

/-- A refused byte is in no run. -/
theorem not_inside_of_fail {s : Scanner} {c : UInt8} {p : Place} (h : s.step c = s.fail c p)
    (r : Bytes) : ¬ Inside s (c :: r) := by
  rw [inside_cons, h, fail_snd]
  exact fun h' => absurd h'.1 (by decide)

/-- With nothing open, a byte read as after a value ends the value: no run inside it takes the
byte. -/
theorem not_inside_of_atEndValue {s : Scanner} (hs : s.stack = []) {c : UInt8}
    (h : s.step c = s.atEndValue c) (r : Bytes) : ¬ Inside s (c :: r) := by
  rw [inside_cons, h, atEndValue_nil s c hs]
  exact fun h' => absurd h'.1 (by decide)

/-- Inside a top-level scalar the machine holds a whole value only where the scalar may stop. -/
theorem closes_of_ended {p : Phase} (he : Ended (numAt p)) : p.closes = true := by
  rcases he.phase with ⟨-, h⟩ | h
  · exact absurd h (by simp [numAt])
  · exact h

/-- After a scalar's last byte, with nothing open, a run inside the value is over. -/
theorem eq_nil_of_inside_endValue {r : Bytes} (h : Inside (numAt .endValue) r) : r = [] := by
  cases r with
  | nil => rfl
  | cons c r => exact absurd h (not_inside_of_atEndValue rfl rfl r)

/-! ## 2. String literals -/

theorem step_inString_plain {c : UInt8} (h0 : 0x20 ≤ c) (h1 : c ≠ 0x22) (h2 : c ≠ 0x5C) :
    (numAt .inString).step c = (numAt .inString, .continue) := by
  have hq : (c == 0x22) = false := by simpa using h1
  have hb : (c == 0x5C) = false := by simpa using h2
  have hlow : ¬ c < 0x20 := by grind
  simp [numAt, step, hq, hb, hlow]

theorem step_escape {x : UInt8} (hx : x ∈ escapeLetters) :
    (numAt .inStringEsc).step x = (numAt .inString, .continue) := by
  simp only [escapeLetters, List.mem_cons, List.not_mem_nil, or_false] at hx
  rcases hx with rfl | rfl | rfl | rfl | rfl | rfl | rfl | rfl <;> rfl

/-- After a backslash, a byte that is no escape letter and not `u` is refused. -/
theorem step_escape_other {x : UInt8} (hx : x ∉ escapeLetters) (hu : x ≠ 0x75) :
    (numAt .inStringEsc).step x = (numAt .inStringEsc).fail x .inEscape := by
  simp only [escapeLetters, List.mem_cons, List.not_mem_nil, or_false, not_or] at hx
  obtain ⟨h1, h2, h3, h4, h5, h6, h7, h8⟩ := hx
  simp [numAt, step, h1, h2, h3, h4, h5, h6, h7, h8, hu]

theorem step_escU (k : Nat) (x : UInt8) :
    (numAt (.inStringEscU k)).step x = if isHex x then
      (numAt (if k < 3 then .inStringEscU (k + 1) else .inString), .continue)
    else (numAt (.inStringEscU k)).fail x .inHexEscape := rfl

/-- **The digits of a `\u` escape**: after `3 - j` of them, `j + 1` more hexadecimal digits
and the rest of the literal. -/
theorem hexDigits_of_run (j : Nat) : ∀ {r : Bytes}, Inside (numAt (.inStringEscU (3 - j))) r →
    Ended ((numAt (.inStringEscU (3 - j))).feed r) → j ≤ 3 →
    ∃ hs rest, r = hs ++ rest ∧ hs.length = j + 1 ∧ (∀ x ∈ hs, isHex x = true) ∧
      Inside (numAt .inString) rest ∧ Ended ((numAt .inString).feed rest) := by
  induction j with
  | zero =>
    intro r h he _
    match r, h, he with
    | [], _, he => exact absurd (closes_of_ended he) (by decide)
    | x :: r, h, he =>
      by_cases hx : isHex x = true
      · -- the fourth digit leaves the escape
        have hs : (numAt (.inStringEscU 3)).step x = (numAt .inString, .continue) := by
          simp [step_escU, hx]
        obtain ⟨i, f⟩ := run_step hs rfl r
        exact ⟨[x], r, rfl, rfl, by simpa using hx, i.mp h, f ▸ he⟩
      · exact absurd h (not_inside_of_fail (p := .inHexEscape) (by simp [step_escU, hx]) r)
  | succ j ih =>
    intro r h he hj
    match r, h, he with
    | [], _, he => exact absurd (closes_of_ended he) (by simp [Phase.closes])
    | x :: r, h, he =>
      by_cases hx : isHex x = true
      · have hs : (numAt (.inStringEscU (3 - (j + 1)))).step x =
            (numAt (.inStringEscU (3 - j)), .continue) := by
          have hk : 3 - (j + 1) < 3 := by omega
          simp only [step_escU, hx, hk, ↓reduceIte]
          congr 3
          omega
        obtain ⟨i, f⟩ := run_step hs rfl r
        obtain ⟨hs', rest, rfl, hlen, hhex, hin, hend⟩ := ih (i.mp h) (f ▸ he) (by omega)
        refine ⟨x :: hs', rest, rfl, by simp [hlen], ?_, hin, hend⟩
        intro y hy
        rcases List.mem_cons.mp hy with rfl | hy
        · exact hx
        · exact hhex y hy
      · exact absurd h (not_inside_of_fail (p := .inHexEscape) (by simp [step_escU, hx]) r)

/-- **The rest of a string literal**, read from inside it with nothing open up to a whole value,
is a body of the grammar and the closing quote. -/
theorem stringBody_of_run (n : Nat) : ∀ {r : Bytes}, r.length ≤ n → Inside (numAt .inString) r →
    Ended ((numAt .inString).feed r) → ∃ body, r = body ++ [0x22] ∧ StringBody body := by
  induction n with
  | zero =>
    intro r hn _ he
    obtain rfl : r = [] := List.eq_nil_of_length_eq_zero (by omega)
    exact absurd (closes_of_ended he) (by decide)
  | succ n ih =>
    intro r hn h he
    match r, hn, h, he with
    | [], _, _, he => exact absurd (closes_of_ended he) (by decide)
    | c :: r, hn, h, he =>
      have hn : r.length ≤ n := by simpa using hn
      by_cases hq : c = 0x22
      · -- the closing quote: the literal is over
        subst hq
        obtain ⟨i, -⟩ := run_step (show (numAt .inString).step 0x22 = (numAt .endValue, .continue)
          from rfl) rfl r
        obtain rfl := eq_nil_of_inside_endValue (i.mp h)
        exact ⟨[], rfl, .nil⟩
      by_cases hb : c = 0x5C
      · -- an escape: a letter, or `u` and four digits
        subst hb
        obtain ⟨i, f⟩ := run_step (show (numAt .inString).step 0x5C = (numAt .inStringEsc,
          .continue) from rfl) rfl r
        have h := i.mp h
        rw [f] at he
        match r, hn, h, he with
        | [], _, _, he => exact absurd (closes_of_ended he) (by decide)
        | x :: r, hn, h, he =>
          by_cases hx : x ∈ escapeLetters
          · obtain ⟨i, f⟩ := run_step (step_escape hx) rfl r
            obtain ⟨body, rfl, hbody⟩ := ih (by simp at hn; omega) (i.mp h) (f ▸ he)
            exact ⟨0x5C :: x :: body, rfl, .escape hx hbody⟩
          by_cases hu : x = 0x75
          · subst hu
            obtain ⟨i, f⟩ := run_step (show (numAt .inStringEsc).step 0x75 =
              (numAt (.inStringEscU 0), .continue) from rfl) rfl r
            obtain ⟨hs, rest, rfl, hlen, hhex, hin, hend⟩ :=
              hexDigits_of_run 3 (i.mp h) (f ▸ he) le_rfl
            match hs, hlen, hhex with
            | [a, b, c, d], _, hhex =>
              obtain ⟨body, rfl, hbody⟩ := ih (by simp at hn; omega) hin hend
              exact ⟨0x5C :: 0x75 :: a :: b :: c :: d :: body, rfl,
                .unicode (hhex a (by simp)) (hhex b (by simp)) (hhex c (by simp))
                  (hhex d (by simp)) hbody⟩
          · exact absurd h (not_inside_of_fail (step_escape_other hx hu) r)
      by_cases hlow : c < 0x20
      · have hs : (numAt .inString).step c = (numAt .inString).fail c .inString := by
          have hq' : (c == 0x22) = false := by simpa using hq
          have hb' : (c == 0x5C) = false := by simpa using hb
          simp [numAt, step, hq', hb', hlow]
        exact absurd h (not_inside_of_fail hs r)
      · -- a plain byte
        obtain ⟨i, f⟩ := run_step (step_inString_plain (by grind) hq hb) rfl r
        obtain ⟨body, rfl, hbody⟩ := ih hn (i.mp h) (f ▸ he)
        exact ⟨c :: body, rfl, .plain (by grind) hq hb hbody⟩

/-! ## 3. Numbers

One lemma per phase, from the end of a number back to its start: what a run from the phase
takes, up to a whole value. -/

/-- From the exponent's digits, only digits. -/
theorem allDigits_of_exp0 : ∀ {r : Bytes}, Inside (numAt .exp0) r → AllDigits r
  | [], _ => by simp [AllDigits]
  | c :: r, h => by
    by_cases hd : isDigit c = true
    · obtain ⟨i, -⟩ := run_step (show (numAt .exp0).step c = (numAt .exp0, .continue) by
        simp [numAt, step, hd]) rfl r
      have ih := allDigits_of_exp0 (i.mp h)
      intro d hd'
      rcases List.mem_cons.mp hd' with rfl | hd'
      · exact hd
      · exact ih d hd'
    · exact absurd h (not_inside_of_atEndValue rfl (by simp [numAt, step, hd]) r)

/-- From where the exponent's first digit is due, a digit and digits. -/
theorem expDigits_of_run {r : Bytes} (h : Inside (numAt .expSign) r)
    (he : Ended ((numAt .expSign).feed r)) : ∃ d ds, r = d :: ds ∧ isDigit d = true ∧ AllDigits ds := by
  match r, h, he with
  | [], _, he => exact absurd (closes_of_ended he) (by decide)
  | d :: ds, h, _ =>
    by_cases hd : isDigit d = true
    · obtain ⟨i, -⟩ := run_step (show (numAt .expSign).step d = (numAt .exp0, .continue) by
        simp [numAt, step, atExpSign, hd]) rfl ds
      exact ⟨d, ds, rfl, hd, allDigits_of_exp0 (i.mp h)⟩
    · exact absurd h (not_inside_of_fail (p := .inExponent) (by simp [numAt, step, atExpSign, hd]) ds)

/-- **The exponent**: after its mark, an optional sign and at least one digit. -/
theorem expPart_of_run {m : UInt8} (hm : m = 0x65 ∨ m = 0x45) {r : Bytes}
    (h : Inside (numAt .exp) r) (he : Ended ((numAt .exp).feed r)) : ExpPart (m :: r) := by
  match r, h, he with
  | [], _, he => exact absurd (closes_of_ended he) (by decide)
  | c :: r, h, he =>
    by_cases hs : c = 0x2B ∨ c = 0x2D
    · -- a sign, then the digits
      obtain ⟨i, f⟩ := run_step (show (numAt .exp).step c = (numAt .expSign, .continue) by
        rcases hs with rfl | rfl <;> rfl) rfl r
      obtain ⟨d, ds, rfl, hd, hds⟩ := expDigits_of_run (i.mp h) (f ▸ he)
      have hsign : [c] = [0x2B] ∨ [c] = [0x2D] := by rcases hs with rfl | rfl <;> simp
      exact @ExpPart.mark m [c] _ _ hm (.inr hsign) hd hds
    · -- no sign: the byte is the first digit, read as after the sign
      have hsame : (numAt .exp).step c = (numAt .expSign).step c := by
        have h1 : (c == 0x2B) = false := by simp only [not_or] at hs; simpa using hs.1
        have h2 : (c == 0x2D) = false := by simp only [not_or] at hs; simpa using hs.2
        simp only [numAt, step, h1, h2, Bool.or_self, Bool.false_eq_true, ↓reduceIte]
        rfl
      obtain ⟨i, f, -⟩ := run_of_step_eq hsame rfl r
      obtain ⟨d, ds, hdr, hd, hds⟩ := expDigits_of_run (i.mp h) (f ▸ he)
      obtain ⟨rfl, rfl⟩ := List.cons.inj hdr
      exact @ExpPart.mark m [] _ _ hm (.inl rfl) hd hds

/-- **After the fraction's first digit**: digits and the exponent. -/
theorem dot0_run : ∀ {r : Bytes}, Inside (numAt .dot0) r → Ended ((numAt .dot0).feed r) →
    ∃ ds e, r = ds ++ e ∧ AllDigits ds ∧ ExpPart e
  | [], _, _ => ⟨[], [], rfl, by simp [AllDigits], .none⟩
  | c :: r, h, he => by
    by_cases hd : isDigit c = true
    · obtain ⟨i, f⟩ := run_step (show (numAt .dot0).step c = (numAt .dot0, .continue) by
        simp [numAt, step, hd]) rfl r
      obtain ⟨ds, e, rfl, hds, hexp⟩ := dot0_run (i.mp h) (f ▸ he)
      refine ⟨c :: ds, e, rfl, ?_, hexp⟩
      intro d hd'
      rcases List.mem_cons.mp hd' with rfl | hd'
      · exact hd
      · exact hds d hd'
    by_cases hm : c = 0x65 ∨ c = 0x45
    · obtain ⟨i, f⟩ := run_step (show (numAt .dot0).step c = (numAt .exp, .continue) by
        rcases hm with rfl | rfl <;> rfl) rfl r
      exact ⟨[], c :: r, rfl, by simp [AllDigits], expPart_of_run hm (i.mp h) (f ▸ he)⟩
    · have hm' : (c == 0x65 || c == 0x45) = false := by simpa [not_or] using hm
      exact absurd h (not_inside_of_atEndValue rfl (by simp [numAt, step, hd, hm']) r)

/-- **The fraction**: after the point, a digit, digits and the exponent. -/
theorem fracExp_of_dot {r : Bytes} (h : Inside (numAt .dot) r) (he : Ended ((numAt .dot).feed r)) :
    ∃ f e, 0x2E :: r = f ++ e ∧ FracPart f ∧ ExpPart e := by
  match r, h, he with
  | [], _, he => exact absurd (closes_of_ended he) (by decide)
  | d :: r, h, he =>
    by_cases hd : isDigit d = true
    · obtain ⟨i, f⟩ := run_step (show (numAt .dot).step d = (numAt .dot0, .continue) by
        simp [numAt, step, hd]) rfl r
      obtain ⟨ds, e, rfl, hds, hexp⟩ := dot0_run (i.mp h) (f ▸ he)
      exact ⟨0x2E :: d :: ds, e, by simp, .point hd hds, hexp⟩
    · exact absurd h (not_inside_of_fail (p := .afterPoint) (by simp [numAt, step, hd]) r)

/-- **After `0`**: the fraction and the exponent. -/
theorem zero_run {r : Bytes} (h : Inside (numAt .zero) r) (he : Ended ((numAt .zero).feed r)) :
    ∃ f e, r = f ++ e ∧ FracPart f ∧ ExpPart e := by
  match r, h, he with
  | [], _, _ => exact ⟨[], [], rfl, .none, .none⟩
  | c :: r, h, he =>
    have hstep : (numAt .zero).step c = (numAt .zero).atZero c := rfl
    rcases atZero_cases c with ⟨rfl, hz⟩ | ⟨hm, hz⟩ | ⟨-, -, -, hz⟩
    · obtain ⟨i, f⟩ := run_step (hstep.trans (hz _)) rfl r
      exact fracExp_of_dot (i.mp h) (f ▸ he)
    · obtain ⟨i, f⟩ := run_step (hstep.trans (hz _)) rfl r
      exact ⟨[], c :: r, rfl, .none, expPart_of_run hm (i.mp h) (f ▸ he)⟩
    · exact absurd h (not_inside_of_atEndValue rfl (hstep.trans (hz _)) r)

/-- **After a leading digit from `1` to `9`**: digits, the fraction and the exponent. -/
theorem one_run : ∀ {r : Bytes}, Inside (numAt .one) r → Ended ((numAt .one).feed r) →
    ∃ ds f e, r = ds ++ f ++ e ∧ AllDigits ds ∧ FracPart f ∧ ExpPart e
  | [], _, _ => ⟨[], [], [], rfl, by simp [AllDigits], .none, .none⟩
  | c :: r, h, he => by
    by_cases hd : isDigit c = true
    · obtain ⟨i, f⟩ := run_step (show (numAt .one).step c = (numAt .one, .continue) by
        simp [numAt, step, hd]) rfl r
      obtain ⟨ds, fr, e, rfl, hds, hf, hexp⟩ := one_run (i.mp h) (f ▸ he)
      refine ⟨c :: ds, fr, e, rfl, ?_, hf, hexp⟩
      intro d hd'
      rcases List.mem_cons.mp hd' with rfl | hd'
      · exact hd
      · exact hds d hd'
    · -- past the digits the number reads on as after `0`
      have hsame : (numAt .one).step c = (numAt .zero).step c := by
        simp only [numAt, step, hd, Bool.false_eq_true, ↓reduceIte]
        unfold atZero atEndValue atEndTop fail
        simp
      obtain ⟨i, f, -⟩ := run_of_step_eq hsame rfl r
      obtain ⟨fr, e, hr, hf, hexp⟩ := zero_run (i.mp h) (f ▸ he)
      exact ⟨[], fr, e, by simpa using hr, by simp [AllDigits], hf, hexp⟩

/-- **After a minus**: the integer part, the fraction and the exponent. -/
theorem neg_run {r : Bytes} (h : Inside (numAt .neg) r) (he : Ended ((numAt .neg).feed r)) :
    ∃ i f e, r = i ++ f ++ e ∧ IntPart i ∧ FracPart f ∧ ExpPart e := by
  match r, h, he with
  | [], _, he => exact absurd (closes_of_ended he) (by decide)
  | c :: r, h, he =>
    by_cases h0 : c = 0x30
    · subst h0
      obtain ⟨i, f⟩ := run_step (show (numAt .neg).step 0x30 = (numAt .zero, .continue) from rfl)
        rfl r
      obtain ⟨fr, e, rfl, hf, hexp⟩ := zero_run (i.mp h) (f ▸ he)
      exact ⟨[0x30], fr, e, rfl, .zero, hf, hexp⟩
    by_cases h1 : (0x31 ≤ c && c ≤ 0x39) = true
    · have h0' : (c == 0x30) = false := by simpa using h0
      obtain ⟨i, f⟩ := run_step (show (numAt .neg).step c = (numAt .one, .continue) by
        simp [numAt, step, h0', h1]) rfl r
      obtain ⟨ds, fr, e, rfl, hds, hf, hexp⟩ := one_run (i.mp h) (f ▸ he)
      simp only [Bool.and_eq_true, decide_eq_true_eq] at h1
      exact ⟨c :: ds, fr, e, by simp, .lead h1.1 h1.2 hds, hf, hexp⟩
    · have h0' : (c == 0x30) = false := by simpa using h0
      exact absurd h (not_inside_of_fail (p := .inNumber) (by simp [numAt, step, h0', h1]) r)

/-! ## 4. Words -/

/-- **The rest of a word**: from inside it, exactly the letters still to come. -/
theorem word_run (name : String) : ∀ (cs : List Char), cs ≠ [] → ∀ (r : Bytes),
    Inside (numAt (.word name cs)) r → Ended ((numAt (.word name cs)).feed r) →
      r = cs.map fun e => e.toNat.toUInt8
  | [], hcs, _, _, _ => absurd rfl hcs
  | e :: more, _, r, h, he => by
    match r, h, he with
    | [], _, he => exact absurd (closes_of_ended he) (by simp [Phase.closes])
    | c :: r, h, he =>
      by_cases hc : c = e.toNat.toUInt8
      · subst hc
        have hs : (numAt (.word name (e :: more))).step e.toNat.toUInt8 =
            (numAt (if more.isEmpty then .endValue else .word name more), .continue) := by
          simp [numAt, step]
        obtain ⟨i, f⟩ := run_step hs rfl r
        cases more with
        | nil =>
          obtain rfl := eq_nil_of_inside_endValue (i.mp h)
          rfl
        | cons e' more' =>
          have hr := word_run name (e' :: more') (by simp) r (i.mp h) (f ▸ he)
          rw [hr]
          rfl
      · have hc' : (c == e.toNat.toUInt8) = false := by simpa using hc
        exact absurd h (not_inside_of_fail (p := .inWord name e) (by simp [numAt, step, hc']) r)

end Scanner

open Scanner

/-! ## 5. Scalars -/

/-- **Every string value is a string literal of the grammar.** -/
theorem stringText_of_isString {w : Bytes} (hw : IsString w) : StringText w := by
  obtain ⟨hv, hq⟩ := hw
  obtain ⟨c, r, rfl⟩ := List.exists_cons_of_ne_nil hv.ne_nil
  obtain rfl : c = 0x22 := by simpa using hq
  obtain ⟨i, f⟩ := run_step (show ({} : Scanner).step 0x22 = (numAt .inString, .beginLiteral)
    from rfl) rfl r
  obtain ⟨body, rfl, hbody⟩ := stringBody_of_run _ le_rfl (i.mp hv.inside) (f ▸ hv.ended)
  exact ⟨body, rfl, hbody⟩

/-- **Every scalar value is a scalar text.** A value that starts with neither `{` nor `[` is a
string literal, a number or a word. -/
theorem scalarText_of_isValue {v : Bytes} (hv : IsValue v) (h0 : v.head? ≠ some 0x7B)
    (h1 : v.head? ≠ some 0x5B) : ScalarText v := by
  obtain ⟨c, r, rfl⟩ := List.exists_cons_of_ne_nil hv.ne_nil
  have h := hv.inside
  have he := hv.ended
  have hlead : isBlank c = false := hv.lead c rfl
  -- the first byte names the phase that reads the rest
  have first : ∀ {p : Phase}, ({} : Scanner).step c = (numAt p, .beginLiteral) →
      Inside (numAt p) r ∧ Ended ((numAt p).feed r) := fun hs => by
    obtain ⟨i, f⟩ := run_step hs rfl r
    exact ⟨i.mp h, f ▸ he⟩
  by_cases hq : c = 0x22
  · subst hq
    exact .inl (stringText_of_isString ⟨hv, rfl⟩)
  by_cases hm : c = 0x2D
  · subst hm
    obtain ⟨hin, hend⟩ := first rfl
    obtain ⟨i, f, e, rfl, hi, hf, hexp⟩ := neg_run hin hend
    exact .inr (.inl ⟨[0x2D], i, f, e, by simp, .inr rfl, hi, hf, hexp⟩)
  by_cases hz : c = 0x30
  · subst hz
    obtain ⟨hin, hend⟩ := first rfl
    obtain ⟨f, e, rfl, hf, hexp⟩ := zero_run hin hend
    exact .inr (.inl ⟨[], [0x30], f, e, by simp, .inl rfl, .zero, hf, hexp⟩)
  by_cases ht : c = 0x74
  · subst ht
    obtain ⟨hin, hend⟩ := first rfl
    rw [word_run "true" ['r', 'u', 'e'] (by simp) _ hin hend]
    exact .inr (.inr (by decide))
  by_cases hf : c = 0x66
  · subst hf
    obtain ⟨hin, hend⟩ := first rfl
    rw [word_run "false" ['a', 'l', 's', 'e'] (by simp) _ hin hend]
    exact .inr (.inr (by decide))
  by_cases hn : c = 0x6E
  · subst hn
    obtain ⟨hin, hend⟩ := first rfl
    rw [word_run "null" ['u', 'l', 'l'] (by simp) _ hin hend]
    exact .inr (.inr (by decide))
  have hne : ∀ b : UInt8, c ≠ b → (c == b) = false := fun b hb => by simpa using hb
  have h0' := hne 0x7B fun hc => h0 (by simp [hc])
  have h1' := hne 0x5B fun hc => h1 (by simp [hc])
  by_cases hd : (0x31 ≤ c && c ≤ 0x39) = true
  · obtain ⟨hin, hend⟩ := first (p := .one) (by
      simp [step, atBeginValue, hlead, h0', h1', hne _ hq, hne _ hm, hne _ hz, hne _ ht,
        hne _ hf, hne _ hn, hd, numAt])
    obtain ⟨ds, fr, e, rfl, hds, hfr, hexp⟩ := one_run hin hend
    simp only [Bool.and_eq_true, decide_eq_true_eq] at hd
    exact .inr (.inl ⟨[], c :: ds, fr, e, by simp, .inl rfl, .lead hd.1 hd.2 hds, hfr, hexp⟩)
  · -- no value starts with any other byte
    have hs : ({} : Scanner).step c = ({} : Scanner).fail c .beginValue := by
      simp [step, atBeginValue, hlead, h0', h1', hne _ hq, hne _ hm, hne _ hz, hne _ ht,
        hne _ hf, hne _ hn, hd]
    exact absurd h (not_inside_of_fail hs r)

/-- A scalar text is one value. -/
theorem ScalarText.isValue {v : Bytes} (hv : ScalarText v) : IsValue v := by
  rcases hv with hs | hn | hw
  · exact (isString_of_stringText hs).1
  · exact (isValue_numberText hn).1
  · exact (isValue_word hw).1

/-- A scalar text starts with neither `{` nor `[`. -/
theorem ScalarText.head_ne {v : Bytes} (hv : ScalarText v) :
    v.head? ≠ some 0x7B ∧ v.head? ≠ some 0x5B := by
  rcases hv with ⟨body, rfl, -⟩ | ⟨sign, int, f, e, rfl, hsign, hi, -, -⟩ | hw
  · simp
  · rcases hsign with rfl | rfl
    · cases hi with
      | zero => simp
      | lead hlo hhi _ =>
        simp only [List.nil_append, List.cons_append, List.head?_cons, ne_eq, Option.some.injEq]
        constructor <;> grind
    · simp
  · simp only [words, List.mem_cons, List.not_mem_nil, or_false] at hw
    rcases hw with rfl | rfl | rfl <;> simp

/-- **Among the texts that start with neither `{` nor `[`, the values are the scalar texts.** -/
theorem isValue_iff_scalarText {w : Bytes} (h0 : w.head? ≠ some 0x7B) (h1 : w.head? ≠ some 0x5B) :
    IsValue w ↔ ScalarText w :=
  ⟨fun hw => scalarText_of_isValue hw h0 h1, ScalarText.isValue⟩

/-! ## 6. Where a value ends -/

namespace Scanner

theorem ended_setPhase {s : Scanner} (he : Ended s) {q : Phase} (hq : q.closes = true) :
    Ended { s with phase := q } :=
  ⟨he.err, he.stack, .inr hq⟩

/-- **A whole value that goes on.** After a whole value, a byte that does not end it goes on with
a number, and at most one more digit, `0`, ends the number again. -/
theorem exists_completion {s : Scanner} (he : Ended s) {b : UInt8} (hb : (s.step b).2 ≠ .done) :
    ∃ u, Inside s (b :: u) ∧ Ended (s.feed (b :: u)) := by
  -- a byte read as after the value ends it, since nothing is open
  have hend : (s.atEndValue b).2 = .done := atEndValue_nil s b he.stack
  -- a digit where a number may stop leaves it where it may stop
  have stay : s.step b = (s, .continue) → ∃ u, Inside s (b :: u) ∧ Ended (s.feed (b :: u)) :=
    fun hs => ⟨[], by simp [hs, Code.stops], by simpa [hs] using he⟩
  -- a point or an exponent mark needs one digit more
  have more : ∀ {q : Phase}, q = .dot ∨ q = .exp → s.step b = ({ s with phase := q }, .continue) →
      ∃ u, Inside s (b :: u) ∧ Ended (s.feed (b :: u)) := by
    intro q hq hs
    have hzero : ({ s with phase := q } : Scanner).step 0x30 =
        ({ s with phase := if q = .dot then .dot0 else .exp0 }, .continue) := by
      rcases hq with rfl | rfl <;> rfl
    refine ⟨[0x30], by simp [hs, hzero, Code.stops], ?_⟩
    simp only [feed_cons, hs, hzero, feed_nil]
    exact ended_setPhase he (by rcases hq with rfl | rfl <;> rfl)
  -- after the integer part: a point, an exponent mark, or the end
  have viaZero : s.step b = s.atZero b → ∃ u, Inside s (b :: u) ∧ Ended (s.feed (b :: u)) := by
    intro hs
    rcases atZero_cases b with ⟨-, hz⟩ | ⟨-, hz⟩ | ⟨-, -, -, hz⟩
    · exact more (.inl rfl) (hs.trans (hz s))
    · exact more (.inr rfl) (hs.trans (hz s))
    · exact absurd (by rw [hs, hz s]; exact hend) hb
  rcases he.phase with ⟨hp, -⟩ | hcl
  · -- after a container or a literal's last byte nothing goes on
    exact absurd (by unfold step; rw [hp]; exact atEndTop_snd s b) hb
  · cases hp : s.phase <;> simp only [Phase.closes, hp, Bool.false_eq_true] at hcl
    case endValue => exact absurd (by unfold step; rw [hp]; exact hend) hb
    case one =>
      by_cases hd : isDigit b = true
      · exact stay (by unfold step; simp [hp, hd])
      · exact viaZero (by unfold step; simp [hp, hd])
    case zero => exact viaZero (by unfold step; rw [hp])
    case dot0 =>
      by_cases hd : isDigit b = true
      · exact stay (by unfold step; simp [hp, hd])
      by_cases hm : (b == 0x65 || b == 0x45) = true
      · exact more (.inr rfl) (by unfold step; simp [hp, hd, hm])
      · have hdone : (s.step b).2 = .done := by
          unfold step; simp only [hp, hd, hm, Bool.false_eq_true, ↓reduceIte]; exact hend
        exact absurd hdone hb
    case exp0 =>
      by_cases hd : isDigit b = true
      · exact stay (by unfold step; simp [hp, hd])
      · have hdone : (s.step b).2 = .done := by
          unfold step; simp only [hp, hd, Bool.false_eq_true, ↓reduceIte]; exact hend
        exact absurd hdone hb

end Scanner

open Scanner

/-- **Where a value ends.** After a whole value, the machine ends the value at the next byte
exactly when no value goes on with that byte. -/
theorem step_done_iff {v : Bytes} (hv : IsValue v) (b : UInt8) :
    ((({} : Scanner).feed v).step b).2 = .done ↔ ∀ u, ¬ IsValue (v ++ b :: u) := by
  constructor
  · intro hdone u hu
    have h := hu.inside
    rw [inside_append, inside_cons, hdone] at h
    exact absurd h.2.1 (by decide)
  · intro hno
    by_contra hb
    obtain ⟨u, hin, hend⟩ := exists_completion hv.ended hb
    obtain ⟨c, r, rfl⟩ := List.exists_cons_of_ne_nil hv.ne_nil
    refine hno u ⟨?_, ?_, ?_⟩
    · rw [inside_append]; exact ⟨hv.inside, hin⟩
    · rw [feed_append]; exact hend
    · simpa using hv.lead

/-- **Where a scalar ends**: after a scalar text, the machine ends the value at the next byte
exactly when no scalar text goes on with that byte. -/
theorem scalar_step_done_iff {v : Bytes} (hv : ScalarText v) (b : UInt8) :
    ((({} : Scanner).feed v).step b).2 = .done ↔ ∀ u, ¬ ScalarText (v ++ b :: u) := by
  obtain ⟨h0, h1⟩ := hv.head_ne
  obtain ⟨c, r, rfl⟩ := List.exists_cons_of_ne_nil hv.isValue.ne_nil
  -- a text going on from `v` starts as `v` does
  have hsame : ∀ u, IsValue (c :: r ++ b :: u) ↔ ScalarText (c :: r ++ b :: u) := fun u =>
    isValue_iff_scalarText (by simpa using h0) (by simpa using h1)
  rw [step_done_iff hv.isValue b]
  exact forall_congr' fun u => not_congr (hsame u)

end Inventory.Json
