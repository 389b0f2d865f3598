import Inventory.Proofs.Json.Literals
import Inventory.Proofs.Json.Extent
/-!
# The first scalar of a stream

`Value.decodeFirst` reads the first value of a stream: `valueLength` measures it and
`Value.build` builds its tree from the machine's codes. Inside a scalar nothing is open, and
every byte after the first is read with the code `continue` (`step_literal`); so the builder
only collects the scalar's bytes and, when the text ends, places the literal they spell
(`build_scalarText`).

A stream that starts with a scalar text read as far as it goes is decoded to that literal and
the bytes after it (`decodeFirst_scalar`); any other stream that starts with neither `{` nor `[`
is refused (`exists_scalar_of_decodeFirst`).
-/

set_option autoImplicit false

namespace Inventory.Json

/-- The phases inside a scalar, its end included. -/
def Phase.literal : Phase → Bool
  | .inString | .inStringEsc | .inStringEscU _ | .neg | .one | .zero | .dot | .dot0 | .exp
  | .expSign | .exp0 | .word _ _ | .endValue => true
  | _ => false

theorem Phase.literal_of_inStr {p : Phase} (h : p.inStr = true) : p.literal = true := by
  cases p <;> simp_all [Phase.inStr, Phase.literal]

namespace Scanner

/-- **Inside a scalar every byte is read with `continue`**, and moves the phase only, within
the scalar. -/
theorem step_literal {s : Scanner} (hs : s.stack = []) (hl : s.phase.literal = true) {c : UInt8}
    (h : (s.step c).2.stops = false) :
    ∃ q : Phase, q.literal = true ∧ s.step c = ({ s with phase := q }, .continue) := by
  -- string literals are read alike in all their phases
  by_cases hstr : s.phase.inStr = true
  · obtain ⟨hc, p, hs', hp'⟩ := step_inStr hstr h
    refine ⟨p, ?_, Prod.ext hs' hc⟩
    rcases hp' with hp' | ⟨rfl, -⟩
    · exact Phase.literal_of_inStr hp'
    · rfl
  -- a byte read as after the value ends it, since nothing is open
  have hend : (s.atEndValue c).2.stops = true := by rw [atEndValue_nil s c hs]; rfl
  have hself : ∀ {p : Phase}, s.phase = p → s.step c = (s, .continue) →
      s.step c = ({ s with phase := p }, .continue) := fun hp h' => by rw [h', ← hp]
  -- after the integer part, a point or an exponent mark moves on, and the rest ends the value
  have viaZero : s.step c = s.atZero c → ∃ q : Phase, q.literal = true ∧
      s.step c = ({ s with phase := q }, .continue) := by
    intro hz
    rcases atZero_cases c with ⟨-, hz'⟩ | ⟨-, hz'⟩ | ⟨-, -, -, hz'⟩
    · exact ⟨.dot, rfl, hz.trans (hz' s)⟩
    · exact ⟨.exp, rfl, hz.trans (hz' s)⟩
    · rw [hz, hz' s, hend] at h; cases h
  -- where an exponent's digit is due, a digit moves on and anything else is refused
  have viaExpSign : s.step c = s.atExpSign c → ∃ q : Phase, q.literal = true ∧
      s.step c = ({ s with phase := q }, .continue) := by
    intro hx
    rcases atExpSign_cases c with ⟨-, hx'⟩ | hx'
    · exact ⟨.exp0, rfl, hx.trans (hx' s)⟩
    · rw [hx, hx' s] at h; cases h
  cases hp : s.phase <;>
    simp only [Phase.literal, Phase.inStr, hp, Bool.false_eq_true, not_true_eq_false] at hl hstr
  case endValue =>
    have hst : s.step c = s.atEndValue c := by unfold step; rw [hp]
    rw [hst, hend] at h; cases h
  case neg =>
    rw [step_phase_eq hp] at h ⊢
    by_cases h0 : (c == 0x30) = true
    · exact ⟨.zero, rfl, by simp [step, h0]⟩
    by_cases h1 : (0x31 ≤ c && c ≤ 0x39) = true
    · exact ⟨.one, rfl, by simp [step, h0, h1]⟩
    · simp [step, h0, h1, fail] at h
  case one =>
    by_cases hd : isDigit c = true
    · exact ⟨.one, rfl, hself hp (by unfold step; simp [hp, hd])⟩
    · exact viaZero (by unfold step; simp [hp, hd])
  case zero => exact viaZero (by unfold step; rw [hp])
  case dot =>
    by_cases hd : isDigit c = true
    · exact ⟨.dot0, rfl, by unfold step; simp [hp, hd]⟩
    · unfold step at h; simp [hp, hd, fail] at h
  case dot0 =>
    by_cases hd : isDigit c = true
    · exact ⟨.dot0, rfl, hself hp (by unfold step; simp [hp, hd])⟩
    by_cases hm : (c == 0x65 || c == 0x45) = true
    · exact ⟨.exp, rfl, by unfold step; simp [hp, hd, hm]⟩
    · have hst : s.step c = s.atEndValue c := by
        unfold step; simp only [hp, hd, hm, Bool.false_eq_true, ↓reduceIte]
      rw [hst, hend] at h; cases h
  case exp =>
    by_cases hsg : (c == 0x2B || c == 0x2D) = true
    · exact ⟨.expSign, rfl, by unfold step; simp [hp, hsg]⟩
    · exact viaExpSign (by unfold step; simp only [hp, hsg, Bool.false_eq_true, ↓reduceIte])
  case expSign => exact viaExpSign (by unfold step; rw [hp])
  case exp0 =>
    by_cases hd : isDigit c = true
    · exact ⟨.exp0, rfl, hself hp (by unfold step; simp [hp, hd])⟩
    · have hst : s.step c = s.atEndValue c := by
        unfold step; simp only [hp, hd, Bool.false_eq_true, ↓reduceIte]
      rw [hst, hend] at h; cases h
  case word name rest =>
    cases rest with
    | nil =>
      have hst : s.step c = s.atEndValue c := by unfold step; rw [hp]
      rw [hst, hend] at h; cases h
    | cons e more =>
      by_cases he : (c == e.toNat.toUInt8) = true
      · refine ⟨if more.isEmpty then .endValue else .word name more, ?_, ?_⟩
        · split <;> rfl
        · unfold step; simp [hp, he]
      · unfold step at h; simp [hp, he, fail] at h

end Scanner

/-! ## 2. The builder over a scalar -/

namespace Builder

/-- **The builder inside a scalar** only collects its bytes, newest first. -/
theorem run_literal : ∀ {r : Bytes} {b : Builder}, b.scanner.stack = [] →
    b.scanner.phase.literal = true → Scanner.Inside b.scanner r → b.opened = [] →
    b.result = none → b.run r = { b with scanner := b.scanner.feed r, lit := r.reverse ++ b.lit }
  | [], _, _, _, _, _, _ => rfl
  | c :: r, b, hs, hl, hin, ho, hres => by
    obtain ⟨h1, h2⟩ := hin
    obtain ⟨q, hq, hstep⟩ := Scanner.step_literal hs hl h1
    -- the byte is added to the literal, and the scalar goes on with nothing placed
    have ih := @run_literal r
      { b with scanner := { b.scanner with phase := q }, lit := c :: b.lit, result := none }
      hs hq (by rw [hstep] at h2; exact h2) ho rfl
    simp only [run, hstep, feed, hres, Option.isSome_none, Bool.false_eq_true, ↓reduceIte]
    refine ih.trans ?_
    simp [Scanner.feed_cons, hstep]

end Builder

/-! ## 3. Building a scalar -/

open Scanner

/-- The first byte of a scalar text starts a literal. -/
theorem step_scalarText_head {c : UInt8} {r : Bytes} (hv : ScalarText (c :: r)) :
    ∃ q : Phase, q.literal = true ∧ ({} : Scanner).step c = (numAt q, .beginLiteral) := by
  rcases hv with ⟨body, hb, -⟩ | ⟨sign, int, f, e, hn, hsign, hi, -, -⟩ | hw
  · obtain rfl : c = 0x22 := (List.cons.inj hb).1
    exact ⟨.inString, rfl, rfl⟩
  · rcases hsign with rfl | rfl
    · cases hi with
      | zero =>
        obtain rfl : c = 0x30 := (List.cons.inj hn).1
        exact ⟨.zero, rfl, rfl⟩
      | @lead d ds hlo hhi _ =>
        obtain rfl : c = d := (List.cons.inj hn).1
        have hne : ∀ b : UInt8, (b < 0x31 ∨ 0x39 < b) → (c == b) = false := fun b hb => by grind
        have hb : isBlank c = false := by
          simp only [isBlank, hne 0x20 (by decide), hne 0x09 (by decide), hne 0x0D (by decide),
            hne 0x0A (by decide), Bool.or_self]
        have hrange : (0x31 ≤ c && c ≤ 0x39) = true := by simp [hlo, hhi]
        refine ⟨.one, rfl, ?_⟩
        simp only [step, atBeginValue, hb, hne 0x7B (by decide), hne 0x5B (by decide),
          hne 0x22 (by decide), hne 0x2D (by decide), hne 0x30 (by decide), hne 0x74 (by decide),
          hne 0x66 (by decide), hne 0x6E (by decide), hrange, Bool.false_eq_true, ↓reduceIte]
        rfl
    · obtain rfl : c = 0x2D := (List.cons.inj hn).1
      exact ⟨.neg, rfl, rfl⟩
  · simp only [words, List.mem_cons, List.not_mem_nil, or_false] at hw
    rcases hw with hw | hw | hw <;> obtain rfl := (List.cons.inj hw).1
    · exact ⟨_, rfl, rfl⟩
    · exact ⟨_, rfl, rfl⟩
    · exact ⟨_, rfl, rfl⟩

/-- **Building a scalar text gives its literal.** -/
theorem build_scalarText {v : Bytes} (hv : ScalarText v) : Value.build v = some (literalValue v) := by
  have hval := hv.isValue
  obtain ⟨c, r, rfl⟩ := List.exists_cons_of_ne_nil hval.ne_nil
  obtain ⟨q, hq, hstep⟩ := step_scalarText_head hv
  have hin := hval.inside
  rw [inside_cons, hstep] at hin
  have hend := hval.ended
  rw [feed_cons, hstep] at hend
  -- the first byte starts the literal; the rest is collected
  have hrun : Builder.run {} (c :: r) =
      { scanner := (numAt q).feed r, lit := r.reverse ++ [c], hasLit := true } := by
    simp only [Builder.run, hstep, Builder.feed, Option.isSome_none, Bool.false_eq_true,
      ↓reduceIte]
    exact Builder.run_literal rfl hq hin.2 rfl rfl
  -- the text ends inside a whole value, so the literal is placed
  obtain ⟨s', hfin⟩ : ∃ s', ((numAt q).feed r).finish = (s', .done) :=
    ⟨_, Prod.ext rfl (finish_ended hend)⟩
  unfold Value.build
  rw [hrun]
  simp only [hend.err, Option.isSome_none, Bool.false_eq_true, ↓reduceIte, hfin]
  simp only [Builder.flush, Builder.place, ↓reduceIte, List.reverse_append, List.reverse_reverse,
    List.reverse_cons, List.reverse_nil, List.nil_append, List.singleton_append]

/-! ## 4. The literal of a scalar -/

/-- The text of a literal's bytes, byte for byte. -/
def literalText (v : Bytes) : String := String.ofList (v.map fun b => Char.ofNat b.toNat)

/-- **A number beyond a double**: a number text whose value rounds to infinity as a
double-precision float. -/
def Overflows (v : Bytes) : Prop :=
  NumberText v ∧ (Decimal.ofLiteral (literalText v)).exceedsDouble = true

/-- A literal that starts with no quote and no word's letter is read as a number. -/
theorem literalValue_of_head {c : UInt8} {r : Bytes} (h1 : c ≠ 0x22) (h2 : c ≠ 0x74)
    (h3 : c ≠ 0x66) (h4 : c ≠ 0x6E) : literalValue (c :: r) = .number (literalText (c :: r)) := by
  unfold literalValue
  split
  · rename_i h; exact absurd (List.cons.inj h).1 h1
  · rename_i h; exact absurd (List.cons.inj h).1 h2
  · rename_i h; exact absurd (List.cons.inj h).1 h3
  · rename_i h; exact absurd (List.cons.inj h).1 h4
  · rfl

/-- **A number text is read as the number it spells.** -/
theorem literalValue_of_numberText {v : Bytes} (hv : NumberText v) :
    literalValue v = .number (literalText v) := by
  obtain ⟨sign, int, f, e, rfl, hsign, hi, -, -⟩ := hv
  rcases hsign with rfl | rfl
  · cases hi with
    | zero => exact literalValue_of_head (by decide) (by decide) (by decide) (by decide)
    | lead hlo hhi _ =>
      exact literalValue_of_head (by grind) (by grind) (by grind) (by grind)
  · exact literalValue_of_head (by decide) (by decide) (by decide) (by decide)

/-- A string literal or a word is no number. -/
theorem literalValue_ne_number {v : Bytes} (hv : StringText v ∨ v ∈ words) (lit : String) :
    literalValue v ≠ .number lit := by
  rcases hv with ⟨body, rfl, -⟩ | hw
  · simp [literalValue]
  · simp only [words, List.mem_cons, List.not_mem_nil, or_false] at hw
    rcases hw with rfl | rfl | rfl <;> simp [literalValue]

/-! ## 5. Decoding the first scalar of a stream -/

/-- **`bs` starts with the scalar `v`, read as far as it goes**: `v` is a scalar text, and no
scalar text goes on past it with the byte after it. -/
def LeadingScalar (bs v : Bytes) : Prop :=
  ScalarText v ∧ ∃ after, bs = v ++ after ∧ ∀ b ∈ after.head?, ∀ u, ¬ ScalarText (v ++ b :: u)

/-- **A stream that starts with a scalar read as far as it goes** is decoded to the scalar's
literal and the bytes after it. -/
theorem decodeFirst_scalar {v after : Bytes} (hv : ScalarText v)
    (hafter : ∀ b ∈ after.head?, ∀ u, ¬ ScalarText (v ++ b :: u)) :
    Value.decodeFirst (v ++ after) = .ok (literalValue v, after) := by
  -- no blank before the scalar, and the byte after it ends it
  have hnone : ∀ c ∈ ([] : Bytes), isBlank c = true := by simp
  have hlen : valueLength (v ++ after) = .ok v.length := by
    simpa using valueLength_of_done hnone hv.isValue
      fun b hb => (scalar_step_done_iff hv b).mpr (hafter b hb)
  unfold Value.decodeFirst
  rw [hlen]
  simp [bind, Except.bind, build_scalarText hv]

/-- **What decoding takes from a stream** that starts with neither a blank, `{` nor `[`: a
scalar read as far as it goes, built to its literal. -/
theorem exists_scalar_of_decodeFirst {c : UInt8} {more rest : Bytes} {val : Value}
    (hb : isBlank c = false) (h0 : c ≠ 0x7B) (h1 : c ≠ 0x5B)
    (h : Value.decodeFirst (c :: more) = .ok (val, rest)) :
    ∃ v, c :: more = v ++ rest ∧ LeadingScalar (c :: more) v ∧ val = literalValue v := by
  unfold Value.decodeFirst at h
  cases hl : valueLength (c :: more) with
  | error e => rw [hl] at h; cases h
  | ok n =>
    rw [hl] at h
    simp only [bind, Except.bind] at h
    obtain ⟨ws, v, hsplit, hws, hv⟩ := valueLength_sound hl
    -- the value measured is not empty, so it takes the stream's first byte
    have hn : n ≠ 0 := by
      rintro rfl
      simp only [List.take_zero] at hsplit
      exact hv.ne_nil (List.append_eq_nil_iff.mp hsplit.symm).2
    obtain ⟨k, rfl⟩ := Nat.exists_eq_succ_of_ne_zero hn
    -- nothing blank is measured before the value, since the stream starts with no blank
    have hws0 : ws = [] := by
      cases ws with
      | nil => rfl
      | cons d ws =>
        have hd : c = d := by simpa using congrArg List.head? hsplit
        rw [hd, hws d (by simp)] at hb; cases hb
    subst hws0
    rw [List.nil_append] at hsplit
    have hhead : v.head? = some c := by
      rw [← hsplit]
      rfl
    have hs : ScalarText v := scalarText_of_isValue hv (by rw [hhead]; simpa using h0)
      (by rw [hhead]; simpa using h1)
    rw [hsplit, build_scalarText hs] at h
    simp only [Except.ok.injEq, Prod.mk.injEq] at h
    obtain ⟨rfl, rfl⟩ := h
    have hcm : c :: more = v ++ (c :: more).drop (k + 1) := by
      rw [← hsplit, List.take_append_drop]
    refine ⟨v, hcm, ⟨hs, _, hcm, ?_⟩, rfl⟩
    intro b hb u
    have hdone := valueLength_next hl b hb
    rw [hsplit] at hdone
    exact (scalar_step_done_iff hs b).mp hdone u

end Inventory.Json
