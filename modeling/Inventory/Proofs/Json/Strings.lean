import Inventory.Proofs.Json.Layout
/-!
# String literals

Inside a string literal the machine reads every byte as part of the literal: nothing is skipped
and nothing is opened, and only the closing quote leaves the literal. So a string value is its
own compact layout (`keep_string`) and nests nothing (`peak_string`).
-/

set_option autoImplicit false

namespace Inventory.Json

/-- The phases inside a string literal. -/
def Phase.inStr : Phase → Bool
  | .inString | .inStringEsc | .inStringEscU _ => true
  | _ => false

/-- **A string value**: one JSON value whose first byte is a double quote. -/
def IsString (w : Bytes) : Prop := IsValue w ∧ w.head? = some 0x22

/-- A string value starts with its quote. -/
theorem IsString.exists_quote {w : Bytes} (hw : IsString w) : ∃ r, w = 0x22 :: r := by
  obtain ⟨c, r, rfl⟩ := List.exists_cons_of_ne_nil hw.1.ne_nil
  obtain rfl : c = 0x22 := by simpa using hw.2
  exact ⟨r, rfl⟩

namespace Scanner

variable {s : Scanner} {c : UInt8}

/-- The fresh machine opens a string literal at a quote. -/
theorem step_openQuote : ({} : Scanner).step 0x22 = ({ phase := .inString }, .beginLiteral) := rfl

/-- **A byte inside a string literal** continues it and changes only the phase, which stays
inside the literal unless the byte is the closing quote. -/
theorem step_inStr (hp : s.phase.inStr = true) (h : (s.step c).2.stops = false) :
    (s.step c).2 = .continue ∧ ∃ p : Phase, (s.step c).1 = { s with phase := p } ∧
      (p.inStr = true ∨ (p = .endValue ∧ c = 0x22)) := by
  have hself : ∀ q : Phase, s.phase = q → s = { s with phase := q } := fun q hq => by
    rw [← hq]
  unfold step at h ⊢
  cases hq : s.phase <;> simp [hq, Phase.inStr] at hp
  case inString =>
    simp only [hq] at h ⊢
    by_cases h0 : (c == 0x22) = true
    · rw [if_pos h0]; exact ⟨rfl, _, rfl, .inr ⟨rfl, by simpa using h0⟩⟩
    rw [if_neg h0] at h ⊢
    by_cases h1 : (c == 0x5C) = true
    · rw [if_pos h1]; exact ⟨rfl, _, rfl, .inl rfl⟩
    rw [if_neg h1] at h ⊢
    by_cases h2 : c < 0x20
    · rw [if_pos h2] at h; cases h
    · rw [if_neg h2]; exact ⟨rfl, _, hself _ hq, .inl rfl⟩
  case inStringEsc =>
    simp only [hq] at h ⊢
    split_ifs at h ⊢
    · exact ⟨rfl, _, rfl, .inl rfl⟩
    · exact ⟨rfl, _, rfl, .inl rfl⟩
    · cases h
  case inStringEscU k =>
    simp only [hq] at h ⊢
    split_ifs at h ⊢
    · exact ⟨rfl, _, rfl, .inl rfl⟩
    · exact ⟨rfl, _, rfl, .inl rfl⟩
    · cases h

/-- The rest of a string literal, with nothing open around it, is read byte for byte and
ends with its closing quote. -/
theorem string_run {r : Bytes} : ∀ {s : Scanner}, s.phase.inStr = true → s.stack = [] →
    Inside s r → s.keep r = r ∧ s.peak r = s.depth := by
  induction r with
  | nil => exact fun _ _ _ => ⟨rfl, rfl⟩
  | cons c r ih =>
    intro s hp hs hin
    obtain ⟨h1, h2⟩ := hin
    obtain ⟨hcont, p, hstep, hp'⟩ := step_inStr hp h1
    have hkept : (s.step c).2.kept = true := by rw [hcont]; rfl
    simp only [keep, hkept, ↓reduceIte, peak]
    rcases hp' with hp' | ⟨rfl, -⟩
    · obtain ⟨ih1, ih2⟩ := ih (by rw [hstep]; exact hp') (by rw [hstep]; exact hs) h2
      rw [ih1, ih2, hstep]
      exact ⟨rfl, by simp⟩
    · -- after the closing quote nothing is open, so the next byte would end the value
      cases r with
      | nil => exact ⟨rfl, by simp [peak, hstep]⟩
      | cons d r =>
        have hdone : ((s.step c).1.step d).2 = .done := by
          rw [hstep]
          unfold step
          exact atEndValue_nil _ d hs
        rw [inside_cons, hdone] at h2
        cases h2.1

end Scanner

open Scanner

/-- After its opening quote, a string value runs inside the literal to its end. -/
theorem IsString.inside_body {r : Bytes} (hw : IsString (0x22 :: r)) :
    Inside ({ phase := .inString } : Scanner) r := by
  have hin := hw.1.inside
  rw [inside_cons, step_openQuote] at hin
  exact hin.2

/-- **A string value is its own compact layout.** -/
theorem keep_string {w : Bytes} (hw : IsString w) : keep {} w = w := by
  obtain ⟨r, rfl⟩ := hw.exists_quote
  simp only [keep, step_openQuote, Code.kept, ↓reduceIte]
  rw [(string_run rfl rfl hw.inside_body).1]

/-- **A string value nests nothing.** -/
theorem peak_string {w : Bytes} (hw : IsString w) : Scanner.peak {} w = 0 := by
  obtain ⟨r, rfl⟩ := hw.exists_quote
  simp only [Scanner.peak, step_openQuote]
  rw [(string_run rfl rfl hw.inside_body).2]
  rfl

end Inventory.Json
