import Inventory.Proofs.Json.Write
/-!
# The grammar of JSON texts

The texts the machine takes as one value, stated as a grammar (`JsonText`): RFC 8259's, with
the two differences the machine makes.

* Inside a string literal any byte from `0x20` up other than `"` and `\` stands for itself, so
  invalid UTF-8 belongs to the grammar (`StringBody.plain`).
* A text is indexed by how deep it nests: a scalar nests 0 levels deep and a container one
  level deeper than its deepest value. The machine takes at most `maxDepth` levels.

This module proves the grammar complete for the machine: every text of the grammar that nests
within the limit is one value, nesting no deeper for the machine than for the grammar
(`isValue_of_jsonText`). The converse is in `Inventory.Proofs.Json.Elements`.
-/

set_option autoImplicit false

namespace Inventory

namespace Json

/-! ## 1. String literals -/

/-- The bytes that may follow a backslash in a string literal, besides `u`: `"`, `\`, `/`, `b`,
`f`, `n`, `r` and `t`. -/
def escapeLetters : List UInt8 := [0x22, 0x5C, 0x2F, 0x62, 0x66, 0x6E, 0x72, 0x74]

/-- **The body of a string literal**, byte by byte. -/
inductive StringBody : Bytes → Prop
  | nil : StringBody []
  /-- A byte from `0x20` up that is neither a quote nor a backslash, valid UTF-8 or not. -/
  | plain {c : UInt8} {cs : Bytes} : 0x20 ≤ c → c ≠ 0x22 → c ≠ 0x5C → StringBody cs →
      StringBody (c :: cs)
  /-- A backslash and an escape letter. -/
  | escape {x : UInt8} {cs : Bytes} : x ∈ escapeLetters → StringBody cs →
      StringBody (0x5C :: x :: cs)
  /-- `\u` and four hexadecimal digits. -/
  | unicode {a b c d : UInt8} {cs : Bytes} : isHex a = true → isHex b = true → isHex c = true →
      isHex d = true → StringBody cs → StringBody (0x5C :: 0x75 :: a :: b :: c :: d :: cs)

/-- **A string literal**: a quote, its body, a quote. -/
def StringText (w : Bytes) : Prop := ∃ body, w = 0x22 :: (body ++ [0x22]) ∧ StringBody body

/-- The blanks around an element of an array text. -/
def Element.Spaced (e : Element) : Prop :=
  (∀ c ∈ e.pre, isBlank c = true) ∧ ∀ c ∈ e.trail, isBlank c = true

end Json

open Json

/-- **A member of an object text as the grammar has it**, its value aside: blanks around its
parts and a string literal for its key. -/
structure Member.Framed (m : Member) : Prop where
  pre : ∀ c ∈ m.pre, isBlank c = true
  key : StringText m.key
  mid : ∀ c ∈ m.mid, isBlank c = true
  post : ∀ c ∈ m.post, isBlank c = true
  trail : ∀ c ∈ m.trail, isBlank c = true

namespace Json

/-! ## 2. Values -/

/-- **A JSON text nesting at most `n` levels deep.** -/
inductive JsonText : Nat → Bytes → Prop
  | word {n : Nat} {w : Bytes} : w ∈ words → JsonText n w
  | number {n : Nat} {w : Bytes} : NumberText w → JsonText n w
  | string {n : Nat} {w : Bytes} : StringText w → JsonText n w
  /-- An array of texts nesting at most `n` deep nests at most `n + 1` deep. -/
  | array {n : Nat} {es : List Element} {inner : Bytes} : (∀ c ∈ inner, isBlank c = true) →
      (∀ e ∈ es, e.Spaced) → (∀ e ∈ es, JsonText n e.value) → JsonText (n + 1) (arrayText es inner)
  /-- An object of texts nesting at most `n` deep nests at most `n + 1` deep. -/
  | object {n : Nat} {ms : List Member} {inner : Bytes} : (∀ c ∈ inner, isBlank c = true) →
      (∀ m ∈ ms, m.Framed) → (∀ m ∈ ms, JsonText n m.value) →
      JsonText (n + 1) (objectText ms inner)

/-- A text that nests at most `n` deep nests at most as deep as any bound above `n`. -/
theorem JsonText.mono {n : Nat} {v : Bytes} (h : JsonText n v) : ∀ {k : Nat}, n ≤ k → JsonText k v := by
  induction h with
  | word hw => exact fun _ => .word hw
  | number hn => exact fun _ => .number hn
  | string hs => exact fun _ => .string hs
  | array hin hsp _ ih =>
    intro k hk
    obtain ⟨k, rfl⟩ : ∃ k', k = k' + 1 := ⟨k - 1, by omega⟩
    exact .array hin hsp fun e he => ih e he (by omega)
  | object hin hfr _ ih =>
    intro k hk
    obtain ⟨k, rfl⟩ : ∃ k', k = k' + 1 := ⟨k - 1, by omega⟩
    exact .object hin hfr fun m hm => ih m hm (by omega)

/-! ## 3. The grammar is complete for the machine -/

namespace Scanner

/-- An escape letter after a backslash returns to the literal. -/
theorem literalBody_escape {x : UInt8} (hx : x ∈ escapeLetters) : LiteralBody [0x5C, x] := by
  intro s hp
  have h1 : s.step 0x5C = ({ s with phase := .inStringEsc }, .continue) := by
    unfold step; rw [hp]; rfl
  have h2 : ({ s with phase := .inStringEsc } : Scanner).step x =
      ({ s with phase := .inString }, .continue) := by
    simp only [escapeLetters, List.mem_cons, List.not_mem_nil, or_false] at hx
    rcases hx with rfl | rfl | rfl | rfl | rfl | rfl | rfl | rfl <;> rfl
  simp only [inside_cons, feed_cons, h1, h2, setPhase_inString hp]
  exact ⟨⟨rfl, rfl, trivial⟩, rfl⟩

/-- `\u` and four hexadecimal digits return to the literal. -/
theorem literalBody_unicode {a b c d : UInt8} (ha : isHex a = true) (hb : isHex b = true)
    (hc : isHex c = true) (hd : isHex d = true) : LiteralBody [0x5C, 0x75, a, b, c, d] := by
  intro s hp
  -- each digit moves the count of digits read on, and the fourth leaves the escape
  have hdigit : ∀ (k : Nat) (x : UInt8), isHex x = true →
      ({ s with phase := .inStringEscU k } : Scanner).step x =
        ({ s with phase := if k < 3 then .inStringEscU (k + 1) else .inString }, .continue) := by
    intro k x hx
    simp only [step, hx, ↓reduceIte]
  have h1 : s.step 0x5C = ({ s with phase := .inStringEsc }, .continue) := by
    unfold step; rw [hp]; rfl
  have h2 : ({ s with phase := .inStringEsc } : Scanner).step 0x75 =
      ({ s with phase := .inStringEscU 0 }, .continue) := rfl
  simp only [inside_cons, feed_cons, h1, h2, hdigit _ _ ha, hdigit _ _ hb, hdigit _ _ hc,
    hdigit _ _ hd, Nat.reduceAdd, Nat.reduceLT, ↓reduceIte, setPhase_inString hp]
  exact ⟨⟨rfl, rfl, rfl, rfl, rfl, rfl, trivial⟩, rfl⟩

/-- **A string body stays inside the literal.** -/
theorem literalBody_stringBody {body : Bytes} (h : StringBody body) : LiteralBody body := by
  induction h with
  | nil => exact literalBody_nil
  | plain h0 h1 h2 _ ih =>
    exact (literalBody_plain (b := [_]) (by simpa using ⟨h0, h1, h2⟩)).append ih
  | escape hx _ ih => exact (literalBody_escape hx).append ih
  | unicode ha hb hc hd _ ih => exact (literalBody_unicode ha hb hc hd).append ih

end Scanner

open Scanner

/-- **A string literal of the grammar is a string value.** -/
theorem isString_of_stringText {w : Bytes} (h : StringText w) : IsString w := by
  obtain ⟨body, rfl, hb⟩ := h
  rw [← List.cons_append]
  exact isString_of_literalBody (literalBody_stringBody hb)

/-- **Completeness.** A text of the grammar nesting at most `n ≤ maxDepth` deep is one value,
and the machine opens at most `n` containers at once over it. -/
theorem isValue_of_jsonText {n : Nat} {v : Bytes} (h : JsonText n v) :
    n ≤ maxDepth → IsValue v ∧ Scanner.peak {} v ≤ n := by
  induction h with
  | word hw =>
    obtain ⟨h1, h2⟩ := isValue_word hw
    exact fun _ => ⟨h1, by omega⟩
  | number hn =>
    obtain ⟨h1, h2⟩ := isValue_numberText hn
    exact fun _ => ⟨h1, by omega⟩
  | string hs =>
    have hw := isString_of_stringText hs
    exact fun _ => ⟨hw.1, by rw [peak_string hw]; omega⟩
  | @array n es inner hin hsp _ ih =>
    intro hn
    -- each element's value nests at most `n < maxDepth` deep, so it fits inside the array
    have hes : ∀ e ∈ es, e.Valid ∧ e.Fits ∧ Scanner.peak {} e.value ≤ n := by
      intro e he
      obtain ⟨hv, hpk⟩ := ih e he (by omega)
      exact ⟨⟨(hsp e he).1, hv, (hsp e he).2⟩, by unfold Element.Fits; omega, hpk⟩
    have hpeak := (feed_arrayText (fun e he => ⟨(hes e he).1, (hes e he).2.1⟩) hin).2.2
    have hmax : Element.maxPeak es ≤ n :=
      foldr_max_le fun x hx => by
        obtain ⟨e, he, rfl⟩ := List.mem_map.mp hx
        exact (hes e he).2.2
    exact ⟨isValue_arrayText (fun e he => ⟨(hes e he).1, (hes e he).2.1⟩) hin, by omega⟩
  | @object n ms inner hin hfr _ ih =>
    intro hn
    -- each member's value nests at most `n < maxDepth` deep, so it fits inside the object
    have hms : ∀ m ∈ ms, m.Valid ∧ m.Fits ∧ Scanner.peak {} m.value ≤ n := by
      intro m hm
      obtain ⟨hv, hpk⟩ := ih m hm (by omega)
      have hf := hfr m hm
      exact ⟨⟨hf.pre, isString_of_stringText hf.key, hf.mid, hf.post, hv, hf.trail⟩,
        by unfold Member.Fits; omega, hpk⟩
    have hpeak := peak_objectText (fun m hm => ⟨(hms m hm).1, (hms m hm).2.1⟩) hin
    have hmax : Member.maxPeak ms ≤ n :=
      foldr_max_le fun x hx => by
        obtain ⟨m, hm, rfl⟩ := List.mem_map.mp hx
        exact (hms m hm).2.2
    exact ⟨isValue_objectText (fun m hm => ⟨(hms m hm).1, (hms m hm).2.1⟩) hin, by omega⟩

end Json

end Inventory
