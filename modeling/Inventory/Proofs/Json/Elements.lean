import Inventory.Proofs.Json.Literals
import Inventory.Proofs.Document.Split
import Mathlib.Data.List.MinMax
/-!
# Every value is a text of the grammar

The converse of `isValue_of_jsonText`. Every array value is an array text of valid elements
that fit below the depth limit (`arrayText_of_isValue`); the split follows the run of the
machine as `objectText_of_isValue` does for objects: where an element is awaited, its value runs
as alone until the machine alone is done, and the byte that ends it is read as after a value
inside the array, where the comma or the closing bracket is found.

With scalars (`scalarText_of_isValue`) and objects, every value is a text of the grammar that
nests as deep as the machine opens containers over it (`jsonText_of_isValue`). So the grammar is
exactly what the machine takes (`isValue_iff_jsonText`).
-/

set_option autoImplicit false

namespace Inventory

open Json

namespace Json.Scanner

/-! ## 1. The elements of an array -/

/-- What may follow an element: a comma or the closing bracket. -/
def FollowsElement (z : Bytes) : Prop := ∃ c t, z = c :: t ∧ (c = 0x2C ∨ c = 0x5D)

/-- **What follows an element's value**: blanks, then a comma or the closing bracket. -/
theorem split_elementSeparator {value : Bytes} (hv : IsValue value) {x : Bytes}
    (h : Inside (embed [.arrayValue] (({} : Scanner).feed value)) x)
    (hend : ((embed [.arrayValue] (({} : Scanner).feed value)).feed x).stack = [])
    (h0 : ∀ c ∈ x.head?, (embed [.arrayValue] (({} : Scanner).feed value)).step c =
      (embed [.arrayValue] (({} : Scanner).feed value)).atEndValue c) :
    ∃ trail z, x = trail ++ z ∧ (∀ c ∈ trail, isBlank c = true) ∧ FollowsElement z := by
  have hs : (embed [.arrayValue] (({} : Scanner).feed value)).stack = [.arrayValue] := by
    simp [hv.ended.stack]
  obtain ⟨ws, e, z, rfl, hws, hb, h1, -, -⟩ := split_afterValue_closed hs h hend h0
  rcases atEndValue_cases e .arrayValue with ⟨hb', -⟩ | ⟨hf, -⟩ | ⟨hf, -⟩ | ⟨hf, -⟩ |
    ⟨-, rfl, -⟩ | ⟨-, rfl, -⟩ | ⟨q, hm⟩
  · rw [hb'] at hb; cases hb
  · cases hf
  · cases hf
  · cases hf
  · exact ⟨ws, _, rfl, hws, _, _, rfl, .inl rfl⟩
  · exact ⟨ws, _, rfl, hws, _, _, rfl, .inr rfl⟩
  · rw [hm _ [] hs] at h1; cases h1

/-- **An element and what follows it.** Where an element is awaited, and the array is not closed
at once, come one valid element that fits inside the array and then a comma or the closing
bracket. -/
theorem split_element {p : Phase} (hp : p = .beginValue ∨ p = .beginValueOrEmpty) {x : Bytes}
    (h : Inside (elementWait p) x) (hend : ((elementWait p).feed x).stack = [])
    (hne : p = .beginValueOrEmpty → ∀ c ∈ (skipBlanks x).head?, c ≠ 0x5D) :
    ∃ (e : Element) (z : Bytes), x = e.text ++ z ∧ e.Valid ∧ e.Fits ∧ FollowsElement z := by
  obtain ⟨pre, hx, hpre⟩ := exists_blanks_split x
  have hwait : (elementWait p).phase.waits = true := by rcases hp with rfl | rfl <;> rfl
  obtain ⟨-, b2⟩ := feed_blanks hwait hpre
  have hlead := head_skipBlanks x
  rw [hx, inside_append, b2] at h
  rw [hx, feed_append, b2] at hend
  generalize hy : skipBlanks x = y at h hend hne hlead hx
  -- from here the element's value runs as after a comma, that is as alone under the array
  have hsame : Inside (elementWait .beginValue) y ∧
      ((elementWait .beginValue).feed y).stack = [] := by
    rcases hp with rfl | rfl
    · exact ⟨h.2, hend⟩
    · cases y with
      | nil => simp [elementWait] at hend
      | cons c y =>
        obtain ⟨i, f, -⟩ := run_of_step_eq (step_beginValueOrEmpty (hlead c rfl) (hne rfl c rfl))
          rfl y
        exact ⟨i.mp h.2, f ▸ hend⟩
  obtain ⟨hin, hst⟩ := hsame
  rw [elementWait_beginValue] at hin hst
  rcases @embed_split [.arrayValue] (by simp) y {} good_start (by simp [maxDepth]) hin with
    ⟨-, hfeed⟩ | ⟨a, c, b, rfl, ha, hpeak, hfa, hdone, hnext⟩
  · -- a value that never ends leaves the array open
    rw [hfeed] at hst; simp at hst
  · have hv : IsValue a := by
      refine ⟨ha, step_done (good_feed good_start ha) hdone, fun e he => ?_⟩
      cases a with
      | nil => cases he
      | cons a0 a => exact hlead e (by simpa using he)
    rw [feed_append, hfa] at hst
    rw [inside_append, hfa] at hin
    obtain ⟨trail, z, hcz, htrail, hz⟩ := split_elementSeparator hv hin.2 hst (by
      intro e he; obtain rfl : c = e := by simpa using he
      exact hnext)
    refine ⟨⟨pre, a, trail⟩, z, by simp [hx, hcz, Element.text], ⟨hpre, hv, htrail⟩, ?_, hz⟩
    simp only [List.length_singleton] at hpeak
    show Scanner.peak {} a < maxDepth
    omega

/-- **The elements after the first**: after an element, what the run takes up to the end of the
array is the comma-led elements that follow, each valid and fitting, and the closing bracket. -/
theorem elementsTail_of_run (n : Nat) : ∀ {u : Scanner} {z : Bytes}, z.length ≤ n →
    AfterElement u → Inside u z → (u.feed z).stack = [] → FollowsElement z →
    ∃ es : List Element, z = elementsTail es ∧ ∀ e ∈ es, e.Valid ∧ e.Fits := by
  induction n with
  | zero =>
    intro u z hn _ _ _ hz
    obtain ⟨c, t, rfl, -⟩ := hz
    simp at hn
  | succ n ih =>
    intro u z hn hu h hend hz
    obtain ⟨c, t, rfl, rfl | rfl⟩ := hz
    · -- a comma: the next element, then the rest by induction
      obtain ⟨-, h2⟩ := h
      rw [step_array_comma hu] at h2
      rw [feed_cons, step_array_comma hu] at hend
      obtain ⟨e, z, rfl, he, hf, hz⟩ := split_element (.inl rfl) h2 hend (by simp)
      obtain ⟨i1, i2, -⟩ := feed_element (.inl rfl) he hf
      rw [inside_append] at h2
      rw [feed_append] at hend
      obtain ⟨es, rfl, hes⟩ := ih (by simp at hn; omega) i2 h2.2 hend hz
      refine ⟨e :: es, rfl, ?_⟩
      intro e' he'
      rcases List.mem_cons.mp he' with rfl | he'
      · exact ⟨he, hf⟩
      · exact hes e' he'
    · -- the closing bracket ends the array, and nothing follows it
      obtain ⟨-, h2⟩ := h
      rw [step_closeBracket hu] at h2
      obtain rfl := eq_nil_of_inside_objectDone h2
      exact ⟨[], rfl, by simp⟩

end Json.Scanner

open Json.Scanner

/-- **Every array value is an array text** of valid elements that fit inside it. -/
theorem arrayText_of_isValue {T : Bytes} (hv : IsValue T) (hT : T.head? = some 0x5B) :
    ∃ (es : List Element) (inner : Bytes), T = arrayText es inner ∧
      (∀ c ∈ inner, isBlank c = true) ∧ ∀ e ∈ es, e.Valid ∧ e.Fits := by
  obtain ⟨c, x, rfl⟩ := List.exists_cons_of_ne_nil hv.ne_nil
  obtain rfl : c = 0x5B := by simpa using hT
  have h := hv.inside
  have hend := hv.ended.stack
  rw [inside_cons, step_open_array] at h
  rw [feed_cons, step_open_array] at hend
  by_cases hc : (skipBlanks x).head? = some 0x5D
  · -- an array without elements
    obtain ⟨inner, hx, hin⟩ := exists_blanks_split x
    obtain ⟨y, hy⟩ : ∃ y, skipBlanks x = 0x5D :: y := by
      cases hs : skipBlanks x with
      | nil => rw [hs] at hc; cases hc
      | cons d y =>
        rw [hs] at hc
        obtain rfl : d = 0x5D := by simpa using hc
        exact ⟨y, rfl⟩
    obtain ⟨-, b2⟩ := feed_blanks (s := elementWait .beginValueOrEmpty) rfl hin
    have h2 := h.2
    rw [hx, hy, inside_append, b2, inside_cons, step_emptyArray] at h2
    obtain rfl := eq_nil_of_inside_objectDone h2.2.2
    exact ⟨[], inner, by rw [hx, hy]; rfl, hin, by simp⟩
  · obtain ⟨e, z, rfl, he, hf, hz⟩ := split_element (.inr rfl) h.2 hend (fun _ c hc' => by
      rintro rfl; exact hc (by simpa using hc'))
    obtain ⟨i1, i2, -⟩ := feed_element (.inr rfl) he hf
    have h2 := h.2
    rw [inside_append] at h2
    rw [feed_append] at hend
    obtain ⟨es, rfl, hes⟩ := elementsTail_of_run _ le_rfl i2 h2.2 hend hz
    refine ⟨e :: es, [], rfl, by simp, ?_⟩
    intro e' he'
    rcases List.mem_cons.mp he' with rfl | he'
    · exact ⟨he, hf⟩
    · exact hes e' he'

/-! ## 2. The values inside a container are shorter than it -/

theorem length_value_lt_arrayText {es : List Element} {e : Element} (he : e ∈ es) (inner : Bytes) :
    e.value.length < (arrayText es inner).length := by
  -- the value is an infix of what follows the opening bracket
  have hsub : ∀ {es : List Element}, e ∈ es → e.value <:+: elementsTail es := by
    intro es he
    induction es with
    | nil => cases he
    | cons e' es ih =>
      rcases List.mem_cons.mp he with rfl | he
      · exact ⟨0x2C :: e.pre, e.trail ++ elementsTail es, by simp [elementsTail, Element.text]⟩
      · exact (ih he).trans ⟨0x2C :: e'.text, [], by simp [elementsTail]⟩
  cases es with
  | nil => cases he
  | cons e' es =>
    have h : e.value <:+: e'.text ++ elementsTail es := by
      rcases List.mem_cons.mp he with rfl | he
      · exact ⟨e.pre, e.trail ++ elementsTail es, by simp [Element.text]⟩
      · exact (hsub he).trans (List.suffix_append _ _).isInfix
    have := h.length_le
    simp only [arrayText, List.length_cons]
    omega

theorem length_value_lt_objectText {ms : List Member} {m : Member} (hm : m ∈ ms) (inner : Bytes) :
    m.value.length < (objectText ms inner).length := by
  -- the value is an infix of what follows the opening brace
  have hsub : ∀ {ms : List Member}, m ∈ ms → m.value <:+: membersTail ms := by
    intro ms hm
    induction ms with
    | nil => cases hm
    | cons m' ms ih =>
      rcases List.mem_cons.mp hm with rfl | hm
      · exact ⟨0x2C :: (m.pre ++ m.key ++ m.mid ++ 0x3A :: m.post), m.trail ++ membersTail ms,
          by simp [membersTail, Member.text]⟩
      · exact (ih hm).trans ⟨0x2C :: m'.text, [], by simp [membersTail]⟩
  cases ms with
  | nil => cases hm
  | cons m' ms =>
    have h : m.value <:+: m'.text ++ membersTail ms := by
      rcases List.mem_cons.mp hm with rfl | hm
      · exact ⟨m.pre ++ m.key ++ m.mid ++ 0x3A :: m.post, m.trail ++ membersTail ms,
          by simp [Member.text]⟩
      · exact (hsub hm).trans (List.suffix_append _ _).isInfix
    have := h.length_le
    simp only [objectText, List.length_cons]
    omega

/-! ## 3. Soundness -/

/-- Values that each nest below the limit nest, at their deepest, below it. -/
theorem foldr_max_lt_maxDepth {l : List Nat} (h : ∀ x ∈ l, x < maxDepth) :
    l.foldr max 0 < maxDepth := by
  have hle := foldr_max_le (n := maxDepth - 1) fun x hx => Nat.le_sub_one_of_lt (h x hx)
  have hpos : 0 < maxDepth := by decide
  omega

/-- **Soundness.** Every value is a text of the grammar, nesting as deep as the machine opens
containers over it, which is within the limit. -/
theorem jsonText_of_isValue (n : Nat) : ∀ {v : Bytes}, v.length ≤ n → IsValue v →
    JsonText (Scanner.peak {} v) v ∧ Scanner.peak {} v ≤ maxDepth := by
  induction n with
  | zero =>
    intro v hn hv
    exact absurd (List.eq_nil_of_length_eq_zero (by omega)) hv.ne_nil
  | succ n ih =>
    intro v hn hv
    by_cases h0 : v.head? = some 0x7B
    · -- an object: its members' values are shorter, and nest one level less
      obtain ⟨ms, inner, rfl, hin, hms⟩ := objectText_of_isValue hv h0
      have hpeak := peak_objectText hms hin
      have hval : ∀ m ∈ ms, JsonText (Member.maxPeak ms) m.value := fun m hm =>
        ((ih (by have := length_value_lt_objectText hm inner; omega) (hms m hm).1.value).1).mono
          (List.le_max_of_le' 0 (List.mem_map.mpr ⟨m, hm, rfl⟩) le_rfl)
      have hframed : ∀ m ∈ ms, m.Framed := fun m hm =>
        have hv := (hms m hm).1
        ⟨hv.pre, stringText_of_isString hv.key, hv.mid, hv.post, hv.trail⟩
      have hmax : Member.maxPeak ms < maxDepth :=
        foldr_max_lt_maxDepth fun x hx => by
          obtain ⟨m, hm, rfl⟩ := List.mem_map.mp hx
          exact (hms m hm).2
      rw [hpeak]
      exact ⟨.object hin hframed hval, hmax⟩
    by_cases h1 : v.head? = some 0x5B
    · -- an array: its elements' values are shorter, and nest one level less
      obtain ⟨es, inner, rfl, hin, hes⟩ := arrayText_of_isValue hv h1
      have hpeak := (feed_arrayText hes hin).2.2
      have hval : ∀ e ∈ es, JsonText (Element.maxPeak es) e.value := fun e he =>
        ((ih (by have := length_value_lt_arrayText he inner; omega) (hes e he).1.value).1).mono
          (List.le_max_of_le' 0 (List.mem_map.mpr ⟨e, he, rfl⟩) le_rfl)
      have hmax : Element.maxPeak es < maxDepth :=
        foldr_max_lt_maxDepth fun x hx => by
          obtain ⟨e, he, rfl⟩ := List.mem_map.mp hx
          exact (hes e he).2
      rw [hpeak]
      exact ⟨.array hin (fun e he => ⟨(hes e he).1.pre, (hes e he).1.trail⟩) hval, hmax⟩
    · -- a scalar nests nothing
      have hs := scalarText_of_isValue hv h0 h1
      have hz : Scanner.peak {} v = 0 := by
        rcases hs with hs | hs | hs
        · exact peak_string (isString_of_stringText hs)
        · exact (isValue_numberText hs).2
        · exact (isValue_word hs).2
      rw [hz]
      refine ⟨?_, Nat.zero_le _⟩
      rcases hs with hs | hs | hs
      · exact .string hs
      · exact .number hs
      · exact .word hs

/-- **The grammar is what the machine takes.** A byte string is one value exactly when it is a
text of the grammar nesting at most `maxDepth` levels deep. -/
theorem isValue_iff_jsonText {v : Bytes} : IsValue v ↔ JsonText maxDepth v := by
  constructor
  · intro hv
    obtain ⟨ht, hd⟩ := jsonText_of_isValue _ le_rfl hv
    exact ht.mono hd
  · intro ht
    exact (isValue_of_jsonText ht le_rfl).1

end Inventory
