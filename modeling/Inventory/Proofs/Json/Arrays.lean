import Inventory.Proofs.Document.Members
/-!
# Array texts

An array text is `[`, its elements separated by commas, and `]`; each element is one value with
blanks before and after it, and an array without elements holds blanks only (`arrayText`). The
machine reads an array text as it reads an object text (`Inventory.Proofs.Document.Members`):

* right after `[` a value may start as anywhere a value is awaited, so each element's value runs
  as alone under the array (`feed_element`), provided it nests below the limit with the array
  around it (`Element.Fits`);
* after an element the machine waits for a comma or for `]`, whatever the element was
  (`AfterElement`), and `]` ends the array as `}` ends an object;
* the array nests one level deeper than its deepest element (`peak_arrayText`).

So an array text whose elements are values that fit is one value (`isValue_arrayText`).
-/

set_option autoImplicit false

namespace Inventory.Json

/-! ## 1. Elements -/

/-- **One element of an array text** with the blanks around it: `pre value trail`. -/
structure Element where
  pre : Bytes
  value : Bytes
  trail : Bytes

namespace Element

/-- The bytes of an element. -/
def text (e : Element) : Bytes := e.pre ++ e.value ++ e.trail

/-- An element as the grammar has it: one value between blanks. -/
structure Valid (e : Element) : Prop where
  pre : ∀ c ∈ e.pre, isBlank c = true
  value : IsValue e.value
  trail : ∀ c ∈ e.trail, isBlank c = true

/-- The value nests shallowly enough to stand inside an array. -/
def Fits (e : Element) : Prop := Scanner.peak {} e.value < maxDepth

end Element

/-- The elements after the first, each behind a comma, and the closing bracket. -/
def elementsTail : List Element → Bytes
  | [] => [0x5D]
  | e :: es => 0x2C :: (e.text ++ elementsTail es)

/-- **An array text**: `[`, the elements separated by commas, `]`. An array without elements
holds the blanks `inner`. -/
def arrayText : List Element → Bytes → Bytes
  | [], inner => 0x5B :: (inner ++ [0x5D])
  | e :: es, _ => 0x5B :: (e.text ++ elementsTail es)

/-- The deepest nesting among the elements' values. -/
def Element.maxPeak (es : List Element) : Nat := (es.map fun e => Scanner.peak {} e.value).foldr max 0

namespace Scanner

/-! ## 2. Runs that start alike -/

/-- Two states of one depth that read a byte alike read every run starting with it alike. -/
theorem run_of_step_eq {s s' : Scanner} {c : UInt8} (h : s.step c = s'.step c)
    (hd : s.depth = s'.depth) (bs : Bytes) :
    (Inside s (c :: bs) ↔ Inside s' (c :: bs)) ∧ s.feed (c :: bs) = s'.feed (c :: bs) ∧
      s.peak (c :: bs) = s'.peak (c :: bs) := by
  simp only [inside_cons, feed_cons, peak, h, hd, and_self]

/-! ## 3. The machine inside an array -/

/-- The machine inside an array, waiting for an element: right after `[`, or after a comma. -/
def elementWait (p : Phase) : Scanner := { phase := p, stack := [.arrayValue], depth := 1 }

/-- **After an element**, before its comma or the closing bracket: one array open, its value
over or a number in it that may end here, nothing refused. -/
structure AfterElement (u : Scanner) : Prop where
  stack : u.stack = [.arrayValue]
  depth : u.depth = 1
  endTop : u.endTop = false
  err : u.err = none
  closes : u.phase.closes = true

theorem step_open_array :
    ({} : Scanner).step 0x5B = (elementWait .beginValueOrEmpty, .beginArray) :=
  rfl

/-- After a comma the machine waits for a value as the fresh machine does, under the array. -/
theorem elementWait_beginValue : elementWait .beginValue = embed [.arrayValue] {} := by
  rw [embed_start]
  rfl

/-- Right after `[`, a byte that is neither blank nor `]` is read as where a value must start. -/
theorem step_beginValueOrEmpty {c : UInt8} (hb : isBlank c = false) (hc : c ≠ 0x5D) :
    (elementWait .beginValueOrEmpty).step c = (elementWait .beginValue).step c := by
  have hc' : (c == 0x5D) = false := by simpa using hc
  simp only [step, hb, hc', Bool.false_eq_true, ↓reduceIte, elementWait]
  unfold atBeginValue push fail
  simp only [hb, Bool.false_eq_true, ↓reduceIte]

/-- A value never starts with `]`. -/
theorem IsValue.head_ne_close {v : Bytes} (hv : IsValue v) : ∀ r, v ≠ 0x5D :: r := by
  rintro r rfl
  have h := hv.inside
  rw [inside_cons] at h
  exact absurd h.1 (by decide)

/-- **An element's value and the blanks around it**, where an element is awaited and within
the limit with the array around it: the value runs as alone, and the array nests one level
deeper than the value. -/
theorem feed_element {p : Phase} (hp : p = .beginValue ∨ p = .beginValueOrEmpty) {e : Element}
    (he : e.Valid) (hf : e.Fits) :
    Inside (elementWait p) e.text ∧ AfterElement ((elementWait p).feed e.text) ∧
      (elementWait p).peak e.text = peak {} e.value + 1 := by
  have hwait : (elementWait p).phase.waits = true := by rcases hp with rfl | rfl <;> rfl
  obtain ⟨hpre1, hpre2⟩ := feed_blanks hwait he.pre
  have hpre3 := peak_blanks hwait he.pre
  -- the value from where the element is awaited runs as from after a comma
  have hpeak : ({} : Scanner).peak e.value + [Frame.arrayValue].length ≤ maxDepth := by
    simp only [List.length_singleton]; exact hf
  obtain ⟨hv1, hv2⟩ := feed_embed (by simp) good_start he.value.inside hpeak
  have hv3 := peak_embed (by simp) good_start he.value.inside hpeak
  rw [← elementWait_beginValue] at hv1 hv2 hv3
  have hsame : Inside (elementWait p) e.value ∧
      (elementWait p).feed e.value = (elementWait .beginValue).feed e.value ∧
      (elementWait p).peak e.value = (elementWait .beginValue).peak e.value := by
    rcases hp with rfl | rfl
    · exact ⟨hv1, rfl, rfl⟩
    · obtain ⟨c, r, hcr, hlead⟩ := he.value.exists_lead
      have hc : c ≠ 0x5D := by
        rintro rfl
        exact IsValue.head_ne_close he.value r hcr
      obtain ⟨i, f, k⟩ := run_of_step_eq (step_beginValueOrEmpty hlead hc) rfl r
      rw [hcr] at hv1 ⊢
      exact ⟨i.mpr hv1, f, k⟩
  obtain ⟨hin, hfeed, hpk⟩ := hsame
  -- after the value, the machine stands after a value inside the array
  have hend := he.value.ended
  have hclose : (embed [.arrayValue] (({} : Scanner).feed e.value)).phase.closes = true := by
    simpa using hend.lift_closes
  obtain ⟨q, hq, ht1, ht2, -⟩ := feed_blanks_after hclose (by simp) he.trail
  have ht3 := peak_blanks_after hclose (by simp) he.trail
  refine ⟨?_, ?_, ?_⟩
  · rw [Element.text, inside_append, inside_append, feed_append, hpre2, hfeed, hv2]
    exact ⟨⟨hpre1, hin⟩, ht1⟩
  · rw [Element.text, feed_append, feed_append, hpre2, hfeed, hv2, ht2]
    exact ⟨by simp [hend.stack], by simp [he.value.depth_feed], rfl, by simp [hend.err], hq⟩
  · rw [Element.text, peak_append, peak_append, feed_append, hpre2, hfeed, hpre3, hpk, hv3,
      hv2, ht3]
    simp only [embed_depth, he.value.depth_feed, elementWait, List.length_singleton]
    omega

/-- The state after an array or an object: nothing open, the top-level value over. -/
theorem AfterElement.eq {u : Scanner} (hu : AfterElement u) :
    u = { phase := u.phase, stack := [.arrayValue], depth := 1 } := by
  obtain ⟨ph, st, d, e, r⟩ := u
  obtain ⟨hs, hd, he, hr, -⟩ := hu
  simp only at hs hd he hr
  subst hs hd he hr
  rfl

/-- After an element, a comma waits for the next one. -/
theorem step_array_comma {u : Scanner} (hu : AfterElement u) :
    u.step 0x2C = (elementWait .beginValue, .arrayValue) := by
  rw [step_of_closes hu.closes rfl (by decide) (by decide) (by decide), hu.eq]
  rfl

/-- After an element, the closing bracket ends the array. -/
theorem step_closeBracket {u : Scanner} (hu : AfterElement u) :
    u.step 0x5D = (objectDone, .endArray) := by
  rw [step_of_closes hu.closes rfl (by decide) (by decide) (by decide), hu.eq]
  rfl

/-- An array without elements closes at its bracket. -/
theorem step_emptyArray : (elementWait .beginValueOrEmpty).step 0x5D = (objectDone, .endArray) :=
  rfl

/-- **The elements after the first**, each within the limit: the machine ends the array at the
closing bracket, nesting one level deeper than the deepest value. -/
theorem feed_elementsTail {es : List Element} (hes : ∀ e ∈ es, e.Valid ∧ e.Fits) :
    ∀ {u : Scanner}, AfterElement u →
      Inside u (elementsTail es) ∧ u.feed (elementsTail es) = objectDone ∧
        u.peak (elementsTail es) = Element.maxPeak es + 1 := by
  induction es with
  | nil =>
    intro u hu
    simp only [elementsTail, inside_cons, feed_cons, peak, step_closeBracket hu, hu.depth]
    exact ⟨⟨rfl, trivial⟩, rfl, rfl⟩
  | cons e es ih =>
    intro u hu
    obtain ⟨he, hf⟩ := hes e (by simp)
    obtain ⟨h1, h2, h3⟩ := feed_element (.inl rfl) he hf
    obtain ⟨i1, i2, i3⟩ := ih (fun e' h => hes e' (by simp [h])) h2
    simp only [elementsTail, inside_cons, feed_cons, step_array_comma hu, inside_append,
      feed_append, peak, peak_append, h3, i3, hu.depth, Element.maxPeak, List.map_cons,
      List.foldr_cons]
    refine ⟨⟨rfl, h1, i1⟩, i2, ?_⟩
    simp only [Element.maxPeak] at i3
    omega

/-- **The machine over an array text** whose values all fit: the text is taken whole, and nests
one level deeper than its deepest value. -/
theorem feed_arrayText {es : List Element} (hes : ∀ e ∈ es, e.Valid ∧ e.Fits) {inner : Bytes}
    (hin : ∀ c ∈ inner, isBlank c = true) :
    Inside {} (arrayText es inner) ∧ ({} : Scanner).feed (arrayText es inner) = objectDone ∧
      ({} : Scanner).peak (arrayText es inner) = Element.maxPeak es + 1 := by
  cases es with
  | nil =>
    obtain ⟨b1, b2⟩ := feed_blanks (s := elementWait .beginValueOrEmpty) rfl hin
    have b3 := peak_blanks (s := elementWait .beginValueOrEmpty) rfl hin
    simp only [arrayText, inside_cons, feed_cons, peak, step_open_array, inside_append,
      feed_append, peak_append, b2, b3, step_emptyArray]
    exact ⟨⟨rfl, b1, rfl, trivial⟩, rfl, rfl⟩
  | cons e es =>
    obtain ⟨he, hf⟩ := hes e (by simp)
    obtain ⟨h1, h2, h3⟩ := feed_element (.inr rfl) he hf
    obtain ⟨i1, i2, i3⟩ := @feed_elementsTail es (fun e' h => hes e' (by simp [h])) _ h2
    simp only [arrayText, inside_cons, feed_cons, peak, step_open_array, inside_append,
      feed_append, peak_append, h3, i3, Element.maxPeak, List.map_cons, List.foldr_cons]
    refine ⟨⟨rfl, h1, i1⟩, i2, ?_⟩
    simp only [Element.maxPeak] at i3
    show max 0 (max (peak {} e.value + 1) (_ + 1)) = _
    omega

end Scanner

open Scanner

/-- **An array text whose values fit below the depth limit is one value.** -/
theorem isValue_arrayText {es : List Element} (hes : ∀ e ∈ es, e.Valid ∧ e.Fits) {inner : Bytes}
    (hin : ∀ c ∈ inner, isBlank c = true) : IsValue (arrayText es inner) := by
  obtain ⟨h1, h2, -⟩ := feed_arrayText hes hin
  refine ⟨h1, h2 ▸ objectDone_ended, ?_⟩
  cases es <;> simp [arrayText, isBlank]

end Inventory.Json
