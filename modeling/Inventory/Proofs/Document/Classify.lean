import Inventory.Proofs.Json.Elements
import Inventory.Proofs.Json.Stream
import Inventory.Proofs.Document.Reading
/-!
# Which texts the document reader accepts, and how it refuses the others

`Document.parse` accepts exactly the document texts of the grammar: blanks, an object text and
blanks, the object's keys string literals and its values JSON texts nesting at most `maxDepth`
deep (`parse_ok_iff_documentText`). A refusal is classified by the text alone
(`parse_classification`):

* **empty**: nothing but blanks;
* **not an object**: after blanks, an array's opening bracket, or a scalar read as far as it
  goes (`LeadingScalar`) that is no number beyond a double (`Overflows`);
* **trailing data**: an object of the grammar and blanks, then a byte that is not blank;
* **not JSON**: every other text.

The reader reads a first value that is no object whole, as a decoder into doubles does; so a
leading number that rounds to infinity as a double is refused as malformed, not as a value that
is no object. `1e400` is a scalar the machine completes, and the reader refuses it as not JSON
(`parse_overflowing_number`).

Every branch of the reader is read once, in `failure_of_parse`; the classes exclude one another
by the first byte after the blanks, which is what the head lemmas (`StartsNonObject.head`,
`TrailsObject.head`) say.
-/

set_option autoImplicit false

namespace Inventory

open Json

/-! ## 1. The grammar of a document -/

/-- **An object text of the grammar**: its members' keys are string literals and their values
JSON texts nesting at most `maxDepth` deep, with blanks where blanks may stand. -/
def JsonObject (O : Bytes) : Prop :=
  ∃ ms inner, O = objectText ms inner ∧ (∀ c ∈ inner, isBlank c = true) ∧
    ∀ m ∈ ms, m.Framed ∧ JsonText maxDepth m.value

/-- **A document text**: blanks, an object text of the grammar, blanks. -/
def DocumentText (raw : Bytes) : Prop :=
  ∃ ws O ws', raw = ws ++ O ++ ws' ∧ (∀ c ∈ ws, isBlank c = true) ∧ JsonObject O ∧
    ∀ c ∈ ws', isBlank c = true

/-- A member the machine takes is a member of the grammar, and back. -/
theorem Member.valid_iff {m : Member} : m.Valid ↔ m.Framed ∧ JsonText maxDepth m.value := by
  constructor
  · intro hm
    exact ⟨⟨hm.pre, stringText_of_isString hm.key, hm.mid, hm.post, hm.trail⟩,
      isValue_iff_jsonText.mp hm.value⟩
  · rintro ⟨hf, hv⟩
    exact ⟨hf.pre, isString_of_stringText hf.key, hf.mid, hf.post, isValue_iff_jsonText.mpr hv,
      hf.trail⟩

/-- **The reader accepts exactly the document texts.** -/
theorem parse_ok_iff_documentText {raw : Bytes} :
    (∃ D, Document.parse raw = .ok D) ↔ DocumentText raw := by
  constructor
  · rintro ⟨D, h⟩
    obtain ⟨ms, ⟨ws, inner, ws', hraw, hws, hin, hws', hms⟩, -⟩ := parse_eq_ok_iff.mp h
    exact ⟨ws, objectText ms inner, ws', hraw, hws,
      ⟨ms, inner, rfl, hin, fun m hm => Member.valid_iff.mp (hms m hm)⟩, hws'⟩
  · rintro ⟨ws, _, ws', rfl, hws, ⟨ms, inner, rfl, hin, hms⟩, hws'⟩
    exact ⟨_, parse_objectText (fun m hm => Member.valid_iff.mpr (hms m hm)) hin hws hws'⟩

/-! ## 2. A first value that is no object -/

theorem skipBlanks_eq_nil_iff {bs : Bytes} : skipBlanks bs = [] ↔ ∀ c ∈ bs, isBlank c = true :=
  List.dropWhile_eq_nil_iff

/-- **A text that starts, after blanks, with a value that is no object**: an array's opening
bracket, or a scalar read as far as it goes that is no number beyond a double. -/
def StartsNonObject (raw : Bytes) : Prop :=
  ∃ ws rest, raw = ws ++ rest ∧ (∀ c ∈ ws, isBlank c = true) ∧
    (rest.head? = some 0x5B ∨ ∃ v, LeadingScalar rest v ∧ ¬ Overflows v)

/-- A scalar read from a stream is the stream's first bytes. -/
theorem Json.LeadingScalar.exists_cons {c : UInt8} {more v : Bytes}
    (h : LeadingScalar (c :: more) v) : ∃ r, v = c :: r := by
  obtain ⟨hs, after, hbs, -⟩ := h
  obtain ⟨d, r, rfl⟩ := List.exists_cons_of_ne_nil hs.isValue.ne_nil
  rw [List.cons_append, List.cons.injEq] at hbs
  exact ⟨r, by rw [hbs.1]⟩

/-- **What a scalar starts with**: no opening brace or bracket, and no closing bracket, colon or
comma, since from nothing open the machine takes its first byte as the start of a literal. -/
theorem Json.LeadingScalar.head {c : UInt8} {more v : Bytes}
    (h : LeadingScalar (c :: more) v) :
    c ≠ 0x7B ∧ c ≠ 0x5B ∧ (c == 0x5D || c == 0x7D || c == 0x3A || c == 0x2C) = false := by
  obtain ⟨r, rfl⟩ := h.exists_cons
  obtain ⟨h0, h1⟩ := h.1.head_ne
  refine ⟨fun hc => h0 (by simp [hc]), fun hc => h1 (by simp [hc]), ?_⟩
  obtain ⟨q, -, hstep⟩ := step_scalarText_head h.1
  have hcode := congrArg Prod.snd hstep
  cases hc : (c == 0x5D || c == 0x7D || c == 0x3A || c == 0x2C)
  · rfl
  · -- the machine refuses each of these bytes, so none starts a literal
    simp only [Bool.or_eq_true, beq_iff_eq] at hc
    rcases hc with ((rfl | rfl) | rfl) | rfl <;> cases hcode

/-- **What a text that starts with a value that is no object starts with**, once its blanks
are skipped. -/
theorem startsNonObject_iff {raw : Bytes} :
    StartsNonObject raw ↔ ∃ c more, skipBlanks raw = c :: more ∧
      (c = 0x5B ∨ ∃ v, LeadingScalar (c :: more) v ∧ ¬ Overflows v) := by
  constructor
  · rintro ⟨ws, rest, rfl, hws, hrest⟩
    cases rest with
    | nil =>
      rcases hrest with hb | ⟨v, ⟨hs, after, hnil, -⟩, -⟩
      · cases hb
      · exact absurd (List.append_eq_nil_iff.mp hnil.symm).1 hs.isValue.ne_nil
    | cons c more =>
      -- the value starts with a byte that is not blank, so only `ws` is skipped
      have hc : isBlank c = false := by
        rcases hrest with hb | ⟨v, hv, -⟩
        · obtain rfl : c = 0x5B := by simpa using hb
          rfl
        · obtain ⟨r, rfl⟩ := hv.exists_cons
          exact hv.1.isValue.lead c rfl
      refine ⟨c, more, by rw [skipBlanks_blanks_append hws, skipBlanks_cons_of_lead hc], ?_⟩
      rcases hrest with hb | hv
      · exact .inl (by simpa using hb)
      · exact .inr hv
  · rintro ⟨c, more, hs, hrest⟩
    obtain ⟨ws, hraw, hws⟩ := exists_blanks_split raw
    refine ⟨ws, c :: more, by rw [hraw, hs], hws, ?_⟩
    rcases hrest with rfl | hv
    · exact .inl rfl
    · exact .inr hv

/-- A text that starts with a value that is no object starts with no opening brace. -/
theorem StartsNonObject.head {raw : Bytes} (h : StartsNonObject raw) :
    ∃ c more, skipBlanks raw = c :: more ∧ c ≠ 0x7B := by
  obtain ⟨c, more, hs, hrest⟩ := startsNonObject_iff.mp h
  refine ⟨c, more, hs, ?_⟩
  rcases hrest with rfl | ⟨v, hv, -⟩
  · decide
  · exact hv.head.1

/-- Once the first byte past the blanks is known, a text starts with a value that is no object
when that byte is `[`, or starts a scalar read as far as it goes that is no number beyond a
double. -/
theorem startsNonObject_iff_of_skipBlanks {raw more : Bytes} {c : UInt8}
    (hs : skipBlanks raw = c :: more) :
    StartsNonObject raw ↔ c = 0x5B ∨ ∃ v, LeadingScalar (c :: more) v ∧ ¬ Overflows v := by
  rw [startsNonObject_iff, hs]
  constructor
  · rintro ⟨c', more', hcm, hq⟩
    obtain ⟨rfl, rfl⟩ := List.cons.inj hcm
    exact hq
  · exact fun hq => ⟨c, more, rfl, hq⟩

/-- **Reading a whole first value that starts with neither a brace nor a bracket** succeeds
exactly when the stream starts with a scalar read as far as it goes that is no number beyond a
double. -/
theorem readScalar_eq_ok_iff {c : UInt8} {more : Bytes} (hb : isBlank c = false)
    (h0 : c ≠ 0x7B) (h1 : c ≠ 0x5B) :
    readScalar (c :: more) = .ok () ↔ ∃ v, LeadingScalar (c :: more) v ∧ ¬ Overflows v := by
  constructor
  · intro h
    unfold readScalar at h
    cases hd : Value.decodeFirst (c :: more) with
    | error e =>
      rw [hd] at h
      cases h
    | ok p =>
      obtain ⟨val, rest⟩ := p
      obtain ⟨v, -, hlead, hval⟩ := exists_scalar_of_decodeFirst hb h0 h1 hd
      refine ⟨v, hlead, ?_⟩
      -- a number beyond a double is refused once it is read
      rintro ⟨hnum, hover⟩
      rw [hd, hval, literalValue_of_numberText hnum] at h
      simp [hover] at h
  · rintro ⟨v, ⟨hs, after, hbs, hafter⟩, hno⟩
    unfold readScalar
    rw [hbs, decodeFirst_scalar hs hafter]
    split
    · rename_i e he
      cases he
    · rename_i lit rest he
      -- the literal read is a number, so the scalar is a number text within a double's range
      have hlit : literalValue v = .number lit := (Prod.mk.inj (Except.ok.inj he)).1
      have hnum : NumberText v := by
        rcases hs with hstr | hnum | hw
        · exact absurd hlit (literalValue_ne_number (.inl hstr) lit)
        · exact hnum
        · exact absurd hlit (literalValue_ne_number (.inr hw) lit)
      rw [literalValue_of_numberText hnum] at hlit
      cases hlit
      rw [if_neg fun hover => hno ⟨hnum, hover⟩]
    · rfl

/-! ## 3. An object and what follows it -/

/-- **An object of the grammar followed by more than blanks**: blanks, an object text, blanks,
and a byte that is not blank. -/
def TrailsObject (raw : Bytes) : Prop :=
  ∃ ws O ws' b rest, raw = ws ++ O ++ ws' ++ b :: rest ∧ (∀ c ∈ ws, isBlank c = true) ∧
    JsonObject O ∧ (∀ c ∈ ws', isBlank c = true) ∧ isBlank b = false

/-- **What the reader makes of an object followed by more than blanks**: it reads the object's
members from just after the brace, and meets a byte that is not blank after them. -/
theorem trailsObject_iff {raw : Bytes} :
    TrailsObject raw ↔ ∃ more doc after, skipBlanks raw = 0x7B :: more ∧
      readMembers {} .first more = .ok (doc, after) ∧ skipBlanks after ≠ [] := by
  constructor
  · rintro ⟨ws, _, ws', b, rest, rfl, hws, ⟨ms, inner, rfl, hin, hms⟩, hws', hb⟩
    have hvalid : ∀ m ∈ ms, m.Valid := fun m hm => Member.valid_iff.mpr (hms m hm)
    -- past the blanks the reader meets the object's opening brace
    have hs : skipBlanks (ws ++ objectText ms inner ++ ws' ++ b :: rest) =
        0x7B :: ((objectText ms inner).tail ++ (ws' ++ b :: rest)) := by
      rw [List.append_assoc, List.append_assoc, skipBlanks_blanks_append hws]
      cases ms <;> exact skipBlanks_cons_of_lead rfl _
    refine ⟨_, _, _, hs, readMembers_objectBody hvalid hin _, ?_⟩
    rw [skipBlanks_blanks_append hws', skipBlanks_cons_of_lead hb]
    exact List.cons_ne_nil b rest
  · rintro ⟨more, doc, after, hs, hr, hne⟩
    obtain ⟨ms, inner, hin, hms, hobj, -⟩ := readMembers_first_sound hr
    obtain ⟨ws, hraw, hws⟩ := exists_blanks_split raw
    obtain ⟨ws', hafter, hws'⟩ := exists_blanks_split after
    -- the first byte past the blanks after the object is not blank
    obtain ⟨b, rest, hbr⟩ := List.exists_cons_of_ne_nil hne
    have hb : isBlank b = false := head_skipBlanks after b (by simp [hbr])
    refine ⟨ws, objectText ms inner, ws', b, rest, ?_, hws,
      ⟨ms, inner, rfl, hin, fun m hm => Member.valid_iff.mp (hms m hm)⟩, hws', hb⟩
    rw [hraw, hs, hobj, hafter, hbr]
    simp

/-- A text that trails an object starts with its opening brace. -/
theorem TrailsObject.head {raw : Bytes} (h : TrailsObject raw) :
    ∃ more, skipBlanks raw = 0x7B :: more := by
  obtain ⟨more, -, -, hs, -, -⟩ := trailsObject_iff.mp h
  exact ⟨more, hs⟩

/-- Once the first byte past the blanks is known, a text trails an object when that byte is `{`
and the members read after it are followed by more than blanks. -/
theorem trailsObject_iff_of_skipBlanks {raw more : Bytes} {c : UInt8}
    (hs : skipBlanks raw = c :: more) :
    TrailsObject raw ↔ c = 0x7B ∧
      ∃ doc after, readMembers {} .first more = .ok (doc, after) ∧ skipBlanks after ≠ [] := by
  rw [trailsObject_iff, hs]
  constructor
  · rintro ⟨more', doc, after, hcm, hr, hafter⟩
    obtain ⟨rfl, rfl⟩ := List.cons.inj hcm
    exact ⟨rfl, doc, after, hr, hafter⟩
  · rintro ⟨rfl, doc, after, hr, hafter⟩
    exact ⟨more, doc, after, rfl, hr, hafter⟩

/-- **What follows the object is taken** exactly when it is only blanks. -/
theorem trailing_eq_ok_iff {bs : Bytes} : trailing bs = .ok () ↔ skipBlanks bs = [] := by
  constructor
  · intro h
    exact skipBlanks_eq_nil_iff.mpr (blanks_of_trailing h)
  · intro h
    unfold trailing
    rw [h]

/-- Whatever stands after the object, the refusal is trailing data. -/
theorem failure_of_trailing {bs : Bytes} {e : ParseError} (h : trailing bs = .error e) :
    e.failure = .trailingData := by
  unfold trailing at h
  split at h
  · cases h
  · split at h
    · cases h
      rfl
    · split at h
      · cases h
        rfl
      · split at h <;> cases h <;> rfl

/-! ## 4. The refusals -/

/-- **Every refusal, branch by branch**: its kind, with what the text is in that branch. -/
theorem failure_of_parse {raw : Bytes} {e : ParseError} (h : Document.parse raw = .error e) :
    (e.failure = .empty ∧ skipBlanks raw = []) ∨
      (e.failure = .notObject ∧ StartsNonObject raw) ∨
      (e.failure = .trailingData ∧ TrailsObject raw) ∨
      (e.failure = .notJson ∧ skipBlanks raw ≠ [] ∧ ¬ StartsNonObject raw ∧
        ¬ TrailsObject raw) := by
  unfold Document.parse at h
  split at h
  · rename_i hs
    cases h
    exact .inl ⟨rfl, hs⟩
  · rename_i c more hs
    have hb : isBlank c = false := head_skipBlanks raw c (by simp [hs])
    have hne : skipBlanks raw ≠ [] := by
      rw [hs]
      exact List.cons_ne_nil c more
    have hsn := startsNonObject_iff_of_skipBlanks hs
    have hto := trailsObject_iff_of_skipBlanks hs
    by_cases h0 : c = 0x7B
    · -- an object: refused as malformed, or for what follows it
      have hns : ¬ StartsNonObject raw := by
        rw [hsn]
        rintro (hc | ⟨v, hv, -⟩)
        · exact absurd (h0.symm.trans hc) (by decide)
        · exact hv.head.1 h0
      have h0' : (c == 0x7B) = true := by simpa using h0
      simp only [h0', ↓reduceIte] at h
      split at h
      · rename_i e' hr
        cases h
        refine .inr (.inr (.inr ⟨rfl, hne, hns, ?_⟩))
        rw [hto]
        rintro ⟨-, doc, after, hr', -⟩
        rw [hr] at hr'
        cases hr'
      · rename_i doc after hr
        split at h
        · rename_i e' htr
          cases h
          refine .inr (.inr (.inl ⟨failure_of_trailing htr, hto.mpr ⟨h0, doc, after, hr, ?_⟩⟩))
          intro hnil
          rw [trailing_eq_ok_iff.mpr hnil] at htr
          cases htr
        · cases h
    · have hnt : ¬ TrailsObject raw := fun ht => h0 (hto.mp ht).1
      have h0' : (c == 0x7B) = false := by simpa using h0
      simp only [h0', Bool.false_eq_true, ↓reduceIte] at h
      by_cases h1 : c = 0x5B
      · -- an array
        have h1' : (c == 0x5B) = true := by simpa using h1
        simp only [h1', ↓reduceIte] at h
        cases h
        exact .inr (.inl ⟨rfl, hsn.mpr (.inl h1)⟩)
      · have h1' : (c == 0x5B) = false := by simpa using h1
        simp only [h1', Bool.false_eq_true, ↓reduceIte] at h
        split at h
        · -- a closing bracket, a colon or a comma, which no value starts with
          rename_i hp
          cases h
          refine .inr (.inr (.inr ⟨rfl, hne, ?_, hnt⟩))
          rw [hsn]
          rintro (hc | ⟨v, hv, -⟩)
          · exact h1 hc
          · rw [hv.head.2.2] at hp
            cases hp
        · -- a scalar, read whole
          split at h
          · rename_i e' hr
            cases h
            refine .inr (.inr (.inr ⟨rfl, hne, ?_, hnt⟩))
            rw [hsn]
            rintro (hc | hv)
            · exact h1 hc
            · rw [(readScalar_eq_ok_iff hb h0 h1).mpr hv] at hr
              cases hr
          · rename_i hr
            cases h
            exact .inr (.inl ⟨rfl, hsn.mpr (.inr ((readScalar_eq_ok_iff hb h0 h1).mp hr))⟩)

/-- **The kind of a refusal is fixed by the text**: each kind goes with one condition on it. -/
theorem parse_failure_iff {raw : Bytes} {e : ParseError} (h : Document.parse raw = .error e) :
    (e.failure = .empty ↔ ∀ c ∈ raw, isBlank c = true) ∧
      (e.failure = .notObject ↔ StartsNonObject raw) ∧
      (e.failure = .trailingData ↔ TrailsObject raw) ∧
      (e.failure = .notJson ↔
        ¬ (∀ c ∈ raw, isBlank c = true) ∧ ¬ StartsNonObject raw ∧ ¬ TrailsObject raw) := by
  rw [← skipBlanks_eq_nil_iff]
  -- the conditions exclude one another by the first byte past the blanks
  have hsn : StartsNonObject raw → skipBlanks raw ≠ [] ∧ ¬ TrailsObject raw := by
    intro hn
    obtain ⟨c, more, hs, hc⟩ := hn.head
    refine ⟨by rw [hs]; exact List.cons_ne_nil c more, fun ht => ?_⟩
    obtain ⟨more', hs'⟩ := ht.head
    rw [hs] at hs'
    exact hc (List.cons.inj hs').1
  have htn : TrailsObject raw → skipBlanks raw ≠ [] := by
    intro ht
    obtain ⟨more, hs⟩ := ht.head
    rw [hs]
    exact List.cons_ne_nil _ more
  rcases failure_of_parse h with ⟨hf, hs⟩ | ⟨hf, hn⟩ | ⟨hf, ht⟩ | ⟨hf, hs, hn, ht⟩ <;> rw [hf]
  · have hn : ¬ StartsNonObject raw := fun hn => (hsn hn).1 hs
    have ht : ¬ TrailsObject raw := fun ht => htn ht hs
    simp [hs, hn, ht]
  · simp [hn, hsn hn]
  · have hn : ¬ StartsNonObject raw := fun hn => (hsn hn).2 ht
    simp [ht, htn ht, hn]
  · simp [hs, hn, ht]

/-- Each kind of refusal has its own wording. -/
theorem ParseFailure.text_inj (f g : ParseFailure) : f.text = g.text ↔ f = g := by
  constructor
  · intro h
    cases f <;> cases g <;> first | rfl | simp [ParseFailure.text] at h
  · intro h
    rw [h]

/-- **What the reader accepts and how it words each refusal.** It accepts exactly the document
texts; it refuses nothing but blanks as empty, a text that starts with a value that is no object
as not an object, an object followed by more than blanks as trailing data, and every other text
as not JSON. -/
theorem parse_classification (raw : Bytes) :
    ((∃ D, Document.parse raw = .ok D) ↔ DocumentText raw) ∧
      ∀ e, Document.parse raw = .error e →
        (e.failure.text = "probe output is empty" ↔ ∀ c ∈ raw, isBlank c = true) ∧
        (e.failure.text = "probe output is not a JSON object" ↔ StartsNonObject raw) ∧
        (e.failure.text = "unexpected data after JSON object" ↔ TrailsObject raw) ∧
        (e.failure.text = "probe output is not valid JSON" ↔
          ¬ (∀ c ∈ raw, isBlank c = true) ∧ ¬ StartsNonObject raw ∧ ¬ TrailsObject raw) := by
  refine ⟨parse_ok_iff_documentText, fun e h => ?_⟩
  obtain ⟨h1, h2, h3, h4⟩ := parse_failure_iff h
  exact ⟨(ParseFailure.text_inj _ .empty).trans h1, (ParseFailure.text_inj _ .notObject).trans h2,
    (ParseFailure.text_inj _ .trailingData).trans h3, (ParseFailure.text_inj _ .notJson).trans h4⟩

/-! ## 5. A number beyond a double -/

/-- The text `1e400`. -/
def overflowingNumber : Bytes := [0x31, 0x65, 0x34, 0x30, 0x30]

/-- **A leading number beyond a double is not JSON to the reader**: `1e400` is a scalar read as
far as it goes, and the reader refuses it as malformed, with the range error as the cause, not
as a value that is no object. -/
theorem parse_overflowing_number :
    LeadingScalar overflowingNumber overflowingNumber ∧ Overflows overflowingNumber ∧
      Document.parse overflowingNumber =
        .error { failure := .notJson, cause := some (.numberRange "1e400") } := by
  have hnum : NumberText overflowingNumber :=
    ⟨[], [0x31], [], [0x65, 0x34, 0x30, 0x30], rfl, .inl rfl,
      .lead (by decide) (by decide) (by simp [AllDigits]), .none,
      .mark (.inl rfl) (.inl rfl) (by decide) (by simp [AllDigits]; decide)⟩
  refine ⟨⟨.inr (.inl hnum), [], by simp, by simp⟩, ⟨hnum, by decide⟩, rfl⟩

end Inventory
