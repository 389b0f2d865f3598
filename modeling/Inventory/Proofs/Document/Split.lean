import Inventory.Proofs.Document.Members
import Mathlib.Data.List.TakeWhile
/-!
# Every object value is an object text

The converse of `isValue_objectText`: a byte string that the machine accepts as one value and
that starts with `{` is `objectText ms inner` for members that are valid and fit below the
depth limit (`objectText_of_isValue`). So what is proved of object texts, how the document
reader files them and what their compact layout is, holds of every object value.

The split follows the run of the machine. Where the machine stands at the start of a key or of
a value, that literal or value runs as alone (`embed_split`, the converse of `feed_embed`) until
the machine alone is done; the byte that ends it is read as after a value inside the object
(`split_afterValue`), which is where the colon, the comma or the closing brace is found.
-/

set_option autoImplicit false

namespace Inventory

open Json

/-- After skipping blanks, the first byte is not one. -/
theorem head_skipBlanks (x : Bytes) : ∀ c ∈ (skipBlanks x).head?, isBlank c = false := by
  induction x with
  | nil => simp [skipBlanks]
  | cons b x ih =>
    by_cases hb : isBlank b = true
    · simpa [skipBlanks, List.dropWhile_cons, hb] using ih
    · simp [skipBlanks, hb]

/-- Every byte string is its leading blanks and the rest from the first byte that is not one. -/
theorem exists_blanks_split (x : Bytes) :
    ∃ ws, x = ws ++ skipBlanks x ∧ ∀ c ∈ ws, isBlank c = true :=
  ⟨x.takeWhile isBlank, (List.takeWhile_append_dropWhile).symm,
    fun _ hc => List.mem_takeWhile_imp hc⟩

namespace Json.Scanner

/-! ## 1. A value runs as alone until it ends -/

/-- **The converse of `feed_embed`.** A run under open containers that refuses nothing is the run
alone, embedded, up to the byte where the value alone is done, if there is such a byte; the outer
machine reads that byte as after a value. -/
theorem embed_split {base : List Frame} (hb : base ≠ []) {v : Bytes} :
    ∀ {t : Scanner}, Good t → t.depth + base.length ≤ maxDepth → Inside (embed base t) v →
      (Inside t v ∧ (embed base t).feed v = embed base (t.feed v)) ∨
      ∃ a c b, v = a ++ c :: b ∧ Inside t a ∧ t.peak a + base.length ≤ maxDepth ∧
        (embed base t).feed a = embed base (t.feed a) ∧ ((t.feed a).step c).2 = .done ∧
        (embed base (t.feed a)).step c = (embed base (t.feed a)).atEndValue c := by
  induction v with
  | nil => exact fun _ _ _ => .inl ⟨trivial, rfl⟩
  | cons c v ih =>
    intro t hg hd0 h
    obtain ⟨h1, h2⟩ := h
    rcases step_embed (c := c) hg hb hd0 with ⟨hdone, hstep⟩ | ⟨-, herr⟩ | ⟨-, -, herr, -⟩ |
      ⟨hk, hd1, hstep⟩
    · exact .inr ⟨[], c, v, rfl, trivial, by simpa [peak] using hd0, rfl, hdone, hstep⟩
    · rw [herr] at h1; cases h1
    · rw [herr] at h1; cases h1
    · rw [hstep] at h2
      rcases ih (step_good hg hk) hd1 h2 with ⟨i1, i2⟩ | ⟨a, c', b, rfl, i1, i2, i3, i4, i5⟩
      · exact .inl ⟨⟨hk, i1⟩, by rw [feed_cons, hstep, feed_cons]; exact i2⟩
      · refine .inr ⟨c :: a, c', b, rfl, ⟨hk, i1⟩, ?_, ?_, i4, i5⟩
        · simp only [peak]; omega
        · rw [feed_cons, hstep, feed_cons]; exact i3

/-- **After a value inside a container**: blanks, dropped from the compact layout, and then a
byte that is read as after the value. -/
theorem split_afterValue {w : Bytes} : ∀ {u : Scanner}, u.stack ≠ [] →
    (∀ c ∈ w.head?, u.step c = u.atEndValue c) →
    ∃ ws z, w = ws ++ z ∧ (∀ c ∈ ws, isBlank c = true) ∧ Inside u ws ∧ u.keep ws = [] ∧
      (u.feed ws = u ∨ u.feed ws = { u with phase := .endValue }) ∧
      ∀ c ∈ z.head?, isBlank c = false ∧ (u.feed ws).step c = u.atEndValue c := by
  induction w with
  | nil => exact fun _ _ => ⟨[], [], rfl, by simp, trivial, rfl, .inl rfl, by simp⟩
  | cons c w ih =>
    intro u hs h0
    have hc := h0 c rfl
    by_cases hb : isBlank c = true
    · -- a blank after the value: the machine stands after the value, in phase `endValue`
      obtain ⟨f, rest, hfs⟩ := List.exists_cons_of_ne_nil hs
      have hstep : u.step c = ({ u with phase := .endValue }, .skipSpace) := by
        rw [hc, atEndValue_blank hb hfs]
      have hafter : ∀ d ∈ w.head?, ({ u with phase := .endValue } : Scanner).step d =
          ({ u with phase := .endValue } : Scanner).atEndValue d := fun d _ => rfl
      obtain ⟨ws, z, rfl, hws, hin, hkeep, hfeed, hz⟩ := ih (u := { u with phase := .endValue })
        hs hafter
      refine ⟨c :: ws, z, rfl, ?_, ?_, ?_, .inr ?_, ?_⟩
      · intro d hd
        rcases List.mem_cons.mp hd with rfl | hd
        · exact hb
        · exact hws d hd
      · rw [inside_cons, hstep]; exact ⟨rfl, hin⟩
      · simp only [keep, hstep, Code.kept, Bool.false_eq_true, ↓reduceIte]; exact hkeep
      · rw [feed_cons, hstep]; rcases hfeed with h | h <;> rw [h]
      · intro d hd
        obtain ⟨hd1, hd2⟩ := hz d hd
        refine ⟨hd1, ?_⟩
        rw [feed_cons, hstep, hd2, atEndValue_setPhase]
    · exact ⟨[], c :: w, rfl, by simp, trivial, rfl, .inl rfl, by
        intro d hd
        obtain rfl : c = d := by simpa using hd
        exact ⟨by simpa using hb, hc⟩⟩

/-- **After a value inside one container, in a run that closes it**: blanks, then a byte that
is no blank and that the container reads on, as after the value. -/
theorem split_afterValue_closed {u : Scanner} {f : Frame} (hs : u.stack = [f]) {x : Bytes}
    (h : Inside u x) (hend : (u.feed x).stack = [])
    (h0 : ∀ c ∈ x.head?, u.step c = u.atEndValue c) :
    ∃ ws e z, x = ws ++ e :: z ∧ (∀ c ∈ ws, isBlank c = true) ∧ isBlank e = false ∧
      (u.atEndValue e).2.stops = false ∧ Inside (u.atEndValue e).1 z ∧
      ((u.atEndValue e).1.feed z).stack = [] := by
  obtain ⟨ws, z, rfl, hws, -, -, hfeed, hz⟩ := split_afterValue (by rw [hs]; simp) h0
  -- the blanks leave the container open, so a byte must follow them
  have hs' : (u.feed ws).stack = [f] := by
    rcases hfeed with h' | h' <;> rw [h'] <;> exact hs
  rw [inside_append] at h
  rw [feed_append] at hend
  cases z with
  | nil => rw [feed_nil, hs'] at hend; cases hend
  | cons e z =>
    obtain ⟨hb, hstep⟩ := hz e rfl
    obtain ⟨h1, h2⟩ := h.2
    rw [hstep] at h1 h2
    rw [feed_cons, hstep] at hend
    exact ⟨ws, e, z, rfl, hws, hb, h1, h2, hend⟩

/-! ## 2. The parts of a member -/

/-- **The key of a member.** Where a key is awaited, and the object is not closed at once, come
blanks and a key literal; the byte after the literal is read as after a value inside the
object. -/
theorem split_key {p : Phase} (hp : p = .beginString ∨ p = .beginStringOrEmpty) {x : Bytes}
    (h : Inside (keyWait p) x) (hend : ((keyWait p).feed x).stack = [])
    (hne : p = .beginStringOrEmpty → ∀ c ∈ (skipBlanks x).head?, c ≠ 0x7D) :
    ∃ pre key rest, x = pre ++ key ++ rest ∧ (∀ c ∈ pre, isBlank c = true) ∧ IsString key ∧
      Inside (embed [.objectKey] (({} : Scanner).feed key)) rest ∧
      ((embed [.objectKey] (({} : Scanner).feed key)).feed rest).stack = [] ∧
      ∀ c ∈ rest.head?, (embed [.objectKey] (({} : Scanner).feed key)).step c =
        (embed [.objectKey] (({} : Scanner).feed key)).atEndValue c := by
  obtain ⟨pre, hx, hpre⟩ := exists_blanks_split x
  have hwait : (keyWait p).phase.waits = true := by rcases hp with rfl | rfl <;> rfl
  obtain ⟨-, b2⟩ := feed_blanks hwait hpre
  have hlead := head_skipBlanks x
  rw [hx, inside_append, b2] at h
  rw [hx, feed_append, b2] at hend
  generalize hy : skipBlanks x = y at h hend hne hlead hx
  cases y with
  | nil => simp [keyWait] at hend
  | cons d y =>
    have hd : isBlank d = false := hlead d rfl
    obtain ⟨h1, h2⟩ := h.2
    -- only a quote can start a key
    have hstep0 : (keyWait p).step d = (keyWait p).atBeginString d := by
      rcases hp with rfl | rfl
      · rfl
      · have hd' : (d == 0x7D) = false := by simpa using hne rfl d rfl
        simp [step, keyWait, hd, hd']
    rw [hstep0] at h1
    have hstep : (keyWait p).step d = (embed [.objectKey] (({} : Scanner).step 0x22).1, .beginLiteral)
        ∧ d = 0x22 := by
      rcases atBeginString_cases d with ⟨hb, -⟩ | ⟨rfl, hm⟩ | hm
      · rw [hb] at hd; cases hd
      · rw [hstep0, hm]; exact ⟨by rcases hp with rfl | rfl <;> rfl, rfl⟩
      · rw [hm] at h1; cases h1
    obtain ⟨hstep, rfl⟩ := hstep
    rw [hstep] at h2
    rw [feed_cons, hstep] at hend
    have hg0 : Good (({} : Scanner).step 0x22).1 := step_good good_start rfl
    rcases @embed_split [.objectKey] (by simp) y _ hg0 (by decide) h2 with
      ⟨-, hfeed⟩ | ⟨a, c, b, rfl, ha, -, hfa, hdone, hnext⟩
    · -- a literal that never ends leaves the object open
      rw [hfeed] at hend; simp at hend
    · rw [feed_append, hfa] at hend
      rw [inside_append, hfa] at h2
      refine ⟨pre, 0x22 :: a, c :: b, by simp [hx], hpre, ⟨⟨⟨rfl, ha⟩, ?_, ?_⟩, rfl⟩, h2.2, hend,
        ?_⟩
      · exact step_done (good_feed hg0 ha) hdone
      · intro e he; obtain rfl : (0x22 : UInt8) = e := by simpa using he
        rfl
      · intro e he; obtain rfl : c = e := by simpa using he
        exact hnext

/-- **The colon after a key**: blanks, then the colon, which leaves the machine where the value
starts. -/
theorem split_colon {key : Bytes} (hk : IsString key) {x : Bytes}
    (h : Inside (embed [.objectKey] (({} : Scanner).feed key)) x)
    (hend : ((embed [.objectKey] (({} : Scanner).feed key)).feed x).stack = [])
    (h0 : ∀ c ∈ x.head?, (embed [.objectKey] (({} : Scanner).feed key)).step c =
      (embed [.objectKey] (({} : Scanner).feed key)).atEndValue c) :
    ∃ mid rest, x = mid ++ 0x3A :: rest ∧ (∀ c ∈ mid, isBlank c = true) ∧
      Inside valueWait rest ∧ (valueWait.feed rest).stack = [] := by
  have hke := hk.1.ended
  have hs : (embed [.objectKey] (({} : Scanner).feed key)).stack = [.objectKey] := by
    simp [hke.stack]
  obtain ⟨ws, e, z, rfl, hws, hb, h1, h2, hend⟩ := split_afterValue_closed hs h hend h0
  rcases atEndValue_cases e .objectKey with ⟨hb', -⟩ | ⟨-, rfl, hm⟩ | ⟨hf, -⟩ | ⟨hf, -⟩ |
    ⟨hf, -⟩ | ⟨hf, -⟩ | ⟨q, hm⟩
  · rw [hb'] at hb; cases hb
  · -- the colon: the value is awaited next
    have hvw : ({ embed [.objectKey] (({} : Scanner).feed key) with
        stack := [.objectValue], phase := .beginValue } : Scanner) = valueWait := by
      simp [valueWait, embed, hke.err, hk.1.depth_feed, Phase.lift]
    rw [hm _ [] hs, hvw] at h2 hend
    exact ⟨ws, z, rfl, hws, h2, hend⟩
  all_goals first | cases hf | (rw [hm _ [] hs] at h1; cases h1)

/-- **The value of a member**: blanks, one value that fits inside the object, and then a byte
read as after a value inside the object. -/
theorem split_value {x : Bytes} (h : Inside valueWait x) (hend : (valueWait.feed x).stack = []) :
    ∃ post value rest, x = post ++ value ++ rest ∧ (∀ c ∈ post, isBlank c = true) ∧
      IsValue value ∧ Scanner.peak {} value < maxDepth ∧
      Inside (embed [.objectValue] (({} : Scanner).feed value)) rest ∧
      ((embed [.objectValue] (({} : Scanner).feed value)).feed rest).stack = [] ∧
      ∀ c ∈ rest.head?, (embed [.objectValue] (({} : Scanner).feed value)).step c =
        (embed [.objectValue] (({} : Scanner).feed value)).atEndValue c := by
  obtain ⟨post, hx, hpost⟩ := exists_blanks_split x
  obtain ⟨-, b2⟩ := feed_blanks (s := valueWait) rfl hpost
  have hlead := head_skipBlanks x
  rw [hx, inside_append, b2] at h
  rw [hx, feed_append, b2] at hend
  generalize hy : skipBlanks x = y at h hend hlead hx
  rcases @embed_split [.objectValue] (by simp) y {} good_start (by simp [maxDepth]) h.2 with
    ⟨-, hfeed⟩ | ⟨a, c, b, rfl, ha, hpeak, hfa, hdone, hnext⟩
  · -- a value that never ends leaves the object open
    rw [valueWait, hfeed] at hend; simp at hend
  · rw [valueWait, feed_append, hfa] at hend
    have h2 := h.2
    rw [valueWait, inside_append, hfa] at h2
    refine ⟨post, a, c :: b, by simp [hx], hpost, ⟨ha, step_done (good_feed good_start ha) hdone,
      ?_⟩, by simp only [List.length_singleton] at hpeak; omega, h2.2, hend, ?_⟩
    · intro e he
      cases a with
      | nil => cases he
      | cons a0 a => exact hlead e (by simpa using he)
    · intro e he; obtain rfl : c = e := by simpa using he
      exact hnext

/-- **What follows a member's value**: blanks, then a comma or the closing brace. -/
theorem split_separator {value : Bytes} (hv : IsValue value) {x : Bytes}
    (h : Inside (embed [.objectValue] (({} : Scanner).feed value)) x)
    (hend : ((embed [.objectValue] (({} : Scanner).feed value)).feed x).stack = [])
    (h0 : ∀ c ∈ x.head?, (embed [.objectValue] (({} : Scanner).feed value)).step c =
      (embed [.objectValue] (({} : Scanner).feed value)).atEndValue c) :
    ∃ trail z, x = trail ++ z ∧ (∀ c ∈ trail, isBlank c = true) ∧ FollowsMember z := by
  have hs : (embed [.objectValue] (({} : Scanner).feed value)).stack = [.objectValue] := by
    simp [hv.ended.stack]
  obtain ⟨ws, e, z, rfl, hws, hb, h1, -, -⟩ := split_afterValue_closed hs h hend h0
  rcases atEndValue_cases e .objectValue with ⟨hb', -⟩ | ⟨hf, -⟩ | ⟨-, rfl, -⟩ | ⟨-, rfl, -⟩ |
    ⟨hf, -⟩ | ⟨hf, -⟩ | ⟨q, hm⟩
  · rw [hb'] at hb; cases hb
  · cases hf
  · exact ⟨ws, _, rfl, hws, _, _, rfl, .inl rfl⟩
  · exact ⟨ws, _, rfl, hws, _, _, rfl, .inr rfl⟩
  · cases hf
  · cases hf
  · rw [hm _ [] hs] at h1; cases h1

/-! ## 3. Members -/

/-- **A member and what follows it.** Where a key is awaited, and the object is not closed at
once, come one valid member that fits inside the object and then a comma or the closing
brace. -/
theorem split_member {p : Phase} (hp : p = .beginString ∨ p = .beginStringOrEmpty) {x : Bytes}
    (h : Inside (keyWait p) x) (hend : ((keyWait p).feed x).stack = [])
    (hne : p = .beginStringOrEmpty → ∀ c ∈ (skipBlanks x).head?, c ≠ 0x7D) :
    ∃ (m : Member) (z : Bytes), x = m.text ++ z ∧ m.Valid ∧ m.Fits ∧ FollowsMember z := by
  obtain ⟨pre, key, r1, rfl, hpre, hkey, h1, e1, n1⟩ := split_key hp h hend hne
  obtain ⟨mid, r2, rfl, hmid, h2, e2⟩ := split_colon hkey h1 e1 n1
  obtain ⟨post, value, r3, rfl, hpost, hv, hfit, h3, e3, n3⟩ := split_value h2 e2
  obtain ⟨trail, z, rfl, htrail, hz⟩ := split_separator hv h3 e3 n3
  exact ⟨⟨pre, key, mid, post, value, trail⟩, z, by simp [Member.text],
    ⟨hpre, hkey, hmid, hpost, hv, htrail⟩, hfit, hz⟩

theorem step_objectDone (c : UInt8) : (objectDone.step c).2 = .done :=
  atEndTop_snd objectDone c

/-- After the closing brace of the object nothing may follow in a run that stays inside it. -/
theorem eq_nil_of_inside_objectDone {z : Bytes} (h : Inside objectDone z) : z = [] := by
  cases z with
  | nil => rfl
  | cons c z => have := h.1; rw [step_objectDone] at this; cases this

/-- **The members after the first**: after a member, what the run takes up to the end of the
object is the comma-led members that follow, each valid and fitting, and the closing brace. -/
theorem membersTail_of_run (n : Nat) : ∀ {u : Scanner} {z : Bytes}, z.length ≤ n →
    AfterMember u → Inside u z → (u.feed z).stack = [] → FollowsMember z →
    ∃ ms : List Member, z = membersTail ms ∧ ∀ m ∈ ms, m.Valid ∧ m.Fits := by
  induction n with
  | zero =>
    intro u z hn _ _ _ hz
    obtain ⟨c, t, rfl, -⟩ := hz
    simp at hn
  | succ n ih =>
    intro u z hn hu h hend hz
    obtain ⟨c, t, rfl, rfl | rfl⟩ := hz
    · -- a comma: the next member, then the rest by induction
      obtain ⟨-, h2⟩ := h
      rw [step_comma hu] at h2
      rw [feed_cons, step_comma hu] at hend
      obtain ⟨m, z, rfl, hm, hf, hz⟩ := split_member (.inl rfl) h2 hend (by simp)
      obtain ⟨i1, i2, -⟩ := feed_member (.inl rfl) hm hf
      rw [inside_append] at h2
      rw [feed_append] at hend
      obtain ⟨ms, rfl, hms⟩ := ih (by simp at hn; omega) i2 h2.2 hend hz
      refine ⟨m :: ms, rfl, ?_⟩
      intro m' hm'
      rcases List.mem_cons.mp hm' with rfl | hm'
      · exact ⟨hm, hf⟩
      · exact hms m' hm'
    · -- the closing brace ends the object, and nothing follows it
      obtain ⟨-, h2⟩ := h
      rw [step_closeBrace hu] at h2
      obtain rfl := eq_nil_of_inside_objectDone h2
      exact ⟨[], rfl, by simp⟩

end Json.Scanner

open Json.Scanner

/-- **Every object value is an object text** of valid members that fit inside it. -/
theorem objectText_of_isValue {T : Bytes} (hv : IsValue T) (hT : T.head? = some 0x7B) :
    ∃ (ms : List Member) (inner : Bytes), T = objectText ms inner ∧ (∀ c ∈ inner, isBlank c = true) ∧
      ∀ m ∈ ms, m.Valid ∧ m.Fits := by
  obtain ⟨c, x, rfl⟩ := List.exists_cons_of_ne_nil hv.ne_nil
  obtain rfl : c = 0x7B := by simpa using hT
  have h := hv.inside
  have hend := hv.ended.stack
  rw [inside_cons, step_open_object] at h
  rw [feed_cons, step_open_object] at hend
  by_cases hc : (skipBlanks x).head? = some 0x7D
  · -- an object without members
    obtain ⟨inner, hx, hin⟩ := exists_blanks_split x
    obtain ⟨y, hy⟩ : ∃ y, skipBlanks x = 0x7D :: y := by
      cases hs : skipBlanks x with
      | nil => rw [hs] at hc; cases hc
      | cons d y => rw [hs] at hc; obtain rfl : d = 0x7D := by simpa using hc
                    exact ⟨y, rfl⟩
    obtain ⟨-, b2⟩ := feed_blanks (s := keyWait .beginStringOrEmpty) rfl hin
    have h2 := h.2
    rw [hx, hy, inside_append, b2, inside_cons, step_emptyObject] at h2
    obtain rfl := eq_nil_of_inside_objectDone h2.2.2
    exact ⟨[], inner, by rw [hx, hy]; rfl, hin, by simp⟩
  · obtain ⟨m, z, rfl, hm, hf, hz⟩ := split_member (.inr rfl) h.2 hend (fun _ c hc' => by
      rintro rfl; exact hc (by simpa using hc'))
    obtain ⟨i1, i2, -⟩ := feed_member (.inr rfl) hm hf
    have h2 := h.2
    rw [inside_append] at h2
    rw [feed_append] at hend
    obtain ⟨ms, rfl, hms⟩ := membersTail_of_run _ le_rfl i2 h2.2 hend hz
    refine ⟨m :: ms, [], rfl, by simp, ?_⟩
    intro m' hm'
    rcases List.mem_cons.mp hm' with rfl | hm'
    · exact ⟨hm, hf⟩
    · exact hms m' hm'

end Inventory
