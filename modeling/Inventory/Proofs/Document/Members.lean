import Inventory.Document.Read
import Inventory.Proofs.Json.Strings
import Inventory.Proofs.Json.Embed
/-!
# Object texts

An object text is `{`, its members separated by commas, and `}`; a member is a key literal, a
colon and a value, with blanks around each part. `Member` records one member with its blanks,
`objectText` writes members back, and the lemmas here relate that text to the three readers of
it.

* **The document reader** reads the members in order and files each with `setRaw`: the decoded
  key, the repaired value (`parse_objectText`).
* **The syntax machine** accepts an object text iff every value fits below the depth limit with
  the object around it (`isValue_objectText`, `checkValid_objectText_deep`), and every object
  value it accepts is an object text (`objectText_of_isValue`).
* **Compact layout** of an object text is the object text of the members without blanks, each
  value in compact layout (`keep_objectText`).
-/

set_option autoImplicit false

namespace Inventory

open Json

/-! ## 1. Members -/

/-- **One member of an object text** with the blanks around its parts:
`pre key mid : post value trail`. -/
structure Member where
  pre : Bytes
  key : Bytes
  mid : Bytes
  post : Bytes
  value : Bytes
  trail : Bytes

namespace Member

/-- The bytes of a member. -/
def text (m : Member) : Bytes :=
  m.pre ++ m.key ++ m.mid ++ 0x3A :: (m.post ++ m.value ++ m.trail)

/-- A member's bytes: its head up to the value, then the value and the blanks after it. -/
theorem text_eq (m : Member) :
    m.text = (m.pre ++ m.key ++ m.mid ++ 0x3A :: m.post) ++ (m.value ++ m.trail) := by
  simp [text]

/-- A member as the grammar has it: blanks where blanks may stand, a string literal for the key
and one value. -/
structure Valid (m : Member) : Prop where
  pre : ∀ c ∈ m.pre, isBlank c = true
  key : IsString m.key
  mid : ∀ c ∈ m.mid, isBlank c = true
  post : ∀ c ∈ m.post, isBlank c = true
  value : IsValue m.value
  trail : ∀ c ∈ m.trail, isBlank c = true

/-- The value nests shallowly enough to stand inside an object. -/
def Fits (m : Member) : Prop := Scanner.peak {} m.value < maxDepth

/-- The deepest nesting among the members' values. -/
def maxPeak (ms : List Member) : Nat := (ms.map fun m => Scanner.peak {} m.value).foldr max 0

/-- The member without blanks, its value in compact layout. -/
def compact (m : Member) : Member := ⟨[], m.key, [], [], Scanner.keep {} m.value, []⟩

/-- What reading the member files into a document: the decoded key and the repaired value. -/
def store (d : Document) (m : Member) : Document :=
  d.setRaw (decodeStringLiteral m.key) (Utf8.repair m.value)

end Member

/-- The members after the first, each behind a comma, and the closing brace. -/
def membersTail : List Member → Bytes
  | [] => [0x7D]
  | m :: ms => 0x2C :: (m.text ++ membersTail ms)

/-- **An object text**: `{`, the members separated by commas, `}`. An object without members
holds the blanks `inner`. -/
def objectText : List Member → Bytes → Bytes
  | [], inner => 0x7B :: (inner ++ [0x7D])
  | m :: ms, _ => 0x7B :: (m.text ++ membersTail ms)

/-! ## 2. Skipping blanks -/

theorem skipBlanks_blanks_append {ws : Bytes} (hws : ∀ c ∈ ws, isBlank c = true) (x : Bytes) :
    skipBlanks (ws ++ x) = skipBlanks x :=
  List.dropWhile_append_of_pos hws

theorem skipBlanks_cons_of_lead {c : UInt8} (h : isBlank c = false) (x : Bytes) :
    skipBlanks (c :: x) = c :: x := by
  simp [skipBlanks, h]

/-- A value starts with a byte that is not blank. -/
theorem Json.IsValue.exists_lead {v : Bytes} (hv : IsValue v) :
    ∃ c r, v = c :: r ∧ isBlank c = false := by
  obtain ⟨c, r, rfl⟩ := List.exists_cons_of_ne_nil hv.ne_nil
  exact ⟨c, r, rfl, hv.lead c rfl⟩

/-- A whole value leaves nothing open. -/
theorem Json.IsValue.depth_feed {v : Bytes} (hv : IsValue v) :
    (({} : Json.Scanner).feed v).depth = 0 := by
  rw [(Json.Scanner.good_feed Json.Scanner.good_start hv.inside).depth_eq, hv.ended.stack]
  rfl

theorem skipBlanks_value {ws v : Bytes} (hws : ∀ c ∈ ws, isBlank c = true) (hv : IsValue v)
    (x : Bytes) : skipBlanks (ws ++ v ++ x) = v ++ x := by
  obtain ⟨c, r, rfl, hc⟩ := hv.exists_lead
  rw [List.append_assoc, skipBlanks_blanks_append hws, List.cons_append,
    skipBlanks_cons_of_lead hc]

/-! ## 3. Reading members -/

/-- The member loop at a closing brace returns the document and the bytes after the brace. -/
theorem readMembers_close (doc : Document) (pos : MemberPos) {rest tail : Bytes}
    (hs : skipBlanks rest = 0x7D :: tail) : readMembers doc pos rest = .ok (doc, tail) := by
  rw [readMembers.eq_1]
  split
  · rename_i h; rw [hs] at h; cases h
  · rename_i c' tail' h
    rw [hs] at h
    obtain ⟨rfl, rfl⟩ := List.cons.inj h
    rfl

/-- **One turn of the member loop**: a key where the loop stands, its extent, the colon and the
value's extent; the loop goes on after the value with the member filed. -/
theorem readMembers_of_member {doc : Document} {pos : MemberPos} {rest tail ks rest3 : Bytes}
    {c : UInt8} {k n : Nat}
    (hs : skipBlanks rest = c :: tail) (hc1 : c ≠ 0x7D) (hc2 : c ≠ 0x5D)
    (hk : keyStart pos c tail = .ok ks) (hkl : valueLength ks = .ok k)
    (hc : skipBlanks (ks.drop k) = 0x3A :: rest3) (hn : valueLength rest3 = .ok n) :
    readMembers doc pos rest =
      readMembers (doc.setRaw (decodeStringLiteral (ks.take k))
        (Utf8.repair (skipBlanks (rest3.take n)))) .next (rest3.drop n) := by
  rw [readMembers.eq_1]
  split
  · rename_i h; rw [hs] at h; cases h
  · rename_i c' tail' h
    rw [hs] at h
    obtain ⟨rfl, rfl⟩ := List.cons.inj h
    simp only [beq_iff_eq, hc1, hc2, ↓reduceIte]
    split
    · rename_i e h; rw [hk] at h; cases h
    · rename_i ks' h
      rw [hk] at h
      cases h
      simp only [hkl]
      split
      · rename_i h; rw [hc] at h; cases h
      · rename_i d r3 h
        rw [hc] at h
        obtain ⟨rfl, rfl⟩ := List.cons.inj h
        simp only [bne_self_eq_false, Bool.false_eq_true, ↓reduceIte, hn]

/-- A byte that may follow a member: a comma or the closing brace. -/
def FollowsMember (tail : Bytes) : Prop := ∃ c t, tail = c :: t ∧ (c = 0x2C ∨ c = 0x7D)

theorem FollowsMember.endsValue {tail : Bytes} (h : FollowsMember tail) :
    ∀ c ∈ tail.head?, endsValue c = true := by
  obtain ⟨c, t, rfl, hc⟩ := h
  intro d hd
  obtain rfl : c = d := by simpa using hd
  rcases hc with rfl | rfl <;> rfl

/-- After the key has been found, a member is read whole and filed. -/
theorem readMembers_key {m : Member} (hm : m.Valid) {doc : Document} {pos : MemberPos}
    {rest tail0 tail : Bytes} {c : UInt8} (hs : skipBlanks rest = c :: tail0) (hc1 : c ≠ 0x7D)
    (hc2 : c ≠ 0x5D)
    (hk : keyStart pos c tail0 =
      .ok (m.key ++ m.mid ++ 0x3A :: (m.post ++ m.value ++ m.trail ++ tail)))
    (htail : FollowsMember tail) :
    readMembers doc pos rest = readMembers (m.store doc) .next (m.trail ++ tail) := by
  -- the key ends at the first byte after it, a blank or the colon
  have hkl : valueLength (m.key ++ m.mid ++ 0x3A :: (m.post ++ m.value ++ m.trail ++ tail)) =
      .ok m.key.length := by
    have h := @valueLength_complete [] m.key (m.mid ++ 0x3A :: (m.post ++ m.value ++ m.trail ++ tail))
      (by simp) hm.key.1 (by
        intro d hd
        cases hmid : m.mid with
        | nil => simp [hmid] at hd; subst hd; rfl
        | cons e r =>
          simp only [hmid, List.cons_append, List.head?_cons, Option.mem_def,
            Option.some.injEq] at hd
          subst hd
          simp [endsValue, hm.mid e (by simp [hmid])])
    simpa [List.append_assoc] using h
  -- the value ends at the first byte after it, a blank or what follows the member
  have hn : valueLength (m.post ++ m.value ++ m.trail ++ tail) =
      .ok (m.post.length + m.value.length) := by
    have h := @valueLength_complete m.post m.value (m.trail ++ tail) hm.post hm.value (by
        intro d hd
        cases htr : m.trail with
        | nil => simp only [htr, List.nil_append] at hd; exact htail.endsValue d hd
        | cons e r =>
          simp only [htr, List.cons_append, List.head?_cons, Option.mem_def,
            Option.some.injEq] at hd
          subst hd
          simp [endsValue, hm.trail e (by simp [htr])])
    simpa [List.append_assoc] using h
  have hc : skipBlanks ((m.key ++ m.mid ++ 0x3A :: (m.post ++ m.value ++ m.trail ++ tail)).drop
      m.key.length) = 0x3A :: (m.post ++ m.value ++ m.trail ++ tail) := by
    rw [List.append_assoc, List.drop_left, skipBlanks_blanks_append hm.mid,
      skipBlanks_cons_of_lead rfl]
  rw [readMembers_of_member hs hc1 hc2 hk hkl hc hn]
  have hsplit : m.post ++ m.value ++ m.trail ++ tail = (m.post ++ m.value) ++ (m.trail ++ tail) := by
    simp
  have hlen : (m.post ++ m.value).length = m.post.length + m.value.length := List.length_append
  rw [List.append_assoc, List.take_left, hsplit, List.take_left' hlen, List.drop_left' hlen,
    ← List.append_nil (m.post ++ m.value), skipBlanks_value hm.post hm.value, List.append_nil]
  rfl

/-- The reader passes the blanks before a member's key. -/
theorem Member.skipBlanks_text {m : Member} (hm : m.Valid) (x : Bytes) :
    skipBlanks (m.text ++ x) = m.key ++ m.mid ++ 0x3A :: (m.post ++ m.value ++ m.trail ++ x) := by
  have h := skipBlanks_value hm.pre hm.key.1 (m.mid ++ 0x3A :: (m.post ++ m.value ++ m.trail ++ x))
  simpa [Member.text] using h

theorem followsMember_membersTail (ms : List Member) (rest : Bytes) :
    FollowsMember (membersTail ms ++ rest) := by
  cases ms with
  | nil => exact ⟨0x7D, rest, rfl, .inr rfl⟩
  | cons m ms => exact ⟨0x2C, _, rfl, .inl rfl⟩

/-- **The members after the first** are read one by one up to the closing brace, each filed in
turn. -/
theorem readMembers_membersTail {ms : List Member} (hms : ∀ m ∈ ms, m.Valid) (rest : Bytes) :
    ∀ (doc : Document) {ws : Bytes}, (∀ c ∈ ws, isBlank c = true) →
      readMembers doc .next (ws ++ membersTail ms ++ rest) = .ok (ms.foldl Member.store doc, rest) := by
  induction ms with
  | nil =>
    intro doc ws hws
    apply readMembers_close
    rw [List.append_assoc, skipBlanks_blanks_append hws]
    rfl
  | cons m ms ih =>
    intro doc ws hws
    have hm := hms m (by simp)
    obtain ⟨kr, hkr⟩ := hm.key.exists_quote
    -- the comma is found after the blanks, then the key after the member's own blanks
    have hs : skipBlanks (ws ++ membersTail (m :: ms) ++ rest) =
        0x2C :: (m.text ++ (membersTail ms ++ rest)) := by
      rw [List.append_assoc, skipBlanks_blanks_append hws, membersTail, List.cons_append,
        List.append_assoc]
      exact skipBlanks_cons_of_lead rfl _
    have hk : keyStart .next 0x2C (m.text ++ (membersTail ms ++ rest)) =
        .ok (m.key ++ m.mid ++ 0x3A :: (m.post ++ m.value ++ m.trail ++ (membersTail ms ++ rest))) := by
      simp only [keyStart, beq_self_eq_true, ↓reduceIte, m.skipBlanks_text hm, hkr,
        List.cons_append]
    rw [readMembers_key hm hs (by decide) (by decide) hk (followsMember_membersTail ms rest),
      ← List.append_assoc, ih (fun m' h => hms m' (by simp [h])) _ hm.trail]
    rfl

/-- The member loop over an object text's body, from just after `{`. -/
theorem readMembers_objectBody {ms : List Member} (hms : ∀ m ∈ ms, m.Valid) {inner : Bytes}
    (hin : ∀ c ∈ inner, isBlank c = true) (rest : Bytes) :
    readMembers {} .first ((objectText ms inner).tail ++ rest) =
      .ok (ms.foldl Member.store {}, rest) := by
  cases ms with
  | nil =>
    apply readMembers_close
    simp only [objectText, List.tail_cons, List.append_assoc, skipBlanks_blanks_append hin]
    rfl
  | cons m ms =>
    have hm := hms m (by simp)
    obtain ⟨kr, hkr⟩ := hm.key.exists_quote
    have hs : skipBlanks ((objectText (m :: ms) inner).tail ++ rest) =
        0x22 :: (kr ++ m.mid ++ 0x3A :: (m.post ++ m.value ++ m.trail ++ (membersTail ms ++ rest))) := by
      simp only [objectText, List.tail_cons, List.append_assoc]
      rw [m.skipBlanks_text hm, hkr]
      simp
    have hk : keyStart .first 0x22
        (kr ++ m.mid ++ 0x3A :: (m.post ++ m.value ++ m.trail ++ (membersTail ms ++ rest))) =
        .ok (m.key ++ m.mid ++ 0x3A :: (m.post ++ m.value ++ m.trail ++ (membersTail ms ++ rest))) := by
      simp [keyStart, hkr]
    rw [readMembers_key hm hs (by decide) (by decide) hk (followsMember_membersTail ms rest),
      ← List.append_assoc, readMembers_membersTail (fun m' h => hms m' (by simp [h])) rest _ hm.trail]
    rfl

/-- **Reading an object text** between blanks files its members in order: each decoded key with
its repaired value. -/
theorem parse_objectText {ms : List Member} (hms : ∀ m ∈ ms, m.Valid) {inner ws ws' : Bytes}
    (hin : ∀ c ∈ inner, isBlank c = true) (hws : ∀ c ∈ ws, isBlank c = true)
    (hws' : ∀ c ∈ ws', isBlank c = true) :
    Document.parse (ws ++ objectText ms inner ++ ws') = .ok (ms.foldl Member.store {}) := by
  have hs : skipBlanks (ws ++ objectText ms inner ++ ws') =
      0x7B :: ((objectText ms inner).tail ++ ws') := by
    rw [List.append_assoc, skipBlanks_blanks_append hws]
    cases ms <;> exact skipBlanks_cons_of_lead rfl _
  have hend : skipBlanks ws' = [] := by
    rw [← List.append_nil ws', skipBlanks_blanks_append hws']
    rfl
  simp only [Document.parse, hs, beq_self_eq_true, ↓reduceIte, readMembers_objectBody hms hin,
    trailing, hend]

/-! ## 4. The machine over an object text -/

namespace Json.Scanner

/-- **An embedded run keeps the bytes the run alone keeps.** -/
theorem keep_embed {base : List Frame} (hb : base ≠ []) {v : Bytes} :
    ∀ {t : Scanner}, Good t → Inside t v → t.peak v + base.length ≤ maxDepth →
      (embed base t).keep v = t.keep v := by
  induction v with
  | nil => exact fun _ _ _ => rfl
  | cons c v ih =>
    intro t hg h hd
    obtain ⟨h1, h2⟩ := h
    obtain ⟨hstep, hd'⟩ := step_embed_within hb hg h1 hd
    simp only [keep, hstep, ih (step_good hg h1) h2 hd']

/-- The machine inside an object, waiting for a key: right after `{`, or after a comma. -/
def keyWait (p : Phase) : Scanner := { phase := p, stack := [.objectKey], depth := 1 }

/-- The machine inside an object, after a key and its colon: the fresh machine, embedded. -/
def valueWait : Scanner := embed [.objectValue] {}

/-- **After a member**, before its comma or the closing brace: one object open, its value
over or a number in it that may end here, nothing refused. -/
structure AfterMember (u : Scanner) : Prop where
  stack : u.stack = [.objectValue]
  depth : u.depth = 1
  endTop : u.endTop = false
  err : u.err = none
  closes : u.phase.closes = true

theorem step_open_object : ({} : Scanner).step 0x7B = (keyWait .beginStringOrEmpty, .beginObject) :=
  rfl

/-- After a value, a container's phase may end the value: the end of the value alone is the end
of a value inside. -/
theorem Ended.lift_closes {t : Scanner} (he : Ended t) : t.phase.lift.closes = true := by
  rcases he.phase with ⟨hp, -⟩ | hp
  · rw [hp]; rfl
  · have hne : t.phase ≠ .endTop := by intro h; rw [h] at hp; cases hp
    rw [Phase.lift_of_ne hne]; exact hp

/-- Blanks after a value inside a container, none or some: the machine still stands after the
value, and nothing is kept. -/
theorem feed_blanks_after {s : Scanner} (hp : s.phase.closes = true) (hs : s.stack ≠ [])
    {ws : Bytes} (hws : ∀ c ∈ ws, isBlank c = true) :
    ∃ p : Phase, p.closes = true ∧ Inside s ws ∧ s.feed ws = { s with phase := p } ∧
      s.keep ws = [] := by
  cases ws with
  | nil => exact ⟨s.phase, hp, trivial, rfl, rfl⟩
  | cons c ws =>
    obtain ⟨h1, h2, h3⟩ := feed_blanks_closes hp hs hws (by simp)
    exact ⟨.endValue, rfl, h1, h2, h3⟩

/-- Blanks after a value inside a container nest nothing. -/
theorem peak_blanks_after {s : Scanner} (hp : s.phase.closes = true) (hs : s.stack ≠ [])
    {ws : Bytes} (hws : ∀ c ∈ ws, isBlank c = true) : s.peak ws = s.depth := by
  obtain ⟨f, rest, hfs⟩ := List.exists_cons_of_ne_nil hs
  induction ws generalizing s with
  | nil => rfl
  | cons c ws ih =>
    -- after the first blank the machine stands after the value, its phase `endValue`
    rw [peak, step_blank_closes (hws c (by simp)) hp hfs]
    dsimp only
    rw [ih (s := { s with phase := .endValue }) rfl (by simp [hfs])
      (fun d hd => hws d (by simp [hd])) hfs]
    exact Nat.max_self _

/-- **A key literal where a key is awaited** runs as alone under the object, and is kept
whole. -/
theorem feed_key {p : Phase} (hp : p = .beginString ∨ p = .beginStringOrEmpty) {w : Bytes}
    (hw : IsString w) :
    Inside (keyWait p) w ∧ (keyWait p).feed w = embed [.objectKey] (({} : Scanner).feed w) ∧
      (keyWait p).keep w = w := by
  obtain ⟨r, rfl⟩ := hw.exists_quote
  have hstep : (keyWait p).step 0x22 =
      (embed [.objectKey] (({} : Scanner).step 0x22).1, .beginLiteral) := by
    rcases hp with rfl | rfl <;> rfl
  have hin := hw.1.inside
  rw [inside_cons] at hin
  have hg := step_good good_start hin.1
  -- a key nests nothing, so the object around it stays within the limit
  have hpeak : (({} : Scanner).step 0x22).1.peak r + [Frame.objectKey].length ≤ maxDepth := by
    have h0 := peak_string hw
    simp only [peak, Nat.max_eq_zero_iff] at h0
    simp [h0.2, maxDepth]
  obtain ⟨h1, h2⟩ := feed_embed (by simp) hg hin.2 hpeak
  have hkeep := keep_string hw
  simp only [keep, Code.kept] at hkeep
  refine ⟨?_, ?_, ?_⟩
  · rw [inside_cons, hstep]; exact ⟨rfl, h1⟩
  · rw [feed_cons, feed_cons, hstep]; exact h2
  · simp only [keep, hstep, Code.kept, ↓reduceIte, keep_embed (by simp) hg hin.2 hpeak]
    exact hkeep

/-- After a key and the blanks after it, the colon leaves the machine where the value starts. -/
theorem step_colon {w : Bytes} (hw : IsString w) {q : Phase} (hq : q.closes = true) :
    ({ embed [.objectKey] (({} : Scanner).feed w) with phase := q } : Scanner).step 0x3A =
      (valueWait, .objectKey) := by
  have hend := hw.1.ended
  rw [step_of_closes hq rfl (by decide) (by decide) (by decide), atEndValue_setPhase]
  simp [atEndValue, hend.stack, hend.err, hw.1.depth_feed, valueWait, embed, Phase.lift, isBlank]

/-- **The head of a member**, its blanks, key, colon and the blanks after the colon, leaves the
machine where the value starts; only the key and the colon are kept. -/
theorem feed_memberHead {p : Phase} (hp : p = .beginString ∨ p = .beginStringOrEmpty)
    {m : Member} (hm : m.Valid) :
    Inside (keyWait p) (m.pre ++ m.key ++ m.mid ++ 0x3A :: m.post) ∧
      (keyWait p).feed (m.pre ++ m.key ++ m.mid ++ 0x3A :: m.post) = valueWait ∧
      (keyWait p).keep (m.pre ++ m.key ++ m.mid ++ 0x3A :: m.post) = m.key ++ [0x3A] := by
  have hwait : (keyWait p).phase.waits = true := by rcases hp with rfl | rfl <;> rfl
  obtain ⟨hpre1, hpre2⟩ := feed_blanks hwait hm.pre
  have hpre3 := keep_blanks hwait hm.pre
  obtain ⟨hk1, hk2, hk3⟩ := feed_key hp hm.key
  -- after the key the machine stands after a value inside the object
  have hend := hm.key.1.ended
  have hclose : (embed [.objectKey] (({} : Scanner).feed m.key)).phase.closes = true := by
    simpa using hend.lift_closes
  obtain ⟨q, hq, hmid1, hmid2, hmid3⟩ := feed_blanks_after hclose (by simp) hm.mid
  have hcolon := step_colon hm.key hq
  obtain ⟨hpost1, hpost2⟩ := feed_blanks (s := valueWait) rfl hm.post
  have hpost3 := keep_blanks (s := valueWait) rfl hm.post
  refine ⟨?_, ?_, ?_⟩
  · simp only [inside_append, inside_cons, feed_append, hpre2, hk2, hmid2, hcolon]
    exact ⟨⟨⟨hpre1, hk1⟩, hmid1⟩, rfl, hpost1⟩
  · simp only [feed_append, feed_cons, hpre2, hk2, hmid2, hcolon, hpost2]
  · simp only [keep_append, feed_append, hpre2, hk2, hpre3, hk3, hmid2, hmid3, keep, hcolon,
      Code.kept, ↓reduceIte, hpost3]
    simp

/-- **A member's value and the blanks after it**, where a value is awaited and within the
limit with the object around it, run as alone; the value is kept in its compact layout. -/
theorem feed_memberValue {m : Member} (hm : m.Valid) (hf : m.Fits) :
    Inside valueWait (m.value ++ m.trail) ∧ AfterMember (valueWait.feed (m.value ++ m.trail)) ∧
      valueWait.keep (m.value ++ m.trail) = keep {} m.value := by
  have hpeak : ({} : Scanner).peak m.value + [Frame.objectValue].length ≤ maxDepth := by
    simp only [List.length_singleton]; exact hf
  obtain ⟨h1, h2⟩ := feed_embed (by simp) good_start hm.value.inside hpeak
  have h3 := keep_embed (by simp) good_start hm.value.inside hpeak
  have hend := hm.value.ended
  have hclose : (embed [.objectValue] (({} : Scanner).feed m.value)).phase.closes = true := by
    simpa using hend.lift_closes
  obtain ⟨q, hq, ht1, ht2, ht3⟩ := feed_blanks_after hclose (by simp) hm.trail
  refine ⟨?_, ?_, ?_⟩
  · rw [inside_append, valueWait, h2]; exact ⟨h1, ht1⟩
  · rw [feed_append, valueWait, h2, ht2]
    exact ⟨by simp [hend.stack], by simp [hm.value.depth_feed], rfl, by simp [hend.err], hq⟩
  · rw [keep_append, valueWait, h2, ht3, h3, List.append_nil]

/-- The state after an object: nothing open, the top-level value over. -/
def objectDone : Scanner := { phase := .endTop, endTop := true }

theorem objectDone_ended : Ended objectDone := ⟨rfl, rfl, .inl ⟨rfl, rfl⟩⟩

/-- The two machines a member's state can be: its phase apart, the one after the member. -/
theorem AfterMember.eq {u : Scanner} (hu : AfterMember u) :
    u = { phase := u.phase, stack := [.objectValue], depth := 1 } := by
  obtain ⟨ph, st, d, e, r⟩ := u
  obtain ⟨hs, hd, he, hr, -⟩ := hu
  simp only at hs hd he hr
  subst hs hd he hr
  rfl

/-- After a member, a comma waits for the next key. -/
theorem step_comma {u : Scanner} (hu : AfterMember u) :
    u.step 0x2C = (keyWait .beginString, .objectValue) := by
  rw [step_of_closes hu.closes rfl (by decide) (by decide) (by decide), hu.eq]
  rfl

/-- After a member, the closing brace ends the object. -/
theorem step_closeBrace {u : Scanner} (hu : AfterMember u) :
    u.step 0x7D = (objectDone, .endObject) := by
  rw [step_of_closes hu.closes rfl (by decide) (by decide) (by decide), hu.eq]
  rfl

/-- **A whole member** where a key is awaited: the machine ends after it, and keeps it without
blanks, its value in compact layout. -/
theorem feed_member {p : Phase} (hp : p = .beginString ∨ p = .beginStringOrEmpty) {m : Member}
    (hm : m.Valid) (hf : m.Fits) :
    Inside (keyWait p) m.text ∧ AfterMember ((keyWait p).feed m.text) ∧
      (keyWait p).keep m.text = m.compact.text := by
  obtain ⟨h1, h2, h3⟩ := feed_memberHead hp hm
  obtain ⟨v1, v2, v3⟩ := feed_memberValue hm hf
  rw [m.text_eq]
  refine ⟨?_, ?_, ?_⟩
  · rw [inside_append, h2]; exact ⟨h1, v1⟩
  · rw [feed_append, h2]; exact v2
  · rw [keep_append, h2, h3, v3]
    simp [Member.compact, Member.text]

/-- **The members after the first**, each within the limit: the machine ends the object at the
closing brace, and keeps each member without blanks. -/
theorem feed_membersTail {ms : List Member} (hms : ∀ m ∈ ms, m.Valid ∧ m.Fits) :
    ∀ {u : Scanner}, AfterMember u →
      Inside u (membersTail ms) ∧ u.feed (membersTail ms) = objectDone ∧
        u.keep (membersTail ms) = membersTail (ms.map Member.compact) := by
  induction ms with
  | nil =>
    intro u hu
    simp only [membersTail, inside_cons, feed_cons, keep, step_closeBrace hu, List.map_nil]
    exact ⟨⟨rfl, trivial⟩, rfl, rfl⟩
  | cons m ms ih =>
    intro u hu
    obtain ⟨hm, hf⟩ := hms m (by simp)
    obtain ⟨h1, h2, h3⟩ := feed_member (.inl rfl) hm hf
    obtain ⟨i1, i2, i3⟩ := ih (fun m' h => hms m' (by simp [h])) h2
    simp only [membersTail, inside_cons, feed_cons, keep, step_comma hu, inside_append,
      feed_append, keep_append, List.map_cons]
    exact ⟨⟨rfl, h1, i1⟩, i2, by rw [h3, i3]; rfl⟩

/-- An object without members closes at its brace. -/
theorem step_emptyObject : (keyWait .beginStringOrEmpty).step 0x7D = (objectDone, .endObject) :=
  rfl

/-- **The machine over an object text** whose values all fit: the text is taken whole, and
kept as the object text of its members without blanks. -/
theorem feed_objectText {ms : List Member} (hms : ∀ m ∈ ms, m.Valid ∧ m.Fits) {inner : Bytes}
    (hin : ∀ c ∈ inner, isBlank c = true) :
    Inside {} (objectText ms inner) ∧ ({} : Scanner).feed (objectText ms inner) = objectDone ∧
      keep {} (objectText ms inner) = objectText (ms.map Member.compact) [] := by
  cases ms with
  | nil =>
    obtain ⟨b1, b2⟩ := feed_blanks (s := keyWait .beginStringOrEmpty) rfl hin
    have b3 := keep_blanks (s := keyWait .beginStringOrEmpty) rfl hin
    simp only [objectText, inside_cons, feed_cons, keep, step_open_object, inside_append,
      feed_append, keep_append, b2, b3, step_emptyObject, List.map_nil]
    exact ⟨⟨rfl, b1, rfl, trivial⟩, rfl, rfl⟩
  | cons m ms =>
    obtain ⟨hm, hf⟩ := hms m (by simp)
    obtain ⟨h1, h2, h3⟩ := feed_member (.inr rfl) hm hf
    obtain ⟨i1, i2, i3⟩ := @feed_membersTail ms (fun m' h => hms m' (by simp [h])) _ h2
    simp only [objectText, inside_cons, feed_cons, keep, step_open_object, inside_append,
      feed_append, keep_append, List.map_cons]
    exact ⟨⟨rfl, h1, i1⟩, i2, by rw [h3, i3]; rfl⟩

/-! ## 5. How deep an object text nests -/

/-- A key literal nests nothing: inside the object it stays at the object's depth. -/
theorem peak_key {p : Phase} (hp : p = .beginString ∨ p = .beginStringOrEmpty) {w : Bytes}
    (hw : IsString w) : (keyWait p).peak w = 1 := by
  obtain ⟨r, rfl⟩ := hw.exists_quote
  have hstep : (keyWait p).step 0x22 =
      (embed [.objectKey] (({} : Scanner).step 0x22).1, .beginLiteral) := by
    rcases hp with rfl | rfl <;> rfl
  have hin := hw.1.inside
  rw [inside_cons] at hin
  -- the literal alone nests nothing
  have h0 : (({} : Scanner).step 0x22).1.peak r = 0 := by
    have h := peak_string hw
    simp only [peak, Nat.max_eq_zero_iff] at h
    exact h.2
  have hpeak : (({} : Scanner).step 0x22).1.peak r + [Frame.objectKey].length ≤ maxDepth := by
    simp [h0, maxDepth]
  rw [peak, hstep]
  dsimp only
  rw [peak_embed (by simp) (step_good good_start hin.1) hin.2 hpeak, h0]
  rfl

/-- The head of a member stays at the object's depth. -/
theorem peak_memberHead {p : Phase} (hp : p = .beginString ∨ p = .beginStringOrEmpty)
    {m : Member} (hm : m.Valid) :
    (keyWait p).peak (m.pre ++ m.key ++ m.mid ++ 0x3A :: m.post) = 1 := by
  have hwait : (keyWait p).phase.waits = true := by rcases hp with rfl | rfl <;> rfl
  obtain ⟨-, hpre2⟩ := feed_blanks hwait hm.pre
  obtain ⟨-, hk2, -⟩ := feed_key hp hm.key
  have hclose : (embed [.objectKey] (({} : Scanner).feed m.key)).phase.closes = true := by
    simpa using hm.key.1.ended.lift_closes
  obtain ⟨q, hq, -, hmid2, -⟩ := feed_blanks_after hclose (by simp) hm.mid
  simp only [peak_append, feed_append, hpre2, hk2, hmid2, peak_blanks hwait hm.pre,
    peak_key hp hm.key, peak_blanks_after hclose (by simp) hm.mid, peak, step_colon hm.key hq,
    peak_blanks (s := valueWait) rfl hm.post]
  simp [keyWait, valueWait, hm.key.1.depth_feed]

/-- A member's value nests one level deeper inside the object than alone. -/
theorem peak_memberValue {m : Member} (hm : m.Valid) (hf : m.Fits) :
    valueWait.peak (m.value ++ m.trail) = peak {} m.value + 1 := by
  have hpeak : ({} : Scanner).peak m.value + [Frame.objectValue].length ≤ maxDepth := by
    simp only [List.length_singleton]; exact hf
  obtain ⟨-, h2⟩ := feed_embed (by simp) good_start hm.value.inside hpeak
  have hclose : (embed [.objectValue] (({} : Scanner).feed m.value)).phase.closes = true := by
    simpa using hm.value.ended.lift_closes
  rw [peak_append, valueWait, peak_embed (by simp) good_start hm.value.inside hpeak, h2,
    peak_blanks_after hclose (by simp) hm.trail]
  simp [hm.value.depth_feed]

/-- **A member nests one level deeper inside the object than its value alone.** -/
theorem peak_member {p : Phase} (hp : p = .beginString ∨ p = .beginStringOrEmpty) {m : Member}
    (hm : m.Valid) (hf : m.Fits) : (keyWait p).peak m.text = peak {} m.value + 1 := by
  obtain ⟨-, h2, -⟩ := feed_memberHead hp hm
  rw [m.text_eq, peak_append, h2, peak_memberHead hp hm, peak_memberValue hm hf]
  omega

/-- The members after the first nest one level deeper than the deepest of their values. -/
theorem peak_membersTail {ms : List Member} (hms : ∀ m ∈ ms, m.Valid ∧ m.Fits) :
    ∀ {u : Scanner}, AfterMember u → u.peak (membersTail ms) = Member.maxPeak ms + 1 := by
  induction ms with
  | nil =>
    intro u hu
    simp only [membersTail, peak, step_closeBrace hu, hu.depth]
    rfl
  | cons m ms ih =>
    intro u hu
    obtain ⟨hm, hf⟩ := hms m (by simp)
    obtain ⟨-, h2, -⟩ := feed_member (.inl rfl) hm hf
    have i3 := ih (fun m' h => hms m' (by simp [h])) h2
    simp only [membersTail, peak, step_comma hu, peak_append, peak_member (.inl rfl) hm hf, i3,
      hu.depth, Member.maxPeak, List.map_cons, List.foldr_cons]
    simp only [Member.maxPeak] at i3
    omega

/-- **An object text nests one level deeper than the deepest of its values**, when they fit. -/
theorem peak_objectText {ms : List Member} (hms : ∀ m ∈ ms, m.Valid ∧ m.Fits) {inner : Bytes}
    (hin : ∀ c ∈ inner, isBlank c = true) :
    ({} : Scanner).peak (objectText ms inner) = Member.maxPeak ms + 1 := by
  cases ms with
  | nil =>
    obtain ⟨-, b2⟩ := feed_blanks (s := keyWait .beginStringOrEmpty) rfl hin
    have b3 := peak_blanks (s := keyWait .beginStringOrEmpty) rfl hin
    simp only [objectText, peak, step_open_object, peak_append, b2, b3, step_emptyObject]
    rfl
  | cons m ms =>
    obtain ⟨hm, hf⟩ := hms m (by simp)
    obtain ⟨-, h2, -⟩ := feed_member (.inr rfl) hm hf
    have i3 := @peak_membersTail ms (fun m' h => hms m' (by simp [h])) _ h2
    simp only [objectText, peak, step_open_object, peak_append, peak_member (.inr rfl) hm hf, i3,
      Member.maxPeak, List.map_cons, List.foldr_cons]
    simp only [Member.maxPeak] at i3
    show max 0 (max (peak {} m.value + 1) (_ + 1)) = _
    omega

/-- **A member whose value is too deep for the object** is refused there, whatever follows. -/
theorem run_member_deep {p : Phase} (hp : p = .beginString ∨ p = .beginStringOrEmpty)
    {m : Member} (hm : m.Valid) (hf : ¬ m.Fits) (rest : Bytes) :
    (Scanner.run (keyWait p) (m.text ++ rest)).err.isSome := by
  obtain ⟨h1, h2, -⟩ := feed_memberHead hp hm
  have hover : maxDepth < ({} : Scanner).peak m.value + [Frame.objectValue].length := by
    simp only [Member.Fits, Nat.not_lt] at hf
    simp only [List.length_singleton]
    omega
  rw [m.text_eq, List.append_assoc, run_append h1, h2, valueWait, List.append_assoc]
  exact run_embed_deep (by simp) good_start hm.value.inside (by simp [maxDepth]) hover _

/-- Among the members after the first, one too deep for the object stops the machine. -/
theorem run_membersTail_deep {ms : List Member} (hms : ∀ m ∈ ms, m.Valid)
    (hdeep : ∃ m ∈ ms, ¬ m.Fits) (rest : Bytes) :
    ∀ {u : Scanner}, AfterMember u → (Scanner.run u (membersTail ms ++ rest)).err.isSome := by
  induction ms with
  | nil => obtain ⟨m, hm, -⟩ := hdeep; cases hm
  | cons m ms ih =>
    intro u hu
    have hm := hms m (by simp)
    simp only [membersTail, List.cons_append, Scanner.run, step_comma hu]
    by_cases hf : m.Fits
    · -- this member fits, so the one too deep comes later
      have hdeep' : ∃ m' ∈ ms, ¬ m'.Fits := by
        obtain ⟨m', hm', hf'⟩ := hdeep
        rcases List.mem_cons.mp hm' with rfl | hm'
        · exact absurd hf hf'
        · exact ⟨m', hm', hf'⟩
      obtain ⟨h1, h2, -⟩ := feed_member (.inl rfl) hm hf
      rw [List.append_assoc, run_append h1]
      exact ih (fun m' h => hms m' (by simp [h])) hdeep' h2
    · rw [List.append_assoc]
      exact run_member_deep (.inl rfl) hm hf _

end Json.Scanner

open Json.Scanner

/-- **An object text with a value too deep for it is refused**, whatever follows it. -/
theorem run_objectText_deep {ms : List Member} (hms : ∀ m ∈ ms, m.Valid)
    (hdeep : ∃ m ∈ ms, ¬ m.Fits) (inner rest : Bytes) :
    (Scanner.run {} (objectText ms inner ++ rest)).err.isSome := by
  cases ms with
  | nil => obtain ⟨m, hm, -⟩ := hdeep; cases hm
  | cons m ms =>
    have hm := hms m (by simp)
    simp only [objectText, List.cons_append, Scanner.run, step_open_object]
    by_cases hf : m.Fits
    · have hdeep' : ∃ m' ∈ ms, ¬ m'.Fits := by
        obtain ⟨m', hm', hf'⟩ := hdeep
        rcases List.mem_cons.mp hm' with rfl | hm'
        · exact absurd hf hf'
        · exact ⟨m', hm', hf'⟩
      obtain ⟨h1, h2, -⟩ := feed_member (.inr rfl) hm hf
      rw [List.append_assoc, run_append h1]
      exact run_membersTail_deep (fun m' h => hms m' (by simp [h])) hdeep' rest h2
    · rw [List.append_assoc]
      exact run_member_deep (.inr rfl) hm hf _

/-- A run that refuses a byte fails the syntax check. -/
theorem checkValid_of_err {bs : Bytes} (h : (Scanner.run {} bs).err.isSome) :
    ∃ e, checkValid bs = .error e := by
  obtain ⟨e, he⟩ := Option.isSome_iff_exists.mp h
  exact ⟨e, by simp [checkValid, he]⟩

/-- **An object text whose values fit below the depth limit is one value.** -/
theorem isValue_objectText {ms : List Member} (hms : ∀ m ∈ ms, m.Valid ∧ m.Fits) {inner : Bytes}
    (hin : ∀ c ∈ inner, isBlank c = true) : IsValue (objectText ms inner) := by
  obtain ⟨h1, h2, -⟩ := feed_objectText hms hin
  refine ⟨h1, h2 ▸ objectDone_ended, ?_⟩
  cases ms <;> simp [objectText, isBlank]

/-- **Compact layout of an object text**: the members without blanks, values compacted. -/
theorem keep_objectText {ms : List Member} (hms : ∀ m ∈ ms, m.Valid ∧ m.Fits) {inner : Bytes}
    (hin : ∀ c ∈ inner, isBlank c = true) :
    keep {} (objectText ms inner) = objectText (ms.map Member.compact) [] :=
  (feed_objectText hms hin).2.2

end Inventory
