import Inventory.Proofs.Json.Extent
/-!
# Compact and indented layout of a valid text

Both layouts copy the bytes the machine reads as part of a value and change only blanks
between tokens. This module makes that precise for a text that is one value.

* `Scanner.keep` is the compact layout of a run: every byte except the blanks the machine
  skips. `compact` of blanks, a value and blanks is `keep` of the value (`compact_eq`), which
  is again a value with the same nesting (`isValue_keep`, `peak_keep`) and is its own compact
  layout (`keep_keep`).
* `Scanner.Near` relates two machines that differ only by a blank one of them has read after a
  number: such a blank ends the number, and every byte that may follow a value then takes both
  to the same state. It is the simulation between a text and its layouts.
* The indented layout of a valid text is valid and has the same compact layout
  (`indent_eq`, `keep_indent`): indentation is inserted only where the machine waits for a
  token or stands after a value inside a container, so it is skipped as blanks are.
-/

set_option autoImplicit false

namespace Inventory.Json

/-- The codes of the bytes a compact layout keeps: all but skipped blanks and the byte after
the top-level value. -/
def Code.kept : Code → Bool
  | .skipSpace | .done => false
  | _ => true

namespace Scanner

/-! ## 1. Kept bytes -/

/-- **The compact layout of a run**: the bytes whose codes are kept. -/
def keep (s : Scanner) : Bytes → Bytes
  | [] => []
  | c :: bs => if (s.step c).2.kept then c :: keep (s.step c).1 bs else keep (s.step c).1 bs

@[simp] theorem keep_nil (s : Scanner) : s.keep [] = [] := rfl

theorem keep_append (s : Scanner) (a b : Bytes) : s.keep (a ++ b) = s.keep a ++ (s.feed a).keep b := by
  induction a generalizing s with
  | nil => rfl
  | cons c a ih =>
    simp only [List.cons_append, keep, feed_cons, ih]
    split <;> rfl

/-- Blanks where a token is awaited are dropped. -/
theorem keep_blanks {s : Scanner} (hp : s.phase.waits = true) {ws : Bytes}
    (hws : ∀ c ∈ ws, isBlank c = true) : s.keep ws = [] := by
  induction ws with
  | nil => rfl
  | cons c ws ih =>
    simp only [keep, step_blank_waits (hws c (by simp)) hp]
    exact ih fun d hd => hws d (by simp [hd])

/-- Blanks after a value inside a container end a pending number and are dropped. -/
theorem feed_blanks_closes {s : Scanner} (hp : s.phase.closes = true) (hs : s.stack ≠ [])
    {ws : Bytes} (hws : ∀ c ∈ ws, isBlank c = true) (hne : ws ≠ []) :
    Inside s ws ∧ s.feed ws = { s with phase := .endValue } ∧ s.keep ws = [] := by
  obtain ⟨f, rest, hfs⟩ := List.exists_cons_of_ne_nil hs
  induction ws generalizing s with
  | nil => exact absurd rfl hne
  | cons c ws ih =>
    have hstep := step_blank_closes (hws c (by simp)) hp hfs
    simp only [inside_cons, feed_cons, keep, hstep, Code.kept, Bool.false_eq_true, ↓reduceIte]
    cases ws with
    | nil => exact ⟨⟨rfl, trivial⟩, rfl, rfl⟩
    | cons d ws' =>
      -- after the first blank the machine stands after a value, where blanks change nothing
      obtain ⟨h1, h2, h3⟩ := ih (s := { s with phase := .endValue }) rfl (by simp [hs])
        (fun e he => hws e (by simp_all)) (by simp) hfs
      exact ⟨⟨rfl, h1⟩, h2, h3⟩

/-! ## 2. Machines equal up to an ended number -/

/-- **Equal up to a blank after a number**: the same state, or the second has read a blank
that ended the number, or the value, the first still stands after. -/
def Near (o i : Scanner) : Prop :=
  o = i ∨ (o.phase.closes = true ∧ i = { o with phase := .endValue })

theorem near_refl (s : Scanner) : Near s s := .inl rfl

theorem Near.depth {o i : Scanner} (h : Near o i) : o.depth = i.depth := by
  rcases h with rfl | ⟨-, rfl⟩ <;> rfl

theorem Near.ended {o i : Scanner} (h : Near o i) (he : Ended i) : Ended o := by
  rcases h with rfl | ⟨hc, rfl⟩
  · exact he
  · exact ⟨he.err, he.stack, .inr hc⟩

/-- **A byte that is not skipped takes near machines to the same state**: after a blank that
ended a number, only a separator or a closing bracket is taken, and the number ends on it
too. -/
theorem near_step {o i : Scanner} {c : UInt8} (hn : Near o i) (h : (i.step c).2.stops = false)
    (hk : (i.step c).2 ≠ .skipSpace) : o.step c = i.step c := by
  rcases hn with rfl | ⟨hc, rfl⟩
  · rfl
  have hi : ({ o with phase := .endValue } : Scanner).step c = o.atEndValue c := by
    unfold step; rw [atEndValue_setPhase]
  rw [hi] at h hk ⊢
  -- the byte is taken after a value, so it is a colon, a comma or a closing bracket
  have ends : (c = 0x3A ∨ c = 0x2C ∨ c = 0x7D ∨ c = 0x5D) → o.step c = o.atEndValue c := by
    rintro (rfl | rfl | rfl | rfl) <;> exact step_of_closes hc rfl (by decide) (by decide) (by decide)
  match hs : o.stack with
  | [] => rw [atEndValue_nil o c hs] at h; cases h
  | f :: rest =>
    rcases atEndValue_cases c f with ⟨_, hm⟩ | ⟨_, hc', hm⟩ | ⟨_, hc', hm⟩ | ⟨_, hc', hm⟩ |
      ⟨_, hc', hm⟩ | ⟨_, hc', hm⟩ | ⟨p, hm⟩
    · rw [hm o rest hs] at hk; exact absurd rfl hk
    · exact ends (.inl hc')
    · exact ends (.inr (.inl hc'))
    · exact ends (.inr (.inr (.inl hc')))
    · exact ends (.inr (.inl hc'))
    · exact ends (.inr (.inr (.inr hc')))
    · rw [hm o rest hs] at h; cases h

/-- A skipped blank keeps machines near. -/
theorem near_skip {o i : Scanner} {c : UInt8} (hn : Near o i) (hg : Good i)
    (h : (i.step c).2 = .skipSpace) : Near o (i.step c).1 := by
  rcases (step_skipSpace hg h).2 with hi | ⟨hc, hi⟩
  · rw [hi]; exact hn
  · rw [hi]
    rcases hn with rfl | ⟨ho, rfl⟩
    · exact .inr ⟨hc, rfl⟩
    · exact .inr ⟨ho, rfl⟩

/-- **The compact layout simulates the run it is taken from**: fed the kept bytes, a near
machine takes them all, stays near, keeps them all, and opens as many containers at once. -/
theorem keep_near {v : Bytes} : ∀ {o i : Scanner}, Near o i → Good i → Inside i v →
    Inside o (i.keep v) ∧ Near (o.feed (i.keep v)) (i.feed v) ∧ o.keep (i.keep v) = i.keep v ∧
      o.peak (i.keep v) = i.peak v := by
  induction v with
  | nil => exact fun hn _ _ => ⟨trivial, hn, rfl, hn.depth⟩
  | cons c v ih =>
    intro o i hn hg hin
    obtain ⟨h1, h2⟩ := hin
    have hg' := step_good hg h1
    by_cases hk : (i.step c).2.kept = true
    · -- a kept byte: both machines take it to the same state
      have hsk : (i.step c).2 ≠ .skipSpace := by intro h; rw [h] at hk; cases hk
      have ho := near_step hn h1 hsk
      obtain ⟨ih1, ih2, ih3, ih4⟩ := ih (near_refl _) hg' h2
      simp only [keep, hk, ↓reduceIte, inside_cons, feed_cons, ho, peak]
      exact ⟨⟨h1, ih1⟩, ih2, by rw [ih3], by rw [ih4, hn.depth]⟩
    · -- a skipped blank: the kept bytes are those of the rest
      have hsk : (i.step c).2 = .skipSpace := by
        revert hk h1; cases (i.step c).2 <;> simp [Code.kept]
      obtain ⟨ih1, ih2, ih3, ih4⟩ := ih (near_skip hn hg hsk) hg' h2
      simp only [keep, hk, Bool.false_eq_true, ↓reduceIte, feed_cons, peak]
      refine ⟨ih1, ih2, ih3, ?_⟩
      have hd : (i.step c).1.depth = i.depth := by
        rcases (step_skipSpace hg hsk).2 with h | ⟨-, h⟩ <;> rw [h]
      have := depth_le_peak (i.step c).1 v
      omega

/-! ## 3. Punctuation -/

/-- **A colon, a comma or a closing bracket outside a string is read after a value**, of a
container that stays open until it is read, and in a state that waits for a token or stands
after a value. -/
theorem step_punct {s : Scanner} {c : UInt8} (hg : Good s)
    (hc : c = 0x2C ∨ c = 0x3A ∨ c = 0x7D ∨ c = 0x5D) (h : (s.step c).2.stops = false)
    (hk : (s.step c).2 ≠ .continue) (hsk : (s.step c).2 ≠ .skipSpace) :
    ∃ u : Scanner, s.step c = u.atEndValue c ∧ u.stack ≠ [] ∧
      (s.phase.waits = true ∨ (s.phase.closes = true ∧ u = s)) := by
  rcases step_via hg c with h1 | h1 | ⟨u, h1, -, -, -, hw⟩ | h1 | h1 | h1 | h1
  · rw [h1] at h
    rcases hc with rfl | rfl | rfl | rfl <;> simp [atBeginValue, isBlank, fail] at h
  · rw [h1] at h
    rcases hc with rfl | rfl | rfl | rfl <;> simp [atBeginString, isBlank, fail] at h
  · refine ⟨u, h1, fun hu => ?_, hw⟩
    rw [h1, atEndValue_nil u c hu] at h; cases h
  · exact absurd h1 hk
  · exact absurd h1 hsk
  all_goals rw [h1] at h; cases h

/-- After a comma or a colon the machine waits for a token. -/
theorem step_separator {s : Scanner} {c : UInt8} (hg : Good s) (hc : c = 0x2C ∨ c = 0x3A)
    (h : (s.step c).2.stops = false) (hk : (s.step c).2 ≠ .continue)
    (hsk : (s.step c).2 ≠ .skipSpace) : (s.step c).1.phase.waits = true := by
  obtain ⟨u, hu, hne, -⟩ := step_punct hg (by rcases hc with hc | hc <;> simp [hc]) h hk hsk
  rw [hu] at h ⊢
  obtain ⟨f, rest, hs⟩ := List.exists_cons_of_ne_nil hne
  rcases atEndValue_cases c f with ⟨hb, hm⟩ | ⟨_, _, hm⟩ | ⟨_, _, hm⟩ | ⟨_, hc', hm⟩ | ⟨_, _, hm⟩ |
    ⟨_, hc', hm⟩ | ⟨p, hm⟩
  all_goals rw [hm u rest hs] at h ⊢
  · rcases hc with rfl | rfl <;> cases hb
  · rfl
  · rfl
  · rcases hc with rfl | rfl <;> cases hc'
  · rfl
  · rcases hc with rfl | rfl <;> cases hc'
  · cases h

/-- After an opening bracket outside a string the machine waits for a token. -/
theorem step_bracket {s : Scanner} {c : UInt8} (hg : Good s) (hc : c = 0x7B ∨ c = 0x5B)
    (h : (s.step c).2.stops = false) (hk : (s.step c).2 ≠ .continue)
    (hsk : (s.step c).2 ≠ .skipSpace) : (s.step c).1.phase.waits = true := by
  rcases step_via hg c with h1 | h1 | ⟨u, h1, -⟩ | h1 | h1 | h1 | h1
  · rw [h1] at h ⊢
    rcases atBeginValue_cases c with ⟨_, hm⟩ | ⟨_, hm⟩ | ⟨_, hm⟩ | ⟨p, -, -, -, hm⟩ | hm
    all_goals rw [hm s] at h ⊢
    · rcases hc with rfl | rfl <;> simp_all
    · rw [push_phase (by intro he; rw [he] at h; cases h)]; rfl
    · rw [push_phase (by intro he; rw [he] at h; cases h)]; rfl
    · -- a literal does not begin with a bracket
      have h' := congrArg Prod.snd (hm {})
      simp only at h'
      rcases hc with rfl | rfl <;> exact absurd h' (by decide)
    · cases h
  · rw [h1] at h
    rcases hc with rfl | rfl <;> simp [atBeginString, isBlank, fail] at h
  · rw [h1] at h
    cases hs : u.stack with
    | nil => rw [atEndValue_nil u c hs] at h; cases h
    | cons f rest =>
      rcases atEndValue_cases c f with ⟨hb, -⟩ | ⟨_, hc', -⟩ | ⟨_, hc', -⟩ | ⟨_, hc', -⟩ |
        ⟨_, hc', -⟩ | ⟨_, hc', -⟩ | ⟨p, hm⟩
      · rcases hc with rfl | rfl <;> cases hb
      all_goals first | (rcases hc with rfl | rfl <;> cases hc') | (rw [hm u rest hs] at h; cases h)
  · exact absurd h1 hk
  · exact absurd h1 hsk
  all_goals rw [h1] at h; cases h

/-- Only a closing bracket closes a container. -/
theorem step_close_byte {s : Scanner} {c : UInt8} (hg : Good s)
    (h : (s.step c).2 = .endObject ∨ (s.step c).2 = .endArray) : c = 0x7D ∨ c = 0x5D := by
  obtain ⟨u, hu, -⟩ := step_afterValue hg (by rcases h with h | h <;> rw [h] <;> rfl)
  rw [hu] at h
  match hs : u.stack with
  | [] => rw [atEndValue_nil u c hs] at h; simp at h
  | f :: rest =>
    rcases atEndValue_cases c f with ⟨_, hm⟩ | ⟨_, _, hm⟩ | ⟨_, _, hm⟩ | ⟨_, hc', hm⟩ | ⟨_, _, hm⟩ |
      ⟨_, hc', hm⟩ | ⟨p, hm⟩
    all_goals rw [hm u rest hs] at h
    all_goals first | exact .inl hc' | exact .inr hc' | simp at h

end Scanner

open Scanner

/-! ## 3. The compact layout -/

theorem compactLoop_append {s : Scanner} {a : Bytes} (h : Inside s a) (acc b : Bytes) :
    compactLoop s acc (a ++ b) = compactLoop (s.feed a) ((s.keep a).reverse ++ acc) b := by
  induction a generalizing s acc with
  | nil => rfl
  | cons c a ih =>
    obtain ⟨h1, h2⟩ := h
    rcases hst : s.step c with ⟨s', code⟩
    rw [hst] at h1 h2
    cases code
    case error => cases h1
    case done => cases h1
    all_goals simp only [List.cons_append, compactLoop, feed_cons, keep, hst, Code.kept,
      Bool.false_eq_true, ↓reduceIte, ih h2, List.reverse_cons, List.append_assoc,
      List.nil_append]

/-- After the value, blanks are done and nothing more is kept. -/
theorem compactLoop_ended {s : Scanner} (he : Ended s) {ws : Bytes}
    (hws : ∀ c ∈ ws, isBlank c = true) (acc : Bytes) :
    (compactLoop s acc ws).2 = acc ∧ Ended (compactLoop s acc ws).1 := by
  induction ws generalizing s with
  | nil => exact ⟨rfl, he⟩
  | cons c ws ih =>
    obtain ⟨hdone, he'⟩ := step_ended_blank he (hws c (by simp))
    have hloop : compactLoop s acc (c :: ws) = compactLoop (s.step c).1 acc ws := by
      rcases hst : s.step c with ⟨s', code⟩
      rw [hst] at hdone; subst hdone
      simp only [compactLoop, hst]
    rw [hloop]
    exact ih he' fun d hd => hws d (by simp [hd])

/-- **The compact layout of a valid text** is the kept bytes of its value. -/
theorem compact_eq {ws v ws' : Bytes} (hws : ∀ c ∈ ws, isBlank c = true) (hv : IsValue v)
    (hws' : ∀ c ∈ ws', isBlank c = true) : compact (ws ++ v ++ ws') = .ok (keep {} v) := by
  obtain ⟨hin0, hfeed0⟩ := feed_blanks (s := {}) rfl hws
  have hin : Inside {} (ws ++ v) := by rw [inside_append, hfeed0]; exact ⟨hin0, hv.inside⟩
  have hkeep : keep {} (ws ++ v) = keep {} v := by rw [keep_append, keep_blanks rfl hws, hfeed0]; rfl
  have hfeed : ({} : Scanner).feed (ws ++ v) = ({} : Scanner).feed v := by rw [feed_append, hfeed0]
  obtain ⟨hacc, hend⟩ := compactLoop_ended hv.ended hws' ((keep {} v).reverse ++ [])
  unfold compact
  rw [compactLoop_append hin, hfeed, hkeep]
  rcases hloop : compactLoop (({} : Scanner).feed v) ((keep {} v).reverse ++ []) ws' with ⟨s, acc⟩
  rw [hloop] at hacc hend
  simp only at hacc hend
  subst hacc
  simp only [hend.err]
  rcases hf : s.finish with ⟨s', code⟩
  have hd := finish_ended hend
  rw [hf] at hd
  subst hd
  simp

/-- **The compact layout of a value is a value.** -/
theorem isValue_keep {v : Bytes} (hv : IsValue v) : IsValue (keep {} v) := by
  obtain ⟨h1, h2, -, -⟩ := keep_near (near_refl {}) good_start hv.inside
  refine ⟨h1, h2.ended hv.ended, ?_⟩
  -- the first byte of a value is not blank, so it is kept
  match v, hv with
  | c :: v', hv =>
    have hb : isBlank c = false := hv.lead c rfl
    have hk : (({} : Scanner).step c).2.kept = true := by
      have hs : (({} : Scanner).step c).2 ≠ .skipSpace := fun h =>
        absurd (step_skipSpace good_start h).1 (by simp [hb])
      have hd : (({} : Scanner).step c).2.stops = false := hv.inside.1
      revert hs hd; cases (({} : Scanner).step c).2 <;> simp [Code.kept]
    simp only [Scanner.keep, hk, ↓reduceIte, List.head?_cons, Option.mem_def, Option.some.injEq,
      forall_eq']
    exact hb


/-- **Compacting twice changes nothing.** -/
theorem keep_keep (v : Bytes) (hv : Inside {} v) : keep {} (keep {} v) = keep {} v :=
  (keep_near (near_refl {}) good_start hv).2.2.1

/-- **Compacting keeps the nesting.** -/
theorem peak_keep (v : Bytes) (hv : Inside {} v) : Scanner.peak {} (keep {} v) = Scanner.peak {} v :=
  (keep_near (near_refl {}) good_start hv).2.2.2

/-! ## 5. The indented layout -/

theorem newline_blank (d : Nat) : ∀ b ∈ (newline d []).reverse, isBlank b = true := by
  intro b hb
  simp only [newline, List.mem_reverse, List.mem_append, List.mem_replicate, List.mem_cons,
    List.not_mem_nil, or_false] at hb
  rcases hb with ⟨-, rfl⟩ | rfl <;> rfl

/-- The indenting pass only ever adds to the front of what it has written. -/
theorem indentLoop_acc (s : Scanner) (owed : Bool) (d : Nat) (acc bs : Bytes) :
    indentLoop s owed d acc bs = indentLoop s owed d [] bs ++ acc := by
  induction bs generalizing s owed d acc with
  | nil => rfl
  | cons c bs ih =>
    simp only [indentLoop]
    split
    · rfl
    · rw [ih _ _ _ acc]
    · generalize (owed && _ != Code.endObject && _ != Code.endArray) = op
      cases op <;> simp only [Bool.false_eq_true, ↓reduceIte] <;> split_ifs <;>
        (rw [ih]; conv => rhs; rw [ih]) <;> simp [newline]

/-- **What the indenting pass writes for one byte**: blanks before it where the machine waits
for a token or stands after a value before a closing bracket, the byte, and blanks after it
where the machine then waits. Near machines read it as the byte alone, and keep only it. -/
theorem chunk_near {o i : Scanner} {c : UInt8} {pre post : Bytes} (hn : Near o i) (hg : Good i)
    (h1 : (i.step c).2.stops = false) (hsk : (i.step c).2 ≠ .skipSpace)
    (hpre : ∀ b ∈ pre, isBlank b = true)
    (hpre' : pre = [] ∨ i.phase.waits = true ∨
      (i.phase.closes = true ∧ i.stack ≠ [] ∧ (c = 0x7D ∨ c = 0x5D)))
    (hpost : ∀ b ∈ post, isBlank b = true) (hpost' : post = [] ∨ (i.step c).1.phase.waits = true) :
    Inside o (pre ++ c :: post) ∧ o.feed (pre ++ c :: post) = (i.step c).1 ∧
      o.keep (pre ++ c :: post) = [c] := by
  have hkept : (i.step c).2.kept = true := by
    revert h1 hsk; cases (i.step c).2 <;> simp [Code.kept]
  -- the blanks before the byte leave a machine that takes the byte as `i` does
  obtain ⟨o₁, hin₁, hfeed₁, hkeep₁, hstep₁⟩ : ∃ o₁ : Scanner, Inside o pre ∧ o.feed pre = o₁ ∧
      o.keep pre = [] ∧ o₁.step c = i.step c := by
    rcases hpre' with rfl | hw | ⟨hc, hs, hcl⟩
    · exact ⟨o, trivial, rfl, rfl, near_step hn h1 hsk⟩
    · have ho : o = i := by
        rcases hn with h | ⟨-, rfl⟩
        · exact h
        · simp [Phase.waits] at hw
      subst ho
      obtain ⟨hin, hfeed⟩ := feed_blanks hw hpre
      exact ⟨o, hin, hfeed, keep_blanks hw hpre, rfl⟩
    · have hoc : o.phase.closes = true ∧ o.stack = i.stack ∧
          i.atEndValue c = o.atEndValue c := by
        rcases hn with rfl | ⟨ho, rfl⟩
        · exact ⟨hc, rfl, rfl⟩
        · exact ⟨ho, rfl, atEndValue_setPhase o _ c⟩
      have hi : i.step c = i.atEndValue c := by
        rcases hcl with rfl | rfl <;> exact step_of_closes hc rfl (by decide) (by decide) (by decide)
      cases pre with
      | nil => exact ⟨o, trivial, rfl, rfl, near_step hn h1 hsk⟩
      | cons b pre' =>
        obtain ⟨hin, hfeed, hkeep⟩ := feed_blanks_closes hoc.1 (hoc.2.1 ▸ hs) hpre (by simp)
        refine ⟨_, hin, hfeed, hkeep, ?_⟩
        rw [hi, hoc.2.2]
        unfold step; exact atEndValue_setPhase o _ c
  -- the blanks after it change nothing
  obtain ⟨hin₂, hfeed₂, hkeep₂⟩ : Inside (i.step c).1 post ∧ (i.step c).1.feed post = (i.step c).1 ∧
      (i.step c).1.keep post = [] := by
    rcases hpost' with rfl | hw
    · exact ⟨trivial, rfl, rfl⟩
    · exact ⟨(feed_blanks hw hpost).1, (feed_blanks hw hpost).2, keep_blanks hw hpost⟩
  refine ⟨?_, ?_, ?_⟩
  · rw [inside_append, hfeed₁, inside_cons, hstep₁]; exact ⟨hin₁, h1, hin₂⟩
  · rw [feed_append, hfeed₁, feed_cons, hstep₁, hfeed₂]
  · rw [keep_append, hkeep₁, hfeed₁]
    simp only [List.nil_append, keep, hstep₁, hkept, ↓reduceIte, hkeep₂]

/-- A blank the machine skips is not written. -/
theorem indentLoop_skip {i : Scanner} {owed : Bool} {d : Nat} {acc : Bytes} {c : UInt8}
    (v : Bytes) (hsk : (i.step c).2 = .skipSpace) :
    indentLoop i owed d acc (c :: v) = indentLoop (i.step c).1 owed d acc v := by
  rcases hst : i.step c with ⟨s', code⟩
  rw [hst] at hsk
  dsimp only at hsk
  subst hsk
  simp only [indentLoop, hst]

/-- **One step of the indenting pass**: a byte the machine reads on, without skipping it, is
written with blanks before it only where the machine waits for a token or stands after a value
before a closing bracket, and with blanks after it only where the machine then waits. A line
break stays owed only where the machine waits for a token. -/
theorem indentLoop_step {i : Scanner} {owed : Bool} {d : Nat} {c : UInt8} (v : Bytes)
    (hg : Good i) (h1 : (i.step c).2.stops = false) (hsk : (i.step c).2 ≠ .skipSpace)
    (how : owed = true → i.phase.waits = true) :
    ∃ (owed' : Bool) (d' : Nat) (pre post : Bytes),
      indentLoop i owed d [] (c :: v) =
        indentLoop (i.step c).1 owed' d' (pre ++ c :: post).reverse v ∧
      (∀ b ∈ pre, isBlank b = true) ∧
      (pre = [] ∨ i.phase.waits = true ∨
        (i.phase.closes = true ∧ i.stack ≠ [] ∧ (c = 0x7D ∨ c = 0x5D))) ∧
      (∀ b ∈ post, isBlank b = true) ∧ (post = [] ∨ (i.step c).1.phase.waits = true) ∧
      (owed' = true → (i.step c).1.phase.waits = true) := by
  simp only [indentLoop]
  split
  · rename_i heq; rw [heq] at h1; cases h1
  · rename_i heq; rw [heq] at hsk; exact absurd rfl hsk
  · rename_i s' code herr hskip heq
    have hs' : s' = (i.step c).1 := by rw [heq]
    have hcode : code = (i.step c).2 := by rw [heq]
    subst hs' hcode
    clear heq
    have nl := newline_blank
    generalize hop : (owed && (i.step c).2 != Code.endObject &&
      (i.step c).2 != Code.endArray) = op
    -- an owed break that opens no line is the closing bracket of an empty container
    have hcodes : owed = true → op = false →
        (i.step c).2 = .endObject ∨ (i.step c).2 = .endArray := by
      intro ho hop'
      rw [ho, hop'] at hop; revert hop; cases (i.step c).2 <;> simp
    have hclosing : owed = true → op = false → c = 0x7D ∨ c = 0x5D :=
      fun ho hop' => step_close_byte hg (hcodes ho hop')
    cases op <;> simp only [Bool.false_eq_true, ↓reduceIte]
    · split_ifs with hcont hbr hcomma hcolon hclose howed
      · refine ⟨owed, d, [], [], by simp, by simp, .inl rfl, by simp, .inl rfl, ?_⟩
        intro ho
        rcases hcodes ho rfl with h | h <;> rw [h] at hcont <;> cases hcont
      · have hw := step_bracket hg (by simpa using hbr) h1 (by simpa using hcont) hsk
        exact ⟨true, d, [], [], by simp, by simp, .inl rfl, by simp, .inl rfl, fun _ => hw⟩
      · have hc : c = 0x2C := by simpa using hcomma
        have hw := step_separator hg (.inl hc) h1 (by simpa using hcont) hsk
        refine ⟨owed, d, [], (newline d []).reverse, by simp [newline], by simp, .inl rfl, nl d,
          .inr hw, ?_⟩
        intro ho; rcases hclosing ho rfl with h | h <;> rw [hc] at h <;> cases h
      · have hc : c = 0x3A := by simpa using hcolon
        have hw := step_separator hg (.inr hc) h1 (by simpa using hcont) hsk
        refine ⟨owed, d, [], [0x20], by simp, by simp, .inl rfl, by simp; rfl, .inr hw, ?_⟩
        intro ho; rcases hclosing ho rfl with h | h <;> rw [hc] at h <;> cases h
      · exact ⟨false, d, [], [], by simp, by simp, .inl rfl, by simp, .inl rfl, by simp⟩
      · -- a closing bracket after a value goes on a line of its own
        have hcl : c = 0x7D ∨ c = 0x5D := by simpa using hclose
        obtain ⟨u, hu, hne, hw⟩ := step_punct hg (by rcases hcl with h | h <;> simp [h]) h1
          (by simpa using hcont) hsk
        have hpre : i.phase.waits = true ∨
            (i.phase.closes = true ∧ i.stack ≠ [] ∧ (c = 0x7D ∨ c = 0x5D)) := by
          rcases hw with hw | ⟨hc, rfl⟩
          · exact .inl hw
          · exact .inr ⟨hc, hne, hcl⟩
        exact ⟨owed, d - 1, (newline (d - 1) []).reverse, [], by simp [newline], nl _, .inr hpre,
          by simp, .inl rfl, by simp [howed]⟩
      · refine ⟨owed, d, [], [], by simp, by simp, .inl rfl, by simp, .inl rfl, ?_⟩
        intro ho; rcases hclosing ho rfl with h | h <;> simp [h] at hclose
    · -- a line is opened first: the break was owed, so the machine waits for a token
      have hw : i.phase.waits = true := how (by revert hop; cases owed <;> simp)
      split_ifs with hcont hbr hcomma hcolon hclose
      · exact ⟨false, d + 1, (newline (d + 1) []).reverse, [], by simp [newline], nl _,
          .inr (.inl hw), by simp, .inl rfl, by simp⟩
      · have hw' := step_bracket hg (by simpa using hbr) h1 (by simpa using hcont) hsk
        exact ⟨true, d + 1, (newline (d + 1) []).reverse, [], by simp [newline], nl _,
          .inr (.inl hw), by simp, .inl rfl, fun _ => hw'⟩
      · have hw' := step_separator hg (.inl (by simpa using hcomma)) h1 (by simpa using hcont) hsk
        exact ⟨false, d + 1, (newline (d + 1) []).reverse, (newline (d + 1) []).reverse,
          by simp [newline], nl _, .inr (.inl hw), nl _, .inr hw', by simp⟩
      · have hw' := step_separator hg (.inr (by simpa using hcolon)) h1 (by simpa using hcont) hsk
        exact ⟨false, d + 1, (newline (d + 1) []).reverse, [0x20], by simp [newline], nl _,
          .inr (.inl hw), by simp; rfl, .inr hw', by simp⟩
      · refine ⟨false, d + 1 - 1,
          (newline (d + 1) []).reverse ++ (newline (d + 1 - 1) []).reverse, [],
          by simp [newline], ?_, .inr (.inl hw), by simp, .inl rfl, by simp⟩
        intro b hb
        rcases List.mem_append.mp hb with hb | hb
        · exact nl _ b hb
        · exact nl _ b hb
      · exact ⟨false, d + 1, (newline (d + 1) []).reverse, [], by simp [newline], nl _,
          .inr (.inl hw), by simp, .inl rfl, by simp⟩

/-- **The indenting pass simulates the run it lays out**: a near machine takes all it writes,
stays near, and keeps exactly the kept bytes of the input. A line break is owed only where the
machine waits for a token. -/
theorem indentLoop_near {v : Bytes} : ∀ {i o : Scanner} {owed : Bool} {d : Nat}, Good i →
    Inside i v → Near o i → (owed = true → i.phase.waits = true) →
    Inside o (indentLoop i owed d [] v).reverse ∧
      Near (o.feed (indentLoop i owed d [] v).reverse) (i.feed v) ∧
      o.keep (indentLoop i owed d [] v).reverse = i.keep v := by
  induction v with
  | nil => exact fun _ _ hn _ => ⟨trivial, hn, rfl⟩
  | cons c v ih =>
    intro i o owed d hg hin hn how
    obtain ⟨h1, h2⟩ := hin
    have hg' := step_good hg h1
    by_cases hsk : (i.step c).2 = .skipSpace
    · -- a skipped blank: nothing is written, and the machines stay near
      rw [indentLoop_skip v hsk]
      obtain ⟨ih1, ih2, ih3⟩ := ih (d := d) hg' h2 (near_skip hn hg hsk) (fun h => by
        rcases (step_skipSpace hg hsk).2 with he | ⟨hc, -⟩
        · rw [he]; exact how h
        · exact absurd hc (by rw [Phase.closes_of_waits (how h)]; simp))
      refine ⟨ih1, ih2, ?_⟩
      rw [ih3]
      simp only [keep, hsk, Code.kept, Bool.false_eq_true, ↓reduceIte]
    · -- one byte written with blanks around it, then the rest from the state after the byte
      have hkept : (i.step c).2.kept = true := by
        revert h1 hsk; cases (i.step c).2 <;> simp [Code.kept]
      obtain ⟨owed', d', pre, post, hloop, hpre, hpre', hpost, hpost', how'⟩ :=
        indentLoop_step v hg h1 hsk how
      obtain ⟨hc1, hc2, hc3⟩ := chunk_near hn hg h1 hsk hpre hpre' hpost hpost'
      obtain ⟨ih1, ih2, ih3⟩ := ih (o := (i.step c).1) (d := d') hg' h2 (near_refl _) how'
      rw [hloop, indentLoop_acc, List.reverse_append, List.reverse_reverse]
      refine ⟨?_, ?_, ?_⟩
      · rw [inside_append, hc2]; exact ⟨hc1, ih1⟩
      · rw [feed_append, hc2, feed_cons]; exact ih2
      · rw [keep_append, hc2, hc3, ih3]
        simp only [keep, hkept, ↓reduceIte, List.singleton_append]

/-- The indented layout of a value is what the indenting pass writes. -/
theorem indent_eq {v : Bytes} (hv : IsValue v) :
    indent v = .ok (indentLoop {} false 0 [] v).reverse := by
  have hc : checkValid v = .ok () := by
    simpa using @IsValue.checkValid v hv [] [] (by simp) (by simp)
  simp only [indent, hc]

/-- **The indented layout of a value is blanks and a value with the same compact layout.** -/
theorem IsValue.indent_split {v : Bytes} (hv : IsValue v) :
    ∃ ws w, (indentLoop {} false 0 [] v).reverse = ws ++ w ∧ (∀ c ∈ ws, isBlank c = true) ∧
      IsValue w ∧ keep {} w = keep {} v := by
  obtain ⟨h1, h2, h3⟩ := @indentLoop_near v {} {} false 0 good_start hv.inside (near_refl {})
    (by simp)
  obtain ⟨ws, w, hsplit, hws, hw⟩ := isValue_of_run h1 (h2.ended hv.ended)
  refine ⟨ws, w, hsplit, hws, hw, ?_⟩
  rw [← h3, hsplit, keep_append, keep_blanks rfl hws, (feed_blanks (s := {}) rfl hws).2]
  rfl

/-- **Indenting changes no token**: the compact layout of the indented text, followed by
blanks, is that of the text. -/
theorem compact_indent {v ws' : Bytes} (hv : IsValue v) (hws' : ∀ c ∈ ws', isBlank c = true) :
    compact ((indentLoop {} false 0 [] v).reverse ++ ws') = .ok (keep {} v) := by
  obtain ⟨ws, w, hsplit, hws, hw, hkeep⟩ := hv.indent_split
  rw [hsplit, compact_eq hws hw hws', hkeep]

end Inventory.Json
