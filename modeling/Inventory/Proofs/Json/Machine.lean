import Inventory.Json.Layout
import Mathlib.Tactic.SplitIfs
/-!
# Runs of the syntax machine

Every reader and printer of `Inventory.Json` drives `Scanner.step` over a byte string and acts
on the codes it returns. This module is the theory of such runs, on which the laws of
documents rest.

The step function decides its move from the phase, the innermost open container and the byte,
never from the rest of the state. The inversion lemmas of section 3 say so once for each helper
of `step` (`atBeginValue_cases`, `atEndValue_cases`, ...), each move stated for every state at
once; everything later is a case split over them, not over the code of `step`.

* `Scanner.feed` is the state after a run, `Scanner.Inside` says that no byte of it was
  refused and none ended the top-level value, and `Scanner.peak` is the most containers open
  at once along it.
* `Scanner.Good` is what every state reached from the start satisfies while nothing has been
  refused (`step_good`): the depth counts the open containers, and the phase agrees with the
  innermost one.
* A blank byte either sits inside a string, or is skipped and at most ends a pending number
  (`step_skipSpace`, `step_blank`); a byte from `0x80` up is taken only inside a string, where
  it changes nothing (`step_high`).
* `Scanner.Ended` is a state that holds one whole top-level value; `IsValue` is a byte string
  that is exactly one value, and such a string passes `checkValid` (`checkValid_of_isValue`).
-/

set_option autoImplicit false

namespace Inventory.Json

/-! ## 1. Phases and codes -/

/-- The phases in which the value read so far may stop at the next byte: after a value, or
after a digit of a number that may end there. -/
def Phase.closes : Phase → Bool
  | .endValue | .one | .zero | .dot0 | .exp0 => true
  | _ => false

/-- The phases a byte can move the machine to without opening or closing a container: all but
the two right after an opening bracket, the end of the top-level value and a refusal. A word
must still expect at least one lower-case letter. -/
def Phase.plain : Phase → Bool
  | .beginValueOrEmpty | .beginStringOrEmpty | .endTop | .failed => false
  | .word _ rest => !rest.isEmpty && rest.all fun e => 'a' ≤ e && e ≤ 'z'
  | _ => true

/-- A phase seen from inside an enclosing container: the end of a top-level value is the end of
a value there. -/
def Phase.lift : Phase → Phase
  | .endTop => .endValue
  | p => p

/-- A code that stops the readers: a refusal, or the end of the top-level value. -/
def Code.stops : Code → Bool
  | .done | .error => true
  | _ => false

/-- The codes of a byte read after a value: a colon, a comma or a closing bracket. -/
def Code.afterValue : Code → Bool
  | .objectKey | .objectValue | .arrayValue | .endObject | .endArray => true
  | _ => false

@[simp] theorem Code.stops_error : Code.error.stops = true := rfl

@[simp] theorem Code.stops_done : Code.done.stops = true := rfl

theorem Phase.lift_of_ne {p : Phase} (h : p ≠ .endTop) : p.lift = p := by
  cases p <;> simp_all [Phase.lift]

theorem Phase.plain_ne_endTop {p : Phase} (h : p.plain = true) : p ≠ .endTop := by
  rintro rfl; simp [Phase.plain] at h

/-- The phases that wait for a token: a blank is skipped there and changes nothing. -/
def Phase.waits : Phase → Bool
  | .beginValue | .beginValueOrEmpty | .beginStringOrEmpty | .beginString => true
  | _ => false

theorem Phase.closes_of_waits {p : Phase} (h : p.waits = true) : p.closes = false := by
  cases p <;> simp_all [Phase.waits, Phase.closes]

/-! Bytes from `0x80` up are none of the bytes the grammar names. -/

theorem isBlank_of_high {c : UInt8} (h : 0x80 ≤ c) : isBlank c = false := by
  unfold isBlank; grind

theorem isDigit_of_high {c : UInt8} (h : 0x80 ≤ c) : isDigit c = false := by
  unfold isDigit; grind

theorem isHex_of_high {c : UInt8} (h : 0x80 ≤ c) : isHex c = false := by
  unfold isHex isDigit; grind

theorem beq_of_high {c b : UInt8} (h : 0x80 ≤ c) (hb : b < 0x80) : (c == b) = false := by
  grind

theorem isBlank_cases {c : UInt8} (h : isBlank c = true) :
    isDigit c = false ∧ c ≠ 0x2E ∧ c ≠ 0x65 ∧ c ≠ 0x45 := by
  unfold isBlank at h; unfold isDigit; grind

namespace Scanner

/-- Stepping a state whose phase is known is stepping it with that phase written in, so a proof
can split on the phase and still unfold `step` on a literal phase. -/
theorem step_phase_eq {s : Scanner} {p : Phase} (hp : s.phase = p) (c : UInt8) :
    s.step c = ({ s with phase := p } : Scanner).step c := by
  rw [← hp]

/-! ## 2. Runs -/

/-- The state after feeding every byte, codes ignored. -/
def feed (s : Scanner) (bs : Bytes) : Scanner := bs.foldl (fun s c => (s.step c).1) s

@[simp] theorem feed_nil (s : Scanner) : s.feed [] = s := rfl

@[simp] theorem feed_cons (s : Scanner) (c : UInt8) (bs : Bytes) :
    s.feed (c :: bs) = (s.step c).1.feed bs := rfl

theorem feed_append (s : Scanner) (a b : Bytes) : s.feed (a ++ b) = (s.feed a).feed b := by
  simp only [feed, List.foldl_append]

/-- **A run inside one value**: no byte is refused and none ends the top-level value. -/
def Inside : Scanner → Bytes → Prop
  | _, [] => True
  | s, c :: bs => (s.step c).2.stops = false ∧ Inside (s.step c).1 bs

@[simp] theorem inside_nil (s : Scanner) : Inside s [] := trivial

@[simp] theorem inside_cons (s : Scanner) (c : UInt8) (bs : Bytes) :
    Inside s (c :: bs) ↔ (s.step c).2.stops = false ∧ Inside (s.step c).1 bs := Iff.rfl

theorem inside_append (s : Scanner) (a b : Bytes) :
    Inside s (a ++ b) ↔ Inside s a ∧ Inside (s.feed a) b := by
  induction a generalizing s with
  | nil => simp
  | cons c a ih => simp [ih, and_assoc]

/-- The most containers open at once along a run, the start included. -/
def peak (s : Scanner) : Bytes → Nat
  | [] => s.depth
  | c :: bs => max s.depth (peak (s.step c).1 bs)

theorem depth_le_peak (s : Scanner) : ∀ bs : Bytes, s.depth ≤ s.peak bs
  | [] => Nat.le_refl _
  | _ :: _ => Nat.le_max_left _ _

theorem peak_append (s : Scanner) (a b : Bytes) :
    s.peak (a ++ b) = max (s.peak a) ((s.feed a).peak b) := by
  induction a generalizing s with
  | nil => simp [peak, depth_le_peak]
  | cons c a ih => simp [peak, ih, Nat.max_assoc]

/-! ## 3. One byte, by the helper that takes it

Each lemma lists the moves of one helper of `step`, with what the byte must be for each. A move
is stated for every state at once (for `atEndValue`, every state with the same innermost
container), which is what lets a later proof compare two runs that take the same bytes. -/

@[simp] theorem fail_snd (s : Scanner) (c : UInt8) (p : Place) : (s.fail c p).2 = .error := rfl

theorem atEndTop_snd (s : Scanner) (c : UInt8) : (s.atEndTop c).2 = .done := by
  unfold atEndTop; split <;> rfl

/-- **Where a value may begin.** -/
theorem atBeginValue_cases (c : UInt8) :
    (isBlank c = true ∧ ∀ s : Scanner, s.atBeginValue c = (s, .skipSpace)) ∨
    (c = 0x7B ∧ ∀ s : Scanner,
      s.atBeginValue c = s.push c .objectKey .beginStringOrEmpty .beginObject) ∨
    (c = 0x5B ∧ ∀ s : Scanner,
      s.atBeginValue c = s.push c .arrayValue .beginValueOrEmpty .beginArray) ∨
    (∃ p : Phase, p.plain = true ∧ c < 0x80 ∧ isBlank c = false ∧
      ∀ s : Scanner, s.atBeginValue c = ({ s with phase := p }, .beginLiteral)) ∨
    (∀ s : Scanner, s.atBeginValue c = s.fail c .beginValue) := by
  by_cases h0 : isBlank c = true
  · exact .inl ⟨h0, fun s => by unfold atBeginValue; rw [if_pos h0]⟩
  have hb : isBlank c = false := by simpa using h0
  by_cases h1 : (c == 0x7B) = true
  · exact .inr (.inl ⟨by simpa using h1, fun s => by unfold atBeginValue; rw [if_neg h0, if_pos h1]⟩)
  by_cases h2 : (c == 0x5B) = true
  · exact .inr (.inr (.inl ⟨by simpa using h2, fun s => by
      unfold atBeginValue; rw [if_neg h0, if_neg h1, if_pos h2]⟩))
  refine .inr (.inr (.inr ?_))
  -- the literals: each first byte is ASCII and names the phase that reads the rest
  by_cases h3 : (c == 0x22) = true
  · refine .inl ⟨.inString, rfl, ?_, hb, fun s => ?_⟩
    · simp only [beq_iff_eq] at h3; subst h3; decide
    · unfold atBeginValue; rw [if_neg h0, if_neg h1, if_neg h2, if_pos h3]
  by_cases h4 : (c == 0x2D) = true
  · refine .inl ⟨.neg, rfl, ?_, hb, fun s => ?_⟩
    · simp only [beq_iff_eq] at h4; subst h4; decide
    · unfold atBeginValue; rw [if_neg h0, if_neg h1, if_neg h2, if_neg h3, if_pos h4]
  by_cases h5 : (c == 0x30) = true
  · refine .inl ⟨.zero, rfl, ?_, hb, fun s => ?_⟩
    · simp only [beq_iff_eq] at h5; subst h5; decide
    · unfold atBeginValue; rw [if_neg h0, if_neg h1, if_neg h2, if_neg h3, if_neg h4, if_pos h5]
  by_cases h6 : (c == 0x74) = true
  · refine .inl ⟨.word "true" ['r', 'u', 'e'], rfl, ?_, hb, fun s => ?_⟩
    · simp only [beq_iff_eq] at h6; subst h6; decide
    · unfold atBeginValue
      rw [if_neg h0, if_neg h1, if_neg h2, if_neg h3, if_neg h4, if_neg h5, if_pos h6]
  by_cases h7 : (c == 0x66) = true
  · refine .inl ⟨.word "false" ['a', 'l', 's', 'e'], rfl, ?_, hb, fun s => ?_⟩
    · simp only [beq_iff_eq] at h7; subst h7; decide
    · unfold atBeginValue
      rw [if_neg h0, if_neg h1, if_neg h2, if_neg h3, if_neg h4, if_neg h5, if_neg h6, if_pos h7]
  by_cases h8 : (c == 0x6E) = true
  · refine .inl ⟨.word "null" ['u', 'l', 'l'], rfl, ?_, hb, fun s => ?_⟩
    · simp only [beq_iff_eq] at h8; subst h8; decide
    · unfold atBeginValue
      rw [if_neg h0, if_neg h1, if_neg h2, if_neg h3, if_neg h4, if_neg h5, if_neg h6, if_neg h7,
        if_pos h8]
  by_cases h9 : (0x31 ≤ c && c ≤ 0x39) = true
  · refine .inl ⟨.one, rfl, by grind, hb, fun s => ?_⟩
    unfold atBeginValue
    rw [if_neg h0, if_neg h1, if_neg h2, if_neg h3, if_neg h4, if_neg h5, if_neg h6, if_neg h7,
      if_neg h8, if_pos h9]
  · refine .inr fun s => ?_
    unfold atBeginValue
    rw [if_neg h0, if_neg h1, if_neg h2, if_neg h3, if_neg h4, if_neg h5, if_neg h6, if_neg h7,
      if_neg h8, if_neg h9]

/-- **Where a key must begin.** -/
theorem atBeginString_cases (c : UInt8) :
    (isBlank c = true ∧ ∀ s : Scanner, s.atBeginString c = (s, .skipSpace)) ∨
    (c = 0x22 ∧ ∀ s : Scanner, s.atBeginString c = ({ s with phase := .inString }, .beginLiteral)) ∨
    (∀ s : Scanner, s.atBeginString c = s.fail c .beginKey) := by
  by_cases h0 : isBlank c = true
  · exact .inl ⟨h0, fun s => by unfold atBeginString; rw [if_pos h0]⟩
  by_cases h1 : (c == 0x22) = true
  · exact .inr (.inl ⟨by simpa using h1, fun s => by
      unfold atBeginString; rw [if_neg h0, if_pos h1]⟩)
  · exact .inr (.inr fun s => by unfold atBeginString; rw [if_neg h0, if_neg h1])

/-- After the integer part of a number. -/
theorem atZero_cases (c : UInt8) :
    (c = 0x2E ∧ ∀ s : Scanner, s.atZero c = ({ s with phase := .dot }, .continue)) ∨
    ((c = 0x65 ∨ c = 0x45) ∧ ∀ s : Scanner, s.atZero c = ({ s with phase := .exp }, .continue)) ∨
    (c ≠ 0x2E ∧ c ≠ 0x65 ∧ c ≠ 0x45 ∧ ∀ s : Scanner, s.atZero c = s.atEndValue c) := by
  by_cases h0 : (c == 0x2E) = true
  · exact .inl ⟨by simpa using h0, fun s => by unfold atZero; rw [if_pos h0]⟩
  by_cases h1 : (c == 0x65 || c == 0x45) = true
  · exact .inr (.inl ⟨by simpa using h1, fun s => by unfold atZero; rw [if_neg h0, if_pos h1]⟩)
  · have h1' : c ≠ 0x65 ∧ c ≠ 0x45 := by simpa [not_or] using h1
    exact .inr (.inr ⟨by simpa using h0, h1'.1, h1'.2, fun s => by
      unfold atZero; rw [if_neg h0, if_neg h1]⟩)

/-- After an exponent mark and its sign. -/
theorem atExpSign_cases (c : UInt8) :
    (isDigit c = true ∧ ∀ s : Scanner, s.atExpSign c = ({ s with phase := .exp0 }, .continue)) ∨
    (∀ s : Scanner, s.atExpSign c = s.fail c .inExponent) := by
  by_cases h : isDigit c = true
  · exact .inl ⟨h, fun s => by unfold atExpSign; rw [if_pos h]⟩
  · exact .inr fun s => by unfold atExpSign; rw [if_neg h]

/-- After a value with nothing open, every byte ends the top-level value. -/
theorem atEndValue_nil (s : Scanner) (c : UInt8) (h : s.stack = []) :
    (s.atEndValue c).2 = .done := by
  unfold atEndValue; rw [h]; exact atEndTop_snd _ c

/-- **After a value inside a container**: a blank, the separator or the closing bracket the
container wants, or a refusal. -/
theorem atEndValue_cases (c : UInt8) (f : Frame) :
    (isBlank c = true ∧ ∀ (s : Scanner) rest, s.stack = f :: rest →
      s.atEndValue c = ({ s with phase := .endValue }, .skipSpace)) ∨
    (f = .objectKey ∧ c = 0x3A ∧ ∀ (s : Scanner) rest, s.stack = f :: rest →
      s.atEndValue c = ({ s with stack := .objectValue :: rest, phase := .beginValue }, .objectKey)) ∨
    (f = .objectValue ∧ c = 0x2C ∧ ∀ (s : Scanner) rest, s.stack = f :: rest →
      s.atEndValue c = ({ s with stack := .objectKey :: rest, phase := .beginString }, .objectValue)) ∨
    (f = .objectValue ∧ c = 0x7D ∧ ∀ (s : Scanner) rest, s.stack = f :: rest →
      s.atEndValue c = (s.pop, .endObject)) ∨
    (f = .arrayValue ∧ c = 0x2C ∧ ∀ (s : Scanner) rest, s.stack = f :: rest →
      s.atEndValue c = ({ s with phase := .beginValue }, .arrayValue)) ∨
    (f = .arrayValue ∧ c = 0x5D ∧ ∀ (s : Scanner) rest, s.stack = f :: rest →
      s.atEndValue c = (s.pop, .endArray)) ∨
    (∃ p : Place, ∀ (s : Scanner) rest, s.stack = f :: rest → s.atEndValue c = s.fail c p) := by
  by_cases h0 : isBlank c = true
  · exact .inl ⟨h0, fun s rest hs => by unfold atEndValue; rw [hs]; simp only [if_pos h0]⟩
  refine .inr ?_
  cases f with
  | objectKey =>
    by_cases h1 : (c == 0x3A) = true
    · exact .inl ⟨rfl, by simpa using h1, fun s rest hs => by
        unfold atEndValue; rw [hs]; simp only [if_neg h0, if_pos h1]⟩
    · exact .inr (.inr (.inr (.inr (.inr ⟨.afterKey, fun s rest hs => by
        unfold atEndValue; rw [hs]; simp only [if_neg h0, if_neg h1]⟩))))
  | objectValue =>
    by_cases h1 : (c == 0x2C) = true
    · exact .inr (.inl ⟨rfl, by simpa using h1, fun s rest hs => by
        unfold atEndValue; rw [hs]; simp only [if_neg h0, if_pos h1]⟩)
    by_cases h2 : (c == 0x7D) = true
    · exact .inr (.inr (.inl ⟨rfl, by simpa using h2, fun s rest hs => by
        unfold atEndValue; rw [hs]; simp only [if_neg h0, if_neg h1, if_pos h2]⟩))
    · exact .inr (.inr (.inr (.inr (.inr ⟨.afterMember, fun s rest hs => by
        unfold atEndValue; rw [hs]; simp only [if_neg h0, if_neg h1, if_neg h2]⟩))))
  | arrayValue =>
    by_cases h1 : (c == 0x2C) = true
    · exact .inr (.inr (.inr (.inl ⟨rfl, by simpa using h1, fun s rest hs => by
        unfold atEndValue; rw [hs]; simp only [if_neg h0, if_pos h1]⟩)))
    by_cases h2 : (c == 0x5D) = true
    · exact .inr (.inr (.inr (.inr (.inl ⟨rfl, by simpa using h2, fun s rest hs => by
        unfold atEndValue; rw [hs]; simp only [if_neg h0, if_neg h1, if_pos h2]⟩))))
    · exact .inr (.inr (.inr (.inr (.inr ⟨.afterElement, fun s rest hs => by
        unfold atEndValue; rw [hs]; simp only [if_neg h0, if_neg h1, if_neg h2]⟩))))

/-! ## 4. Good states -/

/-- **A good state**: what every state reached from the start satisfies while nothing has
been refused. The depth counts the open containers; right after an opening bracket the
innermost container is the one just opened; after the top-level value nothing is open. -/
structure Good (s : Scanner) : Prop where
  depth_eq : s.depth = s.stack.length
  err : s.err = none
  phase : s.phase.plain = true ∨
    (s.phase = .beginValueOrEmpty ∧ s.stack.head? = some .arrayValue) ∨
    (s.phase = .beginStringOrEmpty ∧ s.stack.head? = some .objectKey) ∨
    (s.phase = .endTop ∧ s.stack = [] ∧ s.endTop = true)

theorem good_start : Good {} := ⟨rfl, rfl, .inl rfl⟩

theorem good_goto {s : Scanner} (hg : Good s) {p : Phase} (hp : p.plain = true) :
    Good { s with phase := p } :=
  ⟨hg.depth_eq, hg.err, .inl hp⟩

theorem pop_good {s : Scanner} (hd : s.depth = s.stack.length) (he : s.err = none)
    (hne : s.stack ≠ []) : Good s.pop := by
  unfold pop
  split
  · exact absurd ‹s.stack = []› hne
  · exact ⟨rfl, he, .inr (.inr (.inr ⟨rfl, rfl, rfl⟩))⟩
  · rename_i f rest hr
    refine ⟨?_, he, .inl rfl⟩
    rw [hr] at hd
    simp only [List.length_cons] at hd ⊢
    omega

theorem push_good {s : Scanner} (hg : Good s) {c : UInt8} {f : Frame} {next : Phase}
    {code : Code}
    (hopen : (f = .arrayValue ∧ next = .beginValueOrEmpty) ∨
      (f = .objectKey ∧ next = .beginStringOrEmpty))
    (h : (s.push c f next code).2.stops = false) : Good (s.push c f next code).1 := by
  unfold push at h ⊢
  by_cases hd : s.depth + 1 ≤ maxDepth
  · simp only [if_pos hd]
    refine ⟨by simp [hg.depth_eq], hg.err, ?_⟩
    rcases hopen with ⟨rfl, rfl⟩ | ⟨rfl, rfl⟩
    · exact .inr (.inl ⟨rfl, rfl⟩)
    · exact .inr (.inr (.inl ⟨rfl, rfl⟩))
  · simp only [if_neg hd] at h
    simp at h

/-- A state with its innermost container and depth in step, after a value: every move that
does not stop leaves a good state, whatever the phase was. -/
theorem atEndValue_good {s : Scanner} {c : UInt8} (hd : s.depth = s.stack.length)
    (he : s.err = none) (h : (s.atEndValue c).2.stops = false) : Good (s.atEndValue c).1 := by
  match hs : s.stack with
  | [] => rw [atEndValue_nil s c hs] at h; simp at h
  | f :: rest =>
    have hlen : s.depth = rest.length + 1 := by simp [hd, hs]
    have hne : s.stack ≠ [] := by simp [hs]
    rcases atEndValue_cases c f with ⟨_, hm⟩ | ⟨_, _, hm⟩ | ⟨_, _, hm⟩ | ⟨_, _, hm⟩ | ⟨_, _, hm⟩ |
      ⟨_, _, hm⟩ | ⟨p, hm⟩
    all_goals rw [hm s rest hs] at h ⊢
    · exact ⟨by simp [hlen, hs], he, .inl rfl⟩
    · exact ⟨by simp [hlen], he, .inl rfl⟩
    · exact ⟨by simp [hlen], he, .inl rfl⟩
    · exact pop_good hd he hne
    · exact ⟨by simp [hlen, hs], he, .inl rfl⟩
    · exact pop_good hd he hne
    · simp at h

theorem atBeginValue_good {s : Scanner} (hg : Good s) {c : UInt8}
    (h : (s.atBeginValue c).2.stops = false) : Good (s.atBeginValue c).1 := by
  rcases atBeginValue_cases c with ⟨_, hm⟩ | ⟨_, hm⟩ | ⟨_, hm⟩ | ⟨p, hp, -, -, hm⟩ | hm
  all_goals rw [hm s] at h ⊢
  · exact hg
  · exact push_good hg (.inr ⟨rfl, rfl⟩) h
  · exact push_good hg (.inl ⟨rfl, rfl⟩) h
  · exact good_goto hg hp
  · simp at h

theorem atBeginString_good {s : Scanner} (hg : Good s) {c : UInt8}
    (h : (s.atBeginString c).2.stops = false) : Good (s.atBeginString c).1 := by
  rcases atBeginString_cases c with ⟨_, hm⟩ | ⟨_, hm⟩ | hm
  all_goals rw [hm s] at h ⊢
  · exact hg
  · exact good_goto hg rfl
  · simp at h

theorem atZero_good {s : Scanner} (hg : Good s) {c : UInt8}
    (h : (s.atZero c).2.stops = false) : Good (s.atZero c).1 := by
  rcases atZero_cases c with ⟨_, hm⟩ | ⟨_, hm⟩ | ⟨_, _, _, hm⟩
  all_goals rw [hm s] at h ⊢
  · exact good_goto hg rfl
  · exact good_goto hg rfl
  · exact atEndValue_good hg.depth_eq hg.err h

theorem atExpSign_good {s : Scanner} (hg : Good s) {c : UInt8}
    (h : (s.atExpSign c).2.stops = false) : Good (s.atExpSign c).1 := by
  rcases atExpSign_cases c with ⟨_, hm⟩ | hm
  all_goals rw [hm s] at h ⊢
  · exact good_goto hg rfl
  · simp at h

theorem Good.array_open {s : Scanner} (hg : Good s) (hp : s.phase = .beginValueOrEmpty) :
    ∃ rest, s.stack = .arrayValue :: rest := by
  rcases hg.phase with h | ⟨-, h⟩ | ⟨h, -⟩ | ⟨h, -⟩
  · rw [hp] at h; cases h
  · cases hs : s.stack <;> simp_all
  all_goals rw [hp] at h; cases h

theorem Good.object_open {s : Scanner} (hg : Good s) (hp : s.phase = .beginStringOrEmpty) :
    ∃ rest, s.stack = .objectKey :: rest := by
  rcases hg.phase with h | ⟨h, -⟩ | ⟨-, h⟩ | ⟨h, -⟩
  · rw [hp] at h; cases h
  · rw [hp] at h; cases h
  · cases hs : s.stack <;> simp_all
  · rw [hp] at h; cases h

theorem Good.top {s : Scanner} (hg : Good s) (hp : s.phase = .endTop) :
    s.stack = [] ∧ s.endTop = true := by
  rcases hg.phase with h | ⟨h, -⟩ | ⟨h, -⟩ | ⟨-, h⟩
  · rw [hp] at h; cases h
  · rw [hp] at h; cases h
  · rw [hp] at h; cases h
  · exact h

theorem Good.plain {s : Scanner} (hg : Good s) (h1 : s.phase ≠ .beginValueOrEmpty)
    (h2 : s.phase ≠ .beginStringOrEmpty) (h3 : s.phase ≠ .endTop) : s.phase.plain = true := by
  rcases hg.phase with h | ⟨h, -⟩ | ⟨h, -⟩ | ⟨h, -⟩
  · exact h
  · exact absurd h h1
  · exact absurd h h2
  · exact absurd h h3

/-- In a good state a literal word still has letters to read, each a lower-case ASCII letter. -/
theorem Good.plain_word {s : Scanner} (hg : Good s) {name : String} {rest : List Char}
    (hp : s.phase = .word name rest) : (Phase.word name rest).plain = true := by
  rw [← hp]
  exact hg.plain (by simp [hp]) (by simp [hp]) (by simp [hp])

/-- **Every step that does not stop keeps a state good.** -/
theorem step_good {s : Scanner} {c : UInt8} (hg : Good s) (h : (s.step c).2.stops = false) :
    Good (s.step c).1 := by
  unfold step at h ⊢
  cases hp : s.phase
  all_goals simp only [hp] at h ⊢
  case beginValue => exact atBeginValue_good hg h
  case beginValueOrEmpty =>
    by_cases h0 : isBlank c = true
    · rw [if_pos h0]; exact hg
    rw [if_neg h0] at h ⊢
    by_cases h1 : (c == 0x5D) = true
    · rw [if_pos h1] at h ⊢; exact atEndValue_good hg.depth_eq hg.err h
    · rw [if_neg h1] at h ⊢; exact atBeginValue_good hg h
  case beginStringOrEmpty =>
    by_cases h0 : isBlank c = true
    · rw [if_pos h0]; exact hg
    rw [if_neg h0] at h ⊢
    by_cases h1 : (c == 0x7D) = true
    · obtain ⟨rest, hs⟩ := hg.object_open hp
      rw [if_pos h1] at h ⊢
      simp only [hs] at h ⊢
      exact atEndValue_good (by simp [hg.depth_eq, hs]) hg.err h
    · rw [if_neg h1] at h ⊢; exact atBeginString_good hg h
  case beginString => exact atBeginString_good hg h
  case endValue => exact atEndValue_good hg.depth_eq hg.err h
  case endTop => rw [atEndTop_snd] at h; simp at h
  case inString =>
    by_cases h0 : (c == 0x22) = true
    · rw [if_pos h0]; exact good_goto hg rfl
    rw [if_neg h0] at h ⊢
    by_cases h1 : (c == 0x5C) = true
    · rw [if_pos h1]; exact good_goto hg rfl
    rw [if_neg h1] at h ⊢
    by_cases h2 : c < 0x20
    · rw [if_pos h2] at h; simp at h
    · rw [if_neg h2]; exact hg
  case inStringEsc =>
    split_ifs at h ⊢
    · exact good_goto hg rfl
    · exact good_goto hg rfl
    · simp at h
  case inStringEscU k =>
    split_ifs at h ⊢
    · exact good_goto hg rfl
    · exact good_goto hg rfl
    · simp at h
  case neg =>
    split_ifs at h ⊢
    · exact good_goto hg rfl
    · exact good_goto hg rfl
    · simp at h
  case one =>
    split_ifs at h ⊢
    · exact hg
    · exact atZero_good hg h
  case zero => exact atZero_good hg h
  case dot =>
    split_ifs at h ⊢
    · exact good_goto hg rfl
    · simp at h
  case dot0 =>
    split_ifs at h ⊢
    · exact hg
    · exact good_goto hg rfl
    · exact atEndValue_good hg.depth_eq hg.err h
  case exp =>
    split_ifs at h ⊢
    · exact good_goto hg rfl
    · exact atExpSign_good hg h
  case expSign => exact atExpSign_good hg h
  case exp0 =>
    split_ifs at h ⊢
    · exact hg
    · exact atEndValue_good hg.depth_eq hg.err h
  case word name rest =>
    have hw := hg.plain_word hp
    match rest, hw with
    | e :: more, hw =>
      simp only at h ⊢
      split_ifs at h ⊢ with he hm
      · exact good_goto hg rfl
      · refine good_goto hg ?_
        cases more with
        | nil => exact absurd rfl hm
        | cons e' more' => simp_all [Phase.plain]
      · simp at h
  case failed => simp at h

theorem good_feed {s : Scanner} (hg : Good s) {bs : Bytes} (h : Inside s bs) :
    Good (s.feed bs) := by
  induction bs generalizing s with
  | nil => exact hg
  | cons c bs ih => exact ih (step_good hg h.1) h.2

/-! ## 5. Blanks and bytes from `0x80` up -/

theorem push_snd (s : Scanner) (c : UInt8) (f : Frame) (next : Phase) (code : Code) :
    (s.push c f next code).2 = code ∨ (s.push c f next code).2 = .error := by
  unfold push
  dsimp only
  split
  · exact .inl rfl
  · exact .inr rfl

theorem atEndValue_skipSpace {s : Scanner} {c : UInt8} (h : (s.atEndValue c).2 = .skipSpace) :
    isBlank c = true ∧ (s.atEndValue c).1 = { s with phase := .endValue } := by
  match hs : s.stack with
  | [] => rw [atEndValue_nil s c hs] at h; cases h
  | f :: rest =>
    rcases atEndValue_cases c f with ⟨hb, hm⟩ | ⟨_, _, hm⟩ | ⟨_, _, hm⟩ | ⟨_, _, hm⟩ | ⟨_, _, hm⟩ |
      ⟨_, _, hm⟩ | ⟨p, hm⟩
    all_goals rw [hm s rest hs] at h ⊢
    · exact ⟨hb, by simp [hs]⟩
    all_goals cases h

theorem atBeginValue_skipSpace {s : Scanner} {c : UInt8}
    (h : (s.atBeginValue c).2 = .skipSpace) : isBlank c = true ∧ (s.atBeginValue c).1 = s := by
  rcases atBeginValue_cases c with ⟨hb, hm⟩ | ⟨_, hm⟩ | ⟨_, hm⟩ | ⟨p, -, -, -, hm⟩ | hm
  all_goals rw [hm s] at h ⊢
  · exact ⟨hb, rfl⟩
  · rcases push_snd s c .objectKey .beginStringOrEmpty .beginObject with h' | h' <;> rw [h'] at h <;>
      cases h
  · rcases push_snd s c .arrayValue .beginValueOrEmpty .beginArray with h' | h' <;> rw [h'] at h <;>
      cases h
  · cases h
  · cases h

theorem atBeginString_skipSpace {s : Scanner} {c : UInt8}
    (h : (s.atBeginString c).2 = .skipSpace) : isBlank c = true ∧ (s.atBeginString c).1 = s := by
  rcases atBeginString_cases c with ⟨hb, hm⟩ | ⟨_, hm⟩ | hm
  all_goals rw [hm s] at h ⊢
  · exact ⟨hb, rfl⟩
  · cases h
  · cases h

/-- **A skipped byte is a blank**, and skipping it changes nothing but, after a number, the
phase: the number has ended. -/
theorem step_skipSpace {s : Scanner} {c : UInt8} (hg : Good s) (h : (s.step c).2 = .skipSpace) :
    isBlank c = true ∧ ((s.step c).1 = s ∨
      (s.phase.closes = true ∧ (s.step c).1 = { s with phase := .endValue })) := by
  unfold step at h ⊢
  cases hp : s.phase
  all_goals simp only [hp] at h ⊢
  case beginValue => exact ⟨(atBeginValue_skipSpace h).1, .inl (atBeginValue_skipSpace h).2⟩
  case beginValueOrEmpty =>
    by_cases h0 : isBlank c = true
    · rw [if_pos h0]; exact ⟨h0, .inl rfl⟩
    rw [if_neg h0] at h ⊢
    by_cases h1 : (c == 0x5D) = true
    · rw [if_pos h1] at h; exact absurd (atEndValue_skipSpace h).1 h0
    · rw [if_neg h1] at h ⊢
      exact ⟨(atBeginValue_skipSpace h).1, .inl (atBeginValue_skipSpace h).2⟩
  case beginStringOrEmpty =>
    by_cases h0 : isBlank c = true
    · rw [if_pos h0]; exact ⟨h0, .inl rfl⟩
    rw [if_neg h0] at h ⊢
    by_cases h1 : (c == 0x7D) = true
    · rw [if_pos h1] at h; exact absurd (atEndValue_skipSpace h).1 h0
    · rw [if_neg h1] at h ⊢
      exact ⟨(atBeginString_skipSpace h).1, .inl (atBeginString_skipSpace h).2⟩
  case beginString => exact ⟨(atBeginString_skipSpace h).1, .inl (atBeginString_skipSpace h).2⟩
  case endValue =>
    exact ⟨(atEndValue_skipSpace h).1, .inr ⟨by simp [Phase.closes], (atEndValue_skipSpace h).2⟩⟩
  case endTop => rw [atEndTop_snd] at h; cases h
  case inString => (split_ifs at h; cases h)
  case inStringEsc => (split_ifs at h; cases h)
  case inStringEscU => (split_ifs at h; cases h)
  case neg => (split_ifs at h; cases h)
  case one =>
    by_cases hd : isDigit c = true
    · rw [if_pos hd] at h; cases h
    rw [if_neg hd] at h ⊢
    rcases atZero_cases c with ⟨_, hm⟩ | ⟨_, hm⟩ | ⟨_, _, _, hm⟩
    all_goals rw [hm s] at h ⊢
    · cases h
    · cases h
    · exact ⟨(atEndValue_skipSpace h).1, .inr ⟨by simp [Phase.closes], (atEndValue_skipSpace h).2⟩⟩
  case zero =>
    rcases atZero_cases c with ⟨_, hm⟩ | ⟨_, hm⟩ | ⟨_, _, _, hm⟩
    all_goals rw [hm s] at h ⊢
    · cases h
    · cases h
    · exact ⟨(atEndValue_skipSpace h).1, .inr ⟨by simp [Phase.closes], (atEndValue_skipSpace h).2⟩⟩
  case dot => (split_ifs at h; cases h)
  case dot0 =>
    by_cases hd : isDigit c = true
    · rw [if_pos hd] at h; cases h
    rw [if_neg hd] at h ⊢
    by_cases he : (c == 0x65 || c == 0x45) = true
    · rw [if_pos he] at h; cases h
    rw [if_neg he] at h ⊢
    exact ⟨(atEndValue_skipSpace h).1, .inr ⟨by simp [Phase.closes], (atEndValue_skipSpace h).2⟩⟩
  case exp =>
    by_cases hs : (c == 0x2B || c == 0x2D) = true
    · rw [if_pos hs] at h; cases h
    rw [if_neg hs] at h
    rcases atExpSign_cases c with ⟨_, hm⟩ | hm <;> rw [hm s] at h <;> cases h
  case expSign => rcases atExpSign_cases c with ⟨_, hm⟩ | hm <;> rw [hm s] at h <;> cases h
  case exp0 =>
    by_cases hd : isDigit c = true
    · rw [if_pos hd] at h; cases h
    rw [if_neg hd] at h ⊢
    exact ⟨(atEndValue_skipSpace h).1, .inr ⟨by simp [Phase.closes], (atEndValue_skipSpace h).2⟩⟩
  case word name rest =>
    match rest with
    | e :: more => simp only at h; (split_ifs at h; cases h)
    | [] =>
      have hw := hg.plain_word hp
      simp [Phase.plain] at hw
  case failed => cases h

theorem atEndValue_stops_of_high {s : Scanner} {c : UInt8} (h : 0x80 ≤ c) :
    (s.atEndValue c).2.stops = true := by
  match hs : s.stack with
  | [] => rw [atEndValue_nil s c hs]; rfl
  | f :: rest =>
    rcases atEndValue_cases c f with ⟨hb, -⟩ | ⟨-, rfl, -⟩ | ⟨-, rfl, -⟩ | ⟨-, rfl, -⟩ | ⟨-, rfl, -⟩ |
      ⟨-, rfl, -⟩ | ⟨p, hm⟩
    · rw [isBlank_of_high h] at hb; cases hb
    all_goals first | (exfalso; revert h; decide) | (rw [hm s rest hs]; rfl)

theorem atBeginValue_stops_of_high {s : Scanner} {c : UInt8} (h : 0x80 ≤ c) :
    (s.atBeginValue c).2.stops = true := by
  rcases atBeginValue_cases c with ⟨hb, -⟩ | ⟨rfl, -⟩ | ⟨rfl, -⟩ | ⟨p, -, hlt, -, -⟩ | hm
  · rw [isBlank_of_high h] at hb; cases hb
  · exfalso; revert h; decide
  · exfalso; revert h; decide
  · exfalso; grind
  · rw [hm s]; rfl

theorem atBeginString_stops_of_high {s : Scanner} {c : UInt8} (h : 0x80 ≤ c) :
    (s.atBeginString c).2.stops = true := by
  rcases atBeginString_cases c with ⟨hb, -⟩ | ⟨rfl, -⟩ | hm
  · rw [isBlank_of_high h] at hb; cases hb
  · exfalso; revert h; decide
  · rw [hm s]; rfl

theorem atExpSign_stops_of_high {s : Scanner} {c : UInt8} (h : 0x80 ≤ c) :
    (s.atExpSign c).2.stops = true := by
  unfold atExpSign; rw [isDigit_of_high h]; rfl

theorem atZero_of_high {s : Scanner} {c : UInt8} (h : 0x80 ≤ c) :
    s.atZero c = s.atEndValue c := by
  unfold atZero; simp [beq_of_high h]

/-- **A byte from `0x80` up** is taken only inside a string, and changes nothing there. -/

theorem step_high {s : Scanner} {c : UInt8} (hg : Good s) (h : 0x80 ≤ c)
    (hs : (s.step c).2.stops = false) : s.phase = .inString ∧ s.step c = (s, .continue) := by
  have hb : isBlank c = false := isBlank_of_high h
  have hd : isDigit c = false := isDigit_of_high h
  unfold step at hs ⊢
  cases hp : s.phase
  all_goals simp only [hp] at hs ⊢
  case beginValue => rw [atBeginValue_stops_of_high h] at hs; cases hs
  case beginValueOrEmpty =>
    simp only [hb, beq_of_high h (show (0x5D : UInt8) < 0x80 by decide), Bool.false_eq_true, ↓reduceIte] at hs
    rw [atBeginValue_stops_of_high h] at hs; cases hs
  case beginStringOrEmpty =>
    simp only [hb, beq_of_high h (show (0x7D : UInt8) < 0x80 by decide), Bool.false_eq_true, ↓reduceIte] at hs
    rw [atBeginString_stops_of_high h] at hs; cases hs
  case beginString => rw [atBeginString_stops_of_high h] at hs; cases hs
  case endValue => rw [atEndValue_stops_of_high h] at hs; cases hs
  case endTop => rw [atEndTop_snd] at hs; cases hs
  case inString =>
    have hlt : ¬ c < 0x20 := by grind
    simp only [beq_of_high h (show (0x22 : UInt8) < 0x80 by decide),
      beq_of_high h (show (0x5C : UInt8) < 0x80 by decide), hlt, Bool.false_eq_true, ↓reduceIte,
      and_self]
  case inStringEsc =>
    have hesc : (c == 0x62 || c == 0x66 || c == 0x6E || c == 0x72 || c == 0x74 || c == 0x5C ||
        c == 0x2F || c == 0x22) = false := by grind
    simp only [hesc, beq_of_high h (show (0x75 : UInt8) < 0x80 by decide), Bool.false_eq_true,
      ↓reduceIte, fail_snd] at hs
    cases hs
  case inStringEscU => simp only [isHex_of_high h, Bool.false_eq_true, ↓reduceIte, fail_snd] at hs; cases hs
  case neg =>
    have hr : (0x31 ≤ c && c ≤ 0x39) = false := by grind
    simp only [beq_of_high h (show (0x30 : UInt8) < 0x80 by decide), hr, Bool.false_eq_true,
      ↓reduceIte, fail_snd] at hs
    cases hs
  case one =>
    simp only [hd, Bool.false_eq_true, ↓reduceIte, atZero_of_high h, atEndValue_stops_of_high h] at hs
    cases hs
  case zero => simp only [atZero_of_high h, atEndValue_stops_of_high h] at hs; cases hs
  case dot => simp only [hd, Bool.false_eq_true, ↓reduceIte, fail_snd] at hs; cases hs
  case dot0 =>
    have he : (c == 0x65 || c == 0x45) = false := by grind
    simp only [hd, he, Bool.false_eq_true, ↓reduceIte, atEndValue_stops_of_high h] at hs
    cases hs
  case exp =>
    have hsg : (c == 0x2B || c == 0x2D) = false := by grind
    simp only [hsg, Bool.false_eq_true, ↓reduceIte, atExpSign_stops_of_high h] at hs
    cases hs
  case expSign => rw [atExpSign_stops_of_high h] at hs; cases hs
  case exp0 =>
    simp only [hd, Bool.false_eq_true, ↓reduceIte, atEndValue_stops_of_high h] at hs
    cases hs
  case word name rest =>
    have hw := hg.plain_word hp
    match rest, hw with
    | e :: more, hw =>
      -- the letter still expected is lower-case ASCII, so it is below `0x80`
      have he : (c == e.toNat.toUInt8) = false := by
        simp only [Phase.plain, List.all_cons, Bool.and_eq_true, decide_eq_true_eq] at hw
        have hz : e.toNat ≤ 122 := hw.2.1.2
        refine beq_of_high h ?_
        rw [UInt8.lt_iff_toNat_lt]
        simp
        omega
      simp only [he, Bool.false_eq_true, ↓reduceIte, fail_snd] at hs
      cases hs
  case failed => cases hs

theorem atEndValue_blank {s : Scanner} {c : UInt8} (hb : isBlank c = true) {f : Frame}
    {rest : List Frame} (hs : s.stack = f :: rest) :
    s.atEndValue c = ({ s with phase := .endValue }, .skipSpace) := by
  unfold atEndValue; rw [hs]; simp only [if_pos hb]

/-- A number, or a value, that may end here behaves after it as a value that has ended: every
byte that cannot continue a number is taken as after a value. -/
theorem step_of_closes {s : Scanner} {c : UInt8} (hp : s.phase.closes = true)
    (hd : isDigit c = false) (h1 : c ≠ 0x2E) (h2 : c ≠ 0x65) (h3 : c ≠ 0x45) :
    s.step c = s.atEndValue c := by
  unfold step
  cases hq : s.phase <;> simp [hq, Phase.closes] at hp ⊢
  all_goals simp [atZero, hd, h1, h2, h3]

/-- After a value, the phase it ended in does not matter. -/
theorem atEndValue_setPhase (s : Scanner) (p : Phase) (c : UInt8) :
    ({ s with phase := p }).atEndValue c = s.atEndValue c := by
  obtain ⟨ph, st, d, e, r⟩ := s
  match st with
  | [] => rfl
  | [_] => rfl
  | _ :: _ :: _ => rfl

/-- **A blank where a token is awaited** is skipped and changes nothing. -/
theorem step_blank_waits {s : Scanner} {c : UInt8} (hb : isBlank c = true)
    (hp : s.phase.waits = true) : s.step c = (s, .skipSpace) := by
  unfold step
  cases hq : s.phase <;> simp [hq, Phase.waits] at hp ⊢
  all_goals simp [atBeginValue, atBeginString, hb]

/-- **A blank after a value inside a container** ends a pending number and is skipped. -/
theorem step_blank_closes {s : Scanner} {c : UInt8} (hb : isBlank c = true)
    (hp : s.phase.closes = true) {f : Frame} {rest : List Frame} (hs : s.stack = f :: rest) :
    s.step c = ({ s with phase := .endValue }, .skipSpace) := by
  obtain ⟨hd, h1, h2, h3⟩ := isBlank_cases hb
  rw [step_of_closes hp hd h1 h2 h3, atEndValue_blank hb hs]

/-! ## 6. The end of a value -/

/-- **A state holding one whole top-level value**: nothing is open, nothing was refused, and
the value is over, or is a number that may end here. -/
structure Ended (s : Scanner) : Prop where
  err : s.err = none
  stack : s.stack = []
  phase : (s.phase = .endTop ∧ s.endTop = true) ∨ s.phase.closes = true

theorem atEndValue_done {s : Scanner} {c : UInt8} (h : (s.atEndValue c).2 = .done) :
    s.stack = [] := by
  match hs : s.stack with
  | [] => rfl
  | f :: rest =>
    rcases atEndValue_cases c f with ⟨_, hm⟩ | ⟨_, _, hm⟩ | ⟨_, _, hm⟩ | ⟨_, _, hm⟩ | ⟨_, _, hm⟩ |
      ⟨_, _, hm⟩ | ⟨p, hm⟩
    all_goals rw [hm s rest hs] at h; cases h

/-- The codes of a byte where a value may begin. -/
theorem atBeginValue_snd (s : Scanner) (c : UInt8) :
    (s.atBeginValue c).2 = .skipSpace ∨ (s.atBeginValue c).2 = .beginObject ∨
    (s.atBeginValue c).2 = .beginArray ∨ (s.atBeginValue c).2 = .beginLiteral ∨
    (s.atBeginValue c).2 = .error := by
  rcases atBeginValue_cases c with ⟨_, hm⟩ | ⟨_, hm⟩ | ⟨_, hm⟩ | ⟨p, -, -, -, hm⟩ | hm
  all_goals rw [hm s]
  · exact .inl rfl
  · rcases push_snd s c .objectKey .beginStringOrEmpty .beginObject with h | h <;> rw [h] <;> simp
  · rcases push_snd s c .arrayValue .beginValueOrEmpty .beginArray with h | h <;> rw [h] <;> simp
  · simp
  · simp

/-- The codes of a byte where a key must begin. -/
theorem atBeginString_snd (s : Scanner) (c : UInt8) :
    (s.atBeginString c).2 = .skipSpace ∨ (s.atBeginString c).2 = .beginLiteral ∨
    (s.atBeginString c).2 = .error := by
  rcases atBeginString_cases c with ⟨_, hm⟩ | ⟨_, hm⟩ | hm <;> rw [hm s] <;> simp

/-- The codes of a byte after an exponent mark. -/
theorem atExpSign_snd (s : Scanner) (c : UInt8) :
    (s.atExpSign c).2 = .continue ∨ (s.atExpSign c).2 = .error := by
  rcases atExpSign_cases c with ⟨_, hm⟩ | hm <;> rw [hm s] <;> simp

theorem atBeginValue_ne_done (s : Scanner) (c : UInt8) : (s.atBeginValue c).2 ≠ .done := by
  rcases atBeginValue_snd s c with h | h | h | h | h <;> rw [h] <;> simp

theorem atBeginString_ne_done (s : Scanner) (c : UInt8) : (s.atBeginString c).2 ≠ .done := by
  rcases atBeginString_snd s c with h | h | h <;> rw [h] <;> simp

theorem atExpSign_ne_done (s : Scanner) (c : UInt8) : (s.atExpSign c).2 ≠ .done := by
  rcases atExpSign_snd s c with h | h <;> rw [h] <;> simp

/-- **Only a whole value is done**: a byte that ends the top-level value comes after one. -/
theorem step_done {s : Scanner} {c : UInt8} (hg : Good s) (h : (s.step c).2 = .done) : Ended s := by
  have closes : s.phase.closes = true → (s.atEndValue c).2 = .done → Ended s := fun hc hd =>
    ⟨hg.err, atEndValue_done hd, .inr hc⟩
  unfold step at h
  cases hp : s.phase
  all_goals simp only [hp] at h
  case beginValue => exact absurd h (atBeginValue_ne_done s c)
  case beginValueOrEmpty =>
    obtain ⟨rest, hs⟩ := hg.array_open hp
    by_cases h0 : isBlank c = true
    · rw [if_pos h0] at h; cases h
    rw [if_neg h0] at h
    by_cases h1 : (c == 0x5D) = true
    · rw [if_pos h1] at h; rw [atEndValue_done h] at hs; cases hs
    · rw [if_neg h1] at h; exact absurd h (atBeginValue_ne_done s c)
  case beginStringOrEmpty =>
    obtain ⟨rest, hs⟩ := hg.object_open hp
    by_cases h0 : isBlank c = true
    · rw [if_pos h0] at h; cases h
    rw [if_neg h0] at h
    by_cases h1 : (c == 0x7D) = true
    · rw [if_pos h1] at h; simp only [hs] at h; cases atEndValue_done h
    · rw [if_neg h1] at h; exact absurd h (atBeginString_ne_done s c)
  case beginString => exact absurd h (atBeginString_ne_done s c)
  case endValue => exact closes (by simp [hp, Phase.closes]) h
  case endTop => exact ⟨hg.err, (hg.top hp).1, .inl ⟨hp, (hg.top hp).2⟩⟩
  case inString => (split_ifs at h; cases h)
  case inStringEsc => (split_ifs at h; cases h)
  case inStringEscU => (split_ifs at h; cases h)
  case neg => (split_ifs at h; cases h)
  case one =>
    by_cases hd : isDigit c = true
    · rw [if_pos hd] at h; cases h
    rw [if_neg hd] at h
    rcases atZero_cases c with ⟨_, hm⟩ | ⟨_, hm⟩ | ⟨_, _, _, hm⟩ <;> rw [hm s] at h
    · cases h
    · cases h
    · exact closes (by simp [hp, Phase.closes]) h
  case zero =>
    rcases atZero_cases c with ⟨_, hm⟩ | ⟨_, hm⟩ | ⟨_, _, _, hm⟩ <;> rw [hm s] at h
    · cases h
    · cases h
    · exact closes (by simp [hp, Phase.closes]) h
  case dot => (split_ifs at h; cases h)
  case dot0 =>
    by_cases hd : isDigit c = true
    · rw [if_pos hd] at h; cases h
    rw [if_neg hd] at h
    by_cases he : (c == 0x65 || c == 0x45) = true
    · rw [if_pos he] at h; cases h
    rw [if_neg he] at h
    exact closes (by simp [hp, Phase.closes]) h
  case exp =>
    by_cases hs : (c == 0x2B || c == 0x2D) = true
    · rw [if_pos hs] at h; cases h
    rw [if_neg hs] at h
    exact absurd h (atExpSign_ne_done s c)
  case expSign => exact absurd h (atExpSign_ne_done s c)
  case exp0 =>
    by_cases hd : isDigit c = true
    · rw [if_pos hd] at h; cases h
    rw [if_neg hd] at h
    exact closes (by simp [hp, Phase.closes]) h
  case word name rest =>
    have hw := hg.plain_word hp
    match rest, hw with
    | e :: more, _ => simp only at h; (split_ifs at h; cases h)
  case failed => cases h

theorem atEndValue_close {s : Scanner} {c : UInt8}
    (h : (s.atEndValue c).2 = .endObject ∨ (s.atEndValue c).2 = .endArray) :
    s.stack ≠ [] ∧ (s.atEndValue c).1 = s.pop := by
  match hs : s.stack with
  | [] => rw [atEndValue_nil s c hs] at h; simp at h
  | f :: rest =>
    refine ⟨by simp, ?_⟩
    rcases atEndValue_cases c f with ⟨_, hm⟩ | ⟨_, _, hm⟩ | ⟨_, _, hm⟩ | ⟨_, _, hm⟩ | ⟨_, _, hm⟩ |
      ⟨_, _, hm⟩ | ⟨p, hm⟩
    all_goals rw [hm s rest hs] at h ⊢
    all_goals simp at h ⊢

/-- Closing the last open container ends the top-level value. -/
theorem pop_top {u : Scanner} (hne : u.stack ≠ []) (h : u.pop.stack = []) :
    u.pop.phase = .endTop ∧ u.pop.endTop = true := by
  unfold pop at h ⊢
  match hs : u.stack, hne with
  | [_], _ => simp
  | _ :: _ :: _, _ => simp [hs] at h

/-- **Which helper takes a byte.** From a good state, a byte is taken where a value or a key
may begin, or after a value (of the state itself, or of the object just opened when it closes
empty), or inside a literal, where it continues it, is skipped, refused or ends the value. -/
theorem step_via {s : Scanner} (hg : Good s) (c : UInt8) :
    s.step c = s.atBeginValue c ∨ s.step c = s.atBeginString c ∨
    (∃ u : Scanner, s.step c = u.atEndValue c ∧ u.err = s.err ∧ u.depth = s.depth ∧
      u.stack.length = s.stack.length ∧ (s.phase.waits = true ∨ (s.phase.closes = true ∧ u = s))) ∨
    (s.step c).2 = .continue ∨ (s.step c).2 = .skipSpace ∨ (s.step c).2 = .error ∨
    (s.step c).2 = .done := by
  have after : s.phase.closes = true →
      ∃ u : Scanner, s.atEndValue c = u.atEndValue c ∧ u.err = s.err ∧ u.depth = s.depth ∧
        u.stack.length = s.stack.length ∧ (s.phase.waits = true ∨ (s.phase.closes = true ∧ u = s)) :=
    fun h => ⟨s, rfl, rfl, rfl, rfl, .inr ⟨h, rfl⟩⟩
  unfold step
  cases hp : s.phase
  all_goals simp only [hp, Phase.closes, forall_const] at after ⊢
  case beginValue => exact .inl trivial
  case beginValueOrEmpty =>
    by_cases h0 : isBlank c = true
    · rw [if_pos h0]; simp
    rw [if_neg h0]
    by_cases h1 : (c == 0x5D) = true
    · rw [if_pos h1]
      exact .inr (.inr (.inl ⟨s, rfl, rfl, rfl, rfl, .inl (by simp [Phase.waits])⟩))
    · rw [if_neg h1]; exact .inl rfl
  case beginStringOrEmpty =>
    by_cases h0 : isBlank c = true
    · rw [if_pos h0]; simp
    rw [if_neg h0]
    by_cases h1 : (c == 0x7D) = true
    · rw [if_pos h1]
      obtain ⟨rest, hs⟩ := hg.object_open hp
      simp only [hs]
      exact .inr (.inr (.inl ⟨_, rfl, rfl, rfl, by simp, .inl (by simp [Phase.waits])⟩))
    · rw [if_neg h1]; exact .inr (.inl rfl)
  case beginString => exact .inr (.inl trivial)
  case endValue =>
    obtain ⟨u, hu⟩ := after
    exact .inr (.inr (.inl ⟨u, hu⟩))
  case endTop => simp [atEndTop_snd]
  case inString => split_ifs <;> simp
  case inStringEsc => split_ifs <;> simp
  case inStringEscU => split_ifs <;> simp
  case neg => split_ifs <;> simp
  case one =>
    by_cases hd : isDigit c = true
    · rw [if_pos hd]; simp
    rw [if_neg hd]
    rcases atZero_cases c with ⟨_, hm⟩ | ⟨_, hm⟩ | ⟨_, _, _, hm⟩ <;> rw [hm s]
    · simp
    · simp
    · exact .inr (.inr (.inl after))
  case zero =>
    rcases atZero_cases c with ⟨_, hm⟩ | ⟨_, hm⟩ | ⟨_, _, _, hm⟩ <;> rw [hm s]
    · simp
    · simp
    · exact .inr (.inr (.inl after))
  case dot => split_ifs <;> simp
  case dot0 =>
    by_cases hd : isDigit c = true
    · rw [if_pos hd]; simp
    rw [if_neg hd]
    by_cases he : (c == 0x65 || c == 0x45) = true
    · rw [if_pos he]; simp
    rw [if_neg he]
    exact .inr (.inr (.inl after))
  case exp =>
    by_cases hs : (c == 0x2B || c == 0x2D) = true
    · rw [if_pos hs]; simp
    rw [if_neg hs]
    rcases atExpSign_snd s c with h | h <;> simp [h]
  case expSign => rcases atExpSign_snd s c with h | h <;> simp [h]
  case exp0 =>
    by_cases hd : isDigit c = true
    · rw [if_pos hd]; simp
    rw [if_neg hd]
    exact .inr (.inr (.inl after))
  case word name rest =>
    have hw := hg.plain_word hp
    match rest, hw with
    | e :: more, _ => simp only; split_ifs <;> simp
  case failed => simp

/-- **A separator or a closing bracket is read after a value**: of the state itself, after a
number or a value, or of the object just opened when it closes empty. -/
theorem step_afterValue {s : Scanner} {c : UInt8} (hg : Good s)
    (h : (s.step c).2.afterValue = true) :
    ∃ u : Scanner, s.step c = u.atEndValue c ∧ u.err = s.err ∧ u.depth = s.depth ∧
      u.stack.length = s.stack.length ∧ (s.phase.waits = true ∨ (s.phase.closes = true ∧ u = s)) := by
  rcases step_via hg c with h1 | h1 | h1 | h1 | h1 | h1 | h1
  · rw [h1] at h
    rcases atBeginValue_snd s c with h2 | h2 | h2 | h2 | h2 <;> rw [h2] at h <;> cases h
  · rw [h1] at h
    rcases atBeginString_snd s c with h2 | h2 | h2 <;> rw [h2] at h <;> cases h
  · exact h1
  all_goals rw [h1] at h; cases h

/-- **A closing bracket pops a container.** -/
theorem step_close {s : Scanner} {c : UInt8} (hg : Good s)
    (h : (s.step c).2 = .endObject ∨ (s.step c).2 = .endArray) :
    ∃ u : Scanner, u.stack ≠ [] ∧ u.err = s.err ∧ (s.step c).1 = u.pop := by
  obtain ⟨u, hu, he, -⟩ := step_afterValue hg (by rcases h with h | h <;> rw [h] <;> rfl)
  rw [hu] at h ⊢
  exact ⟨u, (atEndValue_close h).1, he, (atEndValue_close h).2⟩

theorem push_phase {s : Scanner} {c : UInt8} {f : Frame} {next : Phase} {code : Code}
    (h : (s.push c f next code).2 ≠ .error) : (s.push c f next code).1.phase = next := by
  unfold push at h ⊢
  dsimp only at h ⊢
  split
  · rfl
  · rw [if_neg ‹_›] at h; exact absurd rfl h

/-- A closing bracket that leaves nothing open ends the top-level value. -/
theorem step_close_top {s : Scanner} {c : UInt8} (hg : Good s)
    (h : (s.step c).2 = .endObject ∨ (s.step c).2 = .endArray) (hs : (s.step c).1.stack = []) :
    (s.step c).1.phase = .endTop ∧ Ended (s.step c).1 := by
  obtain ⟨u, hne, he, hu⟩ := step_close hg h
  rw [hu] at hs ⊢
  have hp := pop_top hne hs
  refine ⟨hp.1, ?_, hs, .inl hp⟩
  unfold pop; split <;> simp [he, hg.err]

/-- After a whole value, a blank is done and keeps the value whole. -/
theorem step_ended_blank {s : Scanner} {c : UInt8} (he : Ended s) (hb : isBlank c = true) :
    (s.step c).2 = .done ∧ Ended (s.step c).1 := by
  rcases he.phase with ⟨hp, ht⟩ | hc
  · have hstep : s.step c = (s, .done) := by
      unfold step; simp only [hp]; unfold atEndTop; rw [if_pos hb]
    rw [hstep]; exact ⟨rfl, he⟩
  · obtain ⟨hd, h1, h2, h3⟩ := isBlank_cases hb
    have hstep : s.step c = ({ s with phase := .endTop, endTop := true }, .done) := by
      rw [step_of_closes hc hd h1 h2 h3]; unfold atEndValue; rw [he.stack]
      unfold atEndTop; rw [if_pos hb]
    rw [hstep]; exact ⟨rfl, he.err, he.stack, .inl ⟨rfl, rfl⟩⟩

/-- At the end of the text, a whole value is accepted. -/
theorem finish_ended {s : Scanner} (he : Ended s) : s.finish.2 = .done := by
  unfold finish
  have hnone : s.err.isSome = false := by simp [he.err]
  rw [if_neg (by simp [hnone])]
  by_cases ht : s.endTop = true
  · rw [if_pos ht]
  rw [if_neg ht]
  have hstep := step_ended_blank he (c := 0x20) rfl
  rcases hstep.2.phase with ⟨-, ht'⟩ | hc
  · dsimp only; rw [if_pos ht']
  · -- a number still pending after the blank would not be done
    rcases he.phase with ⟨-, ht''⟩ | hc'
    · exact absurd ht'' ht
    · have hd := isBlank_cases (c := 0x20) rfl
      have : (s.step 0x20).1 = { s with phase := .endTop, endTop := true } := by
        rw [step_of_closes hc' hd.1 hd.2.1 hd.2.2.1 hd.2.2.2]; unfold atEndValue; rw [he.stack]; rfl
      rw [this] at hc; simp [Phase.closes] at hc

theorem run_append {s : Scanner} {a : Bytes} (h : Inside s a) (b : Bytes) :
    Scanner.run s (a ++ b) = Scanner.run (s.feed a) b := by
  induction a generalizing s with
  | nil => rfl
  | cons c a ih =>
    obtain ⟨h1, h2⟩ := h
    rw [List.cons_append, feed_cons, ← ih h2]
    rcases hst : s.step c with ⟨s', code⟩
    rw [hst] at h1
    cases code
    case error => cases h1
    all_goals simp only [Scanner.run, hst]

/-- Blanks where a token is awaited are skipped without a trace. -/
theorem feed_blanks {s : Scanner} (hp : s.phase.waits = true) {ws : Bytes}
    (hws : ∀ c ∈ ws, isBlank c = true) : Inside s ws ∧ s.feed ws = s := by
  induction ws with
  | nil => exact ⟨trivial, rfl⟩
  | cons c ws ih =>
    have hstep := step_blank_waits (hws c (by simp)) hp
    have ih := ih fun d hd => hws d (by simp [hd])
    simp only [inside_cons, feed_cons, hstep]
    exact ⟨⟨rfl, ih.1⟩, ih.2⟩

/-- Blanks where a token is awaited nest nothing. -/
theorem peak_blanks {s : Scanner} (hp : s.phase.waits = true) {ws : Bytes}
    (hws : ∀ c ∈ ws, isBlank c = true) : s.peak ws = s.depth := by
  induction ws with
  | nil => rfl
  | cons c ws ih =>
    rw [peak, step_blank_waits (hws c (by simp)) hp, ih fun d hd => hws d (by simp [hd])]
    exact Nat.max_self _

/-- Blanks after a whole value keep it whole. -/
theorem run_blanks {s : Scanner} (he : Ended s) {ws : Bytes} (hws : ∀ c ∈ ws, isBlank c = true) :
    Ended (Scanner.run s ws) := by
  induction ws generalizing s with
  | nil => exact he
  | cons c ws ih =>
    obtain ⟨hdone, he'⟩ := step_ended_blank he (hws c (by simp))
    have hrun : Scanner.run s (c :: ws) = Scanner.run (s.step c).1 ws := by
      rcases hst : s.step c with ⟨s', code⟩
      rw [hst] at hdone; subst hdone
      simp only [Scanner.run, hst]
    rw [hrun]
    exact ih he' fun d hd => hws d (by simp [hd])

/-- **A text whose run ends holding a whole value is valid.** -/
theorem checkValid_of_ended {bs : Bytes} (h : Ended (Scanner.run {} bs)) :
    checkValid bs = .ok () := by
  unfold checkValid
  simp only [h.err]
  rcases hf : (Scanner.run {} bs).finish with ⟨s', code⟩
  have hd := finish_ended h
  rw [hf] at hd
  subst hd
  rfl

end Scanner

/-! ## 7. Values -/

open Scanner in
/-- **Exactly one JSON value**: from the start no byte is refused, none but the last can end
the value, the run ends holding it whole, and the first byte is not blank. -/
structure IsValue (v : Bytes) : Prop where
  inside : Inside {} v
  ended : Ended (({} : Scanner).feed v)
  lead : ∀ c ∈ v.head?, isBlank c = false

namespace IsValue

variable {v : Bytes}

theorem ne_nil (hv : IsValue v) : v ≠ [] := by
  rintro rfl
  rcases hv.ended.phase with ⟨h, -⟩ | h <;> cases h

/-- **A value between blanks passes the syntax check.** -/
theorem checkValid (hv : IsValue v) {ws ws' : Bytes} (hws : ∀ c ∈ ws, isBlank c = true)
    (hws' : ∀ c ∈ ws', isBlank c = true) : Json.checkValid (ws ++ v ++ ws') = .ok () := by
  obtain ⟨hin, hfeed⟩ := Scanner.feed_blanks (s := {}) rfl hws
  have hin' : Scanner.Inside {} (ws ++ v) := by
    rw [Scanner.inside_append, hfeed]; exact ⟨hin, hv.inside⟩
  apply Scanner.checkValid_of_ended
  rw [Scanner.run_append hin', Scanner.feed_append, hfeed]
  exact Scanner.run_blanks hv.ended hws'

end IsValue

end Inventory.Json
