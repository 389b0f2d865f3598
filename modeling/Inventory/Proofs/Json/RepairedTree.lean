import Inventory.Proofs.Json.Unescape
/-!
# The tree of a repaired value

`Value.build` runs the machine over a value and builds its tree from the codes: it collects the
bytes of each literal (`Builder.lit`, newest first) and, where the literal ends, places the value
it spells or names a key with it. Over a repaired value the machine makes the same moves
(`Scanner.run_repair`), so the builder makes the same moves too, with its pending literal
repaired (`Builder.run_repaired`). What it places is the same: a literal it places is ASCII or a
whole string literal, whose reading repair does not change (`literal_repair`).

That the pending literal is one of those is an invariant of the run (`Builder.LitOK`), kept by
the phase of the machine: inside a string, a quote and the body read so far; inside a number or a
word, ASCII bytes; elsewhere, the last literal read. What one byte can do from each kind of phase
is said once (`Scanner.step_inStr`, `Scanner.step_bare`, `Scanner.step_outside`).

The main statement is `repair_preserves_json`.
-/

set_option autoImplicit false

namespace Inventory

namespace Json

/-! ## 1. What one byte does, by the kind of phase -/

/-- The phases inside a number or a word. -/
def Phase.bare : Phase → Bool
  | .neg | .one | .zero | .dot | .dot0 | .exp | .expSign | .exp0 | .word _ _ => true
  | _ => false

theorem Phase.bare_of_inStr {p : Phase} (h : p.inStr = true) : p.bare = false := by
  cases p <;> simp_all [Phase.inStr, Phase.bare]

namespace Scanner

/-- A move that neither starts nor continues a literal, and leaves the machine outside every
literal. -/
def Outside (r : Scanner × Code) : Prop :=
  r.2 ≠ .continue ∧ r.2 ≠ .beginLiteral ∧ r.1.phase.inStr = false ∧ r.1.phase.bare = false

theorem pop_phase {u : Scanner} {f : Frame} {rest : List Frame} (hs : u.stack = f :: rest) :
    u.pop.phase = .endTop ∨ u.pop.phase = .endValue := by
  unfold pop
  rw [hs]
  cases rest <;> simp

/-- **After a value** the machine is outside every literal. -/
theorem atEndValue_outside (u : Scanner) (c : UInt8) (h : (u.atEndValue c).2.stops = false) :
    Outside (u.atEndValue c) := by
  match hs : u.stack with
  | [] => rw [atEndValue_nil u c hs] at h; cases h
  | f :: rest =>
    have hpop : u.pop.phase.inStr = false ∧ u.pop.phase.bare = false := by
      rcases pop_phase hs with hp | hp <;> rw [hp] <;> exact ⟨rfl, rfl⟩
    rcases atEndValue_cases c f with ⟨_, hm⟩ | ⟨_, _, hm⟩ | ⟨_, _, hm⟩ | ⟨_, _, hm⟩ | ⟨_, _, hm⟩ |
      ⟨_, _, hm⟩ | ⟨p, hm⟩
    all_goals rw [hm u rest hs] at h ⊢
    · exact ⟨by simp, by simp, rfl, rfl⟩
    · exact ⟨by simp, by simp, rfl, rfl⟩
    · exact ⟨by simp, by simp, rfl, rfl⟩
    · exact ⟨by simp, by simp, hpop⟩
    · exact ⟨by simp, by simp, rfl, rfl⟩
    · exact ⟨by simp, by simp, hpop⟩
    · cases h

/-- Opening a container leaves the machine outside every literal. -/
theorem push_outside (s : Scanner) (c : UInt8) (f : Frame) {next : Phase} {code : Code}
    (hn : next.inStr = false ∧ next.bare = false) (hc : code ≠ .continue ∧ code ≠ .beginLiteral)
    (h : (s.push c f next code).2.stops = false) : Outside (s.push c f next code) := by
  rcases push_snd s c f next code with h' | h'
  · have hph := push_phase (by rw [h']; rintro rfl; rw [h'] at h; cases h)
    exact ⟨by rw [h']; exact hc.1, by rw [h']; exact hc.2, by rw [hph]; exact hn.1,
      by rw [hph]; exact hn.2⟩
  · rw [h'] at h; cases h

/-- Where a value may begin, only a quote moves the machine into a string. -/
theorem atBeginValue_inStr (s : Scanner) {c : UInt8} (hs : s.phase.inStr = false)
    (h : (s.atBeginValue c).1.phase.inStr = true) :
    c = 0x22 ∧ (s.atBeginValue c).1.phase = .inString := by
  by_cases hq : c = 0x22
  · subst hq
    exact ⟨rfl, rfl⟩
  exfalso
  revert h
  have hq' : (c == 0x22) = false := by simpa using hq
  unfold atBeginValue
  by_cases h0 : isBlank c = true
  · rw [if_pos h0, hs]; simp
  rw [if_neg h0]
  by_cases h1 : (c == 0x7B) = true
  · rw [if_pos h1]; unfold push; dsimp only; split <;> simp [Phase.inStr, fail]
  rw [if_neg h1]
  by_cases h2 : (c == 0x5B) = true
  · rw [if_pos h2]; unfold push; dsimp only; split <;> simp [Phase.inStr, fail]
  rw [if_neg h2]
  simp only [hq', Bool.false_eq_true, ↓reduceIte]
  repeat' split
  all_goals simp [Phase.inStr, fail]

/-- **Where a value or a key may begin**, a byte starts a literal (a string only at a quote),
or leaves the machine outside every literal. -/
theorem atBegin_class (s : Scanner) (c : UInt8) (hs : s.phase.inStr = false ∧ s.phase.bare = false)
    (r : Scanner × Code) (hr : r = s.atBeginValue c ∨ r = s.atBeginString c) (h : r.2.stops = false) :
    (r.2 = .beginLiteral ∧ (r.1.phase.inStr = true → c = 0x22 ∧ r.1.phase = .inString)) ∨
      Outside r := by
  rcases hr with rfl | rfl
  · rcases atBeginValue_cases c with ⟨-, hm⟩ | ⟨-, hm⟩ | ⟨-, hm⟩ | ⟨p, -, -, -, hm⟩ | hm
    · rw [hm s]; exact .inr ⟨by simp, by simp, hs⟩
    · rw [hm s] at h ⊢; exact .inr (push_outside s c _ ⟨rfl, rfl⟩ ⟨by simp, by simp⟩ h)
    · rw [hm s] at h ⊢; exact .inr (push_outside s c _ ⟨rfl, rfl⟩ ⟨by simp, by simp⟩ h)
    · exact .inl ⟨by rw [hm s], atBeginValue_inStr s hs.1⟩
    · rw [hm s] at h; cases h
  · rcases atBeginString_cases c with ⟨-, hm⟩ | ⟨hq, hm⟩ | hm
    · rw [hm s]; exact .inr ⟨by simp, by simp, hs⟩
    · rw [hm s]; exact .inl ⟨rfl, fun _ => ⟨hq, rfl⟩⟩
    · rw [hm s] at h; cases h

/-- After the integer part of a number, a byte goes on with the number or ends it. -/
theorem atZero_class (s : Scanner) (c : UInt8) (h : (s.atZero c).2.stops = false) :
    ((s.atZero c).2 = .continue ∧ (s.atZero c).1.phase.inStr = false) ∨ Outside (s.atZero c) := by
  rcases atZero_cases c with ⟨-, hm⟩ | ⟨-, hm⟩ | ⟨-, -, -, hm⟩
  · rw [hm s]; exact .inl ⟨rfl, rfl⟩
  · rw [hm s]; exact .inl ⟨rfl, rfl⟩
  · rw [hm s] at h ⊢; exact .inr (atEndValue_outside s c h)

theorem atExpSign_class (s : Scanner) (c : UInt8) (h : (s.atExpSign c).2.stops = false) :
    (s.atExpSign c).2 = .continue ∧ (s.atExpSign c).1.phase.inStr = false := by
  rcases atExpSign_cases c with ⟨-, hm⟩ | hm
  · rw [hm s]; exact ⟨rfl, rfl⟩
  · rw [hm s] at h; cases h

/-- **Inside a number or a word** a byte goes on with it, or ends it and leaves the machine
outside every literal. -/
theorem step_bare {s : Scanner} {c : UInt8} (hb : s.phase.bare = true) (h : (s.step c).2.stops = false) :
    ((s.step c).2 = .continue ∧ (s.step c).1.phase.inStr = false) ∨ Outside (s.step c) := by
  cases hp : s.phase <;> simp only [Phase.bare, hp, Bool.false_eq_true] at hb
  case neg =>
    rw [step_phase_eq hp] at h ⊢
    simp only [step] at h ⊢
    split_ifs at h ⊢
    · exact .inl ⟨rfl, rfl⟩
    · exact .inl ⟨rfl, rfl⟩
    · cases h
  case one =>
    rw [step_phase_eq hp] at h ⊢
    simp only [step] at h ⊢
    split_ifs at h ⊢
    · exact .inl ⟨rfl, rfl⟩
    · exact atZero_class _ c h
  case zero =>
    rw [step_phase_eq hp] at h ⊢
    exact atZero_class _ c h
  case dot =>
    rw [step_phase_eq hp] at h ⊢
    simp only [step] at h ⊢
    split_ifs at h ⊢
    · exact .inl ⟨rfl, rfl⟩
    · cases h
  case dot0 =>
    rw [step_phase_eq hp] at h ⊢
    simp only [step] at h ⊢
    split_ifs at h ⊢
    · exact .inl ⟨rfl, rfl⟩
    · exact .inl ⟨rfl, rfl⟩
    · exact .inr (atEndValue_outside _ c h)
  case exp =>
    rw [step_phase_eq hp] at h ⊢
    simp only [step] at h ⊢
    split_ifs at h ⊢
    · exact .inl ⟨rfl, rfl⟩
    · exact .inl (atExpSign_class _ c h)
  case expSign =>
    rw [step_phase_eq hp] at h ⊢
    exact .inl (atExpSign_class _ c h)
  case exp0 =>
    rw [step_phase_eq hp] at h ⊢
    simp only [step] at h ⊢
    split_ifs at h ⊢
    · exact .inl ⟨rfl, rfl⟩
    · exact .inr (atEndValue_outside _ c h)
  case word name rest =>
    rw [step_phase_eq hp] at h ⊢
    cases rest with
    | nil => exact .inr (atEndValue_outside _ c h)
    | cons e more =>
      simp only [step] at h ⊢
      split_ifs at h ⊢
      · exact .inl ⟨rfl, rfl⟩
      · exact .inl ⟨rfl, rfl⟩
      · cases h

/-- **Outside every literal** a byte starts one (a string only at a quote), or leaves the
machine outside every literal. -/
theorem step_outside {s : Scanner} {c : UInt8} (hs : s.phase.inStr = false ∧ s.phase.bare = false)
    (h : (s.step c).2.stops = false) :
    ((s.step c).2 = .beginLiteral ∧ ((s.step c).1.phase.inStr = true → c = 0x22 ∧
      (s.step c).1.phase = .inString)) ∨ Outside (s.step c) := by
  have hself : (s, Code.skipSpace).2.stops = false → Outside (s, .skipSpace) :=
    fun _ => ⟨by simp, by simp, hs⟩
  cases hp : s.phase <;> simp only [Phase.bare, Phase.inStr, hp, Bool.true_eq_false, and_false,
    false_and] at hs
  case beginValue =>
    have hst : s.step c = s.atBeginValue c := by unfold step; rw [hp]
    rw [hst] at h ⊢
    exact atBegin_class s c (by rw [hp]; exact ⟨rfl, rfl⟩) _ (.inl rfl) h
  case beginValueOrEmpty =>
    have hst : s.step c = if isBlank c then (s, .skipSpace) else if c == 0x5D then s.atEndValue c
        else s.atBeginValue c := by unfold step; rw [hp]
    rw [hst] at h ⊢
    split_ifs at h ⊢
    · exact .inr (hself h)
    · exact .inr (atEndValue_outside s c h)
    · exact atBegin_class s c (by rw [hp]; exact ⟨rfl, rfl⟩) _ (.inl rfl) h
  case beginStringOrEmpty =>
    rw [step_phase_eq hp] at h ⊢
    simp only [step] at h ⊢
    split_ifs at h ⊢
    · exact .inr ⟨by simp, by simp, rfl, rfl⟩
    · exact .inr (atEndValue_outside _ c h)
    · exact atBegin_class _ c ⟨rfl, rfl⟩ _ (.inr rfl) h
  case beginString =>
    have hst : s.step c = s.atBeginString c := by unfold step; rw [hp]
    rw [hst] at h ⊢
    exact atBegin_class s c (by rw [hp]; exact ⟨rfl, rfl⟩) _ (.inr rfl) h
  case endValue =>
    have hst : s.step c = s.atEndValue c := by unfold step; rw [hp]
    rw [hst] at h ⊢
    exact .inr (atEndValue_outside s c h)
  case endTop =>
    have hst : s.step c = s.atEndTop c := by unfold step; rw [hp]
    rw [hst, atEndTop_snd] at h
    cases h
  case failed =>
    have hst : s.step c = (s, .error) := by unfold step; rw [hp]
    rw [hst] at h
    cases h

/-- **Inside a string** a byte is read as the same string byte by the machine at the string's
phase alone. -/
theorem step_numAt_inStr {s : Scanner} {c : UInt8} (hp : s.phase.inStr = true)
    (h : (s.step c).2.stops = false) :
    (numAt s.phase).step c = (numAt (s.step c).1.phase, (s.step c).2) := by
  cases hq : s.phase <;> simp only [Phase.inStr, hq, Bool.false_eq_true] at hp
  all_goals rw [step_phase_eq hq] at h ⊢
  all_goals simp only [step, numAt] at h ⊢
  all_goals split_ifs at h ⊢ <;> first | rfl | cases h

end Scanner

/-! ## 2. The builder with its literal repaired -/

namespace Builder

/-- The builder with its pending literal repaired. -/
def repaired (b : Builder) : Builder := { b with lit := (Utf8.repair b.lit.reverse).reverse }

@[simp] theorem repaired_scanner (b : Builder) : b.repaired.scanner = b.scanner := rfl
@[simp] theorem repaired_opened (b : Builder) : b.repaired.opened = b.opened := rfl
@[simp] theorem repaired_hasLit (b : Builder) : b.repaired.hasLit = b.hasLit := rfl
@[simp] theorem repaired_result (b : Builder) : b.repaired.result = b.result := rfl
@[simp] theorem repaired_lit (b : Builder) : b.repaired.lit = (Utf8.repair b.lit.reverse).reverse :=
  rfl

theorem place_repaired (b : Builder) (v : Value) : b.repaired.place v = (b.place v).repaired := by
  unfold place
  cases hb : b.opened with
  | nil => simp [hb, repaired]
  | cons p rest => cases p <;> simp [hb, repaired]

theorem flush_repaired {b : Builder}
    (h : b.hasLit = true → literalValue (Utf8.repair b.lit.reverse) = literalValue b.lit.reverse) :
    b.repaired.flush = b.flush.repaired := by
  unfold flush
  by_cases hl : b.hasLit = true
  · simp only [repaired_hasLit, hl, ↓reduceIte, repaired_lit, List.reverse_reverse, h hl,
      place_repaired]
    simp [repaired]
  · simp only [repaired_hasLit, hl, Bool.false_eq_true, ↓reduceIte]

theorem close_repaired {b : Builder}
    (h : b.hasLit = true → literalValue (Utf8.repair b.lit.reverse) = literalValue b.lit.reverse) :
    b.repaired.close = b.close.repaired := by
  unfold close
  rw [flush_repaired h]
  generalize b.flush = b'
  cases hb : b'.opened with
  | nil => simp [hb]
  | cons p rest =>
    cases p
    all_goals simp only [repaired_opened, hb]
    all_goals rw [← place_repaired]
    all_goals rfl

theorem place_scanner (b : Builder) (v : Value) : (b.place v).scanner = b.scanner := by
  unfold place
  split <;> rfl

theorem flush_scanner (b : Builder) : b.flush.scanner = b.scanner := by
  unfold flush
  split
  · exact place_scanner b _
  · rfl

theorem close_scanner (b : Builder) : b.close.scanner = b.scanner := by
  simp only [close]
  split
  all_goals first | exact flush_scanner b | (rw [place_scanner]; exact flush_scanner b)

/-- The builder never moves the machine. -/
theorem feed_scanner (b : Builder) (c : UInt8) (code : Code) : (b.feed c code).scanner = b.scanner := by
  cases code
  all_goals simp only [feed]
  case objectKey => split <;> rfl
  case objectValue => exact flush_scanner b
  case arrayValue => exact flush_scanner b
  case endObject => exact close_scanner b
  case endArray => exact close_scanner b
  case done => exact flush_scanner b

theorem place_lit (b : Builder) (v : Value) : (b.place v).lit = b.lit := by
  unfold place
  split <;> rfl

theorem flush_lit (b : Builder) : b.flush.lit = b.lit ∨ b.flush.lit = [] := by
  unfold flush
  split
  · exact .inr rfl
  · exact .inl rfl

theorem close_lit (b : Builder) : b.close.lit = b.lit ∨ b.close.lit = [] := by
  simp only [close]
  split
  all_goals first | exact flush_lit b | (rw [place_lit]; exact flush_lit b)

/-- **Past the start or the middle of a literal** the builder keeps its pending literal or drops
it. -/
theorem feed_lit (b : Builder) (c : UInt8) {code : Code} (h1 : code ≠ .continue)
    (h2 : code ≠ .beginLiteral) : (b.feed c code).lit = b.lit ∨ (b.feed c code).lit = [] := by
  cases code
  case «continue» => exact absurd rfl h1
  case beginLiteral => exact absurd rfl h2
  case objectKey => exact .inr (by simp only [feed]; split <;> rfl)
  case objectValue => exact flush_lit b
  case arrayValue => exact flush_lit b
  case endObject => exact close_lit b
  case endArray => exact close_lit b
  case done => exact flush_lit b
  all_goals exact .inl rfl

/-- **Repair commutes with the builder's move on an ASCII byte**, when a literal it places or
names a key with is ASCII or a string literal. -/
theorem feed_repaired (b : Builder) {c : UInt8} (hc : c < 0x80) (code : Code)
    (hL : code ≠ .continue → code ≠ .beginLiteral →
      (∀ x ∈ b.lit.reverse, x < 0x80) ∨ StringText b.lit.reverse) :
    b.repaired.feed c code = (b.feed c code).repaired := by
  cases code
  case «continue» =>
    simp only [feed, repaired, List.reverse_cons, Utf8.repair_append_ascii hc, Utf8.repair_nil,
      List.reverse_append]
    rfl
  case beginLiteral =>
    simp only [feed, repaired, List.reverse_singleton, Utf8.repair_ascii_cons hc, Utf8.repair_nil]
  case objectKey =>
    have hd := (literal_repair (hL (by simp) (by simp))).2
    simp only [feed, repaired_lit, List.reverse_reverse, hd]
    split <;> simp_all [repaired]
  case objectValue => exact flush_repaired fun _ => (literal_repair (hL (by simp) (by simp))).1
  case arrayValue => exact flush_repaired fun _ => (literal_repair (hL (by simp) (by simp))).1
  case endObject => exact close_repaired fun _ => (literal_repair (hL (by simp) (by simp))).1
  case endArray => exact close_repaired fun _ => (literal_repair (hL (by simp) (by simp))).1
  case done => exact flush_repaired fun _ => (literal_repair (hL (by simp) (by simp))).1
  all_goals rfl

/-! ## 3. What the pending literal holds -/

/-- **What the pending literal holds**, by the machine's phase. Inside a string: a quote and a
body that the machine reads from the string's start to the phase it is in. Inside a number or a
word: ASCII bytes. Anywhere else: ASCII bytes or a whole string literal, whichever was read
last. -/
structure LitOK (b : Builder) : Prop where
  str : b.scanner.phase.inStr = true → ∃ body, b.lit.reverse = 0x22 :: body ∧
    Scanner.Inside (Scanner.numAt .inString) body ∧
      (Scanner.numAt .inString).feed body = Scanner.numAt b.scanner.phase
  bare : b.scanner.phase.bare = true → ∀ x ∈ b.lit.reverse, x < 0x80
  whole : b.scanner.phase.inStr = false →
    (∀ x ∈ b.lit.reverse, x < 0x80) ∨ StringText b.lit.reverse

theorem litOK_start : LitOK {} :=
  ⟨fun h => (by cases h), fun h => (by cases h), fun _ => .inl (by simp)⟩

/-- Outside every string, ASCII bytes are a literal of any kind. -/
theorem litOK_ascii {b : Builder} (hs : b.scanner.phase.inStr = false)
    (h : ∀ x ∈ b.lit.reverse, x < 0x80) : b.LitOK :=
  ⟨fun h' => (by rw [hs] at h'; cases h'), fun _ => h, fun _ => .inl h⟩

section Step

variable {b nb : Builder} {c : UInt8}

/-- **Inside a string** a byte extends the body, and the closing quote makes the literal a whole
string literal. -/
theorem litOK_step_inStr (hok : b.LitOK) (hs : b.scanner.phase.inStr = true)
    (h : (b.scanner.step c).2.stops = false)
    (hnb : { b with scanner := (b.scanner.step c).1 }.feed c (b.scanner.step c).2 = nb) :
    nb.LitOK := by
  obtain ⟨hcode, p, ht, hp⟩ := Scanner.step_inStr hs h
  obtain ⟨body, hL, hin, hfeed⟩ := hok.str hs
  have hsc : nb.scanner = (b.scanner.step c).1 := by rw [← hnb, feed_scanner]
  have hph : nb.scanner.phase = p := by rw [hsc, ht]
  have hlit : nb.lit = c :: b.lit := by rw [← hnb, hcode]; rfl
  have hrev : nb.lit.reverse = 0x22 :: (body ++ [c]) := by
    rw [hlit, List.reverse_cons, hL, List.cons_append]
  -- the machine at the string's phase alone reads the byte alike
  have hrun : Scanner.Inside (Scanner.numAt .inString) (body ++ [c]) ∧
      (Scanner.numAt .inString).feed (body ++ [c]) = Scanner.numAt nb.scanner.phase := by
    rw [Scanner.inside_append, Scanner.feed_append, hfeed, Scanner.inside_cons,
      Scanner.feed_cons, Scanner.step_numAt_inStr hs h, hsc, hcode]
    exact ⟨⟨hin, rfl, trivial⟩, rfl⟩
  refine ⟨fun _ => ⟨body ++ [c], hrev, hrun⟩, fun hb => ?_, fun hout => ?_⟩
  · rcases hp with hp | ⟨hp, -⟩
    · rw [hph, Phase.bare_of_inStr hp] at hb; cases hb
    · rw [hph, hp] at hb; cases hb
  · -- the closing quote: the body read so far is a whole string body
    rcases hp with hp | ⟨hpe, rfl⟩
    · rw [hph, hp] at hout; cases hout
    have hended : Scanner.Ended ((Scanner.numAt .inString).feed (body ++ [0x22])) := by
      rw [hrun.2, hph, hpe]
      exact ⟨rfl, rfl, .inr rfl⟩
    obtain ⟨body', heq, hbody⟩ := Scanner.stringBody_of_run _ le_rfl hrun.1 hended
    obtain rfl := List.append_cancel_right heq
    exact .inr ⟨body, hrev, hbody⟩

/-- **Inside a number or a word** the literal stays ASCII. -/
theorem litOK_step_bare (hc : c < 0x80) (hok : b.LitOK) (hb : b.scanner.phase.bare = true)
    (h : (b.scanner.step c).2.stops = false)
    (hnb : { b with scanner := (b.scanner.step c).1 }.feed c (b.scanner.step c).2 = nb) :
    nb.LitOK := by
  have hsc : nb.scanner = (b.scanner.step c).1 := by rw [← hnb, feed_scanner]
  have hl := hok.bare hb
  rcases Scanner.step_bare hb h with ⟨hcode, hin⟩ | ⟨h1, h2, hin, -⟩
  · -- the byte goes on with the literal
    have hlit : nb.lit = c :: b.lit := by rw [← hnb, hcode]; rfl
    refine litOK_ascii (by rw [hsc]; exact hin) ?_
    intro x hx
    rw [hlit, List.reverse_cons] at hx
    rcases List.mem_append.mp hx with hx | hx
    · exact hl x hx
    · obtain rfl : x = c := by simpa using hx
      exact hc
  · -- the literal ends: it is kept or dropped
    refine litOK_ascii (by rw [hsc]; exact hin) ?_
    rcases feed_lit _ c h1 h2 with hlit | hlit <;> rw [hnb] at hlit <;> rw [hlit]
    · exact hl
    · simp

/-- **Elsewhere** a byte starts a literal, a string only at a quote, or keeps or drops the
pending one. -/
theorem litOK_step_outside (hc : c < 0x80) (hok : b.LitOK)
    (hs : b.scanner.phase.inStr = false ∧ b.scanner.phase.bare = false)
    (h : (b.scanner.step c).2.stops = false)
    (hnb : { b with scanner := (b.scanner.step c).1 }.feed c (b.scanner.step c).2 = nb) :
    nb.LitOK := by
  have hsc : nb.scanner = (b.scanner.step c).1 := by rw [← hnb, feed_scanner]
  rcases Scanner.step_outside hs h with ⟨hcode, hstr⟩ | ⟨h1, h2, hin, hbr⟩
  · have hlit : nb.lit = [c] := by rw [← hnb, hcode]; rfl
    by_cases hin : nb.scanner.phase.inStr = true
    · -- a quote opens a string with an empty body
      obtain ⟨rfl, hq⟩ := hstr (by rw [← hsc]; exact hin)
      refine ⟨fun _ => ⟨[], by rw [hlit]; rfl, trivial, by rw [hsc, hq]; rfl⟩, fun hb => ?_,
        fun hout => ?_⟩
      · rw [Phase.bare_of_inStr hin] at hb; cases hb
      · rw [hin] at hout; cases hout
    · refine litOK_ascii (by simpa using hin) ?_
      rw [hlit]
      simpa using hc
  · have hin' : nb.scanner.phase.inStr = false := by rw [hsc]; exact hin
    refine ⟨fun h' => (by rw [hin'] at h'; cases h'), fun h' => (by rw [hsc, hbr] at h'; cases h'),
      fun _ => ?_⟩
    rcases feed_lit _ c h1 h2 with hlit | hlit <;> rw [hnb] at hlit <;> rw [hlit]
    · exact hok.whole hs.1
    · exact .inl (by simp)

/-- **One ASCII byte keeps what the pending literal holds.** -/
theorem litOK_step (hc : c < 0x80) (hok : b.LitOK) (h : (b.scanner.step c).2.stops = false)
    (hnb : { b with scanner := (b.scanner.step c).1 }.feed c (b.scanner.step c).2 = nb) :
    nb.LitOK := by
  by_cases hs : b.scanner.phase.inStr = true
  · exact litOK_step_inStr hok hs h hnb
  by_cases hb : b.scanner.phase.bare = true
  · exact litOK_step_bare hc hok hb h hnb
  · exact litOK_step_outside hc hok ⟨by simpa using hs, by simpa using hb⟩ h hnb

/-- Outside a string the pending literal ends in an ASCII byte: it is ASCII, or a string
literal, which ends in its closing quote. -/
theorem LitOK.head_ascii (hok : b.LitOK) (hs : b.scanner.phase.inStr = false) :
    ∀ x ∈ b.lit.head?, x < 0x80 := by
  intro x hx
  rcases hok.whole hs with hl | ⟨body, hL, -⟩
  · exact hl x (List.mem_reverse.mpr (List.mem_of_mem_head? hx))
  · have hq : b.lit.head? = some 0x22 := by
      rw [← List.getLast?_reverse, hL, ← List.cons_append, List.getLast?_append]
      simp
    rw [hq, Option.mem_def, Option.some.injEq] at hx
    rw [← hx]
    decide

/-- **The repaired builder makes the same move on an ASCII byte**, its literal repaired, and the
literal goes on ending in an ASCII byte. -/
theorem step_repaired (hc : c < 0x80) (hok : b.LitOK) (h : (b.scanner.step c).2.stops = false)
    (hnb : { b with scanner := (b.scanner.step c).1 }.feed c (b.scanner.step c).2 = nb) :
    { b.repaired with scanner := (b.repaired.scanner.step c).1 }.feed c
        (b.repaired.scanner.step c).2 = nb.repaired ∧
      nb.LitOK ∧ ∀ x ∈ nb.lit.head?, x < 0x80 := by
  -- a byte inside a string continues it, so any other move is made outside every string
  have hout : (b.scanner.step c).2 ≠ .continue → b.scanner.phase.inStr = false := by
    intro h1
    by_contra hs
    exact h1 (Scanner.step_inStr (by simpa using hs) h).1
  refine ⟨?_, litOK_step hc hok h hnb, ?_⟩
  · rw [← hnb]
    exact feed_repaired { b with scanner := (b.scanner.step c).1 } hc _ fun h1 _ =>
      hok.whole (hout h1)
  · by_cases h1 : (b.scanner.step c).2 = .continue
    · rw [← hnb, h1]; simpa [feed] using hc
    by_cases h2 : (b.scanner.step c).2 = .beginLiteral
    · rw [← hnb, h2]; simpa [feed] using hc
    rcases feed_lit _ c h1 h2 with hlit | hlit <;> rw [hnb] at hlit <;> rw [hlit]
    · exact hok.head_ascii (hout h1)
    · simp

end Step

/-! ## 4. Runs -/

/-- One byte the machine takes, then the rest unless a value is complete. -/
theorem run_cons (b : Builder) (c : UInt8) (rest : Bytes) (h : (b.scanner.step c).2.stops = false)
    {nb : Builder} (hnb : { b with scanner := (b.scanner.step c).1 }.feed c (b.scanner.step c).2 = nb) :
    b.run (c :: rest) = if nb.result.isSome then nb else nb.run rest := by
  rw [run, ← hnb]
  rcases hr : b.scanner.step c with ⟨s', code⟩
  rw [hr] at h
  cases code
  case done => cases h
  case error => cases h
  all_goals rfl

/-- **A run of bytes from `0x80` up inside a string** only adds to the pending literal. -/
theorem run_high {b : Builder} (hp : b.scanner.phase = .inString) (hres : b.result = none)
    {h : Bytes} (hh : ∀ x ∈ h, 0x80 ≤ x) (rest : Bytes) :
    b.run (h ++ rest) = { b with lit := h.reverse ++ b.lit }.run rest := by
  induction h generalizing b with
  | nil => rfl
  | cons x h ih =>
    have hstep := Scanner.step_inString_high hp (hh x (by simp))
    have hnext : { b with scanner := (b.scanner.step x).1 }.feed x (b.scanner.step x).2 =
        { b with lit := x :: b.lit } := by
      rw [hstep]; rfl
    have hres' : ({ b with lit := x :: b.lit } : Builder).result = none := hres
    have hgo : ¬ ({ b with lit := x :: b.lit } : Builder).result.isSome = true := by
      rw [hres']; decide
    rw [List.cons_append, run_cons b x _ (by rw [hstep]; rfl) hnext, if_neg hgo,
      ih (b := { b with lit := x :: b.lit }) hp hres' fun d hd => hh d (by simp [hd])]
    simp

/-- Inside a string, a run of bytes from `0x80` up extends the body. -/
theorem litOK_high {b : Builder} (hok : b.LitOK) (hp : b.scanner.phase = .inString) {h : Bytes}
    (hh : ∀ x ∈ h, 0x80 ≤ x) : ({ b with lit := h.reverse ++ b.lit } : Builder).LitOK := by
  obtain ⟨body, hL, hin, hfeed⟩ := hok.str (by rw [hp]; rfl)
  have hnum : Scanner.numAt b.scanner.phase = Scanner.numAt .inString := by rw [hp]
  obtain ⟨q1, q2, -, -⟩ := Scanner.run_high (s := Scanner.numAt .inString) rfl hh
  refine ⟨fun _ => ⟨body ++ h, ?_, ?_, ?_⟩, fun hb => ?_, fun hb => ?_⟩
  · simp only [List.reverse_append, List.reverse_reverse, hL, List.cons_append]
  · rw [Scanner.inside_append, hfeed, hnum]; exact ⟨hin, q1⟩
  · rw [Scanner.feed_append, hfeed, hnum, q2, ← hp]
  · simp only [hp] at hb; cases hb
  · simp only [hp] at hb; cases hb

/-- A run from `0x80` up added to a literal that ends in an ASCII byte is repaired on its own. -/
theorem repaired_high {b : Builder} (hhead : ∀ a ∈ b.lit.head?, a < 0x80) (h : Bytes) :
    { b.repaired with lit := (Utf8.repair h).reverse ++ b.repaired.lit } =
      ({ b with lit := h.reverse ++ b.lit } : Builder).repaired := by
  have hsplit := Utf8.repair_append_of_last (x := b.lit.reverse)
    (by rwa [List.getLast?_reverse]) h
  simp only [repaired, List.reverse_append, List.reverse_reverse, hsplit]

/-- **The builder reads a repaired text as the text**, its pending literal repaired: from any
state the machine takes the text from, with the literal as the phase has it, and ending in an
ASCII byte unless the text starts with one. While no value is complete, the literal keeps its
form and the machine is where the text leads it. -/
theorem run_repaired {v : Bytes} : ∀ {b : Builder}, Scanner.Good b.scanner →
    Scanner.Inside b.scanner v → b.LitOK → b.result = none →
    ((∀ a ∈ b.lit.head?, a < 0x80) ∨ ∀ a ∈ v.head?, a < 0x80) →
    b.repaired.run (Utf8.repair v) = (b.run v).repaired ∧
      ((b.run v).result = none → (b.run v).LitOK ∧ (b.run v).scanner = b.scanner.feed v) := by
  induction hn : v.length using Nat.strongRecOn generalizing v with
  | _ n ih =>
    intro b hg hin hok hres hhead
    -- the text is a run of bytes from `0x80` up, then the rest from an ASCII byte
    obtain ⟨h, rest, rfl, hh, hr⟩ := exists_high_split v
    cases h with
    | nil =>
      cases rest with
      | nil => exact ⟨by simp [run], fun _ => ⟨hok, rfl⟩⟩
      | cons a rest =>
        -- an ASCII byte: both builders make the same move
        have ha : a < 0x80 := hr a rfl
        rw [List.nil_append] at hin ⊢
        rw [Utf8.repair_ascii_cons ha]
        obtain ⟨h1, h2⟩ := hin
        generalize hnb : { b with scanner := (b.scanner.step a).1 }.feed a (b.scanner.step a).2 = nb
        have hsc : nb.scanner = (b.scanner.step a).1 := by rw [← hnb, feed_scanner]
        obtain ⟨hmove, hok', hhead'⟩ := step_repaired ha hok h1 hnb
        rw [run_cons b a rest h1 hnb, run_cons b.repaired a _ h1 hmove, repaired_result]
        by_cases hdone : nb.result.isSome = true
        · -- a value is complete: both runs stop here
          rw [if_pos hdone, if_pos hdone]
          refine ⟨rfl, fun hr => ?_⟩
          rw [hr] at hdone
          cases hdone
        · rw [if_neg hdone, if_neg hdone]
          obtain ⟨e1, e2⟩ := ih rest.length (by simp [← hn]) rfl
            (hsc ▸ Scanner.step_good hg h1) (hsc ▸ h2) hok' (by simpa using hdone) (.inl hhead')
          refine ⟨e1, fun hr => ⟨(e2 hr).1, ?_⟩⟩
          rw [(e2 hr).2, hsc, Scanner.feed_cons]
    | cons x h =>
      -- a run from `0x80` up stands inside a string and only adds to the literal
      have hx : 0x80 ≤ x := hh x (by simp)
      have hhead : ∀ a ∈ b.lit.head?, a < 0x80 := hhead.resolve_right fun h' => by
        have := h' x (by simp)
        exact absurd hx (by simpa using this)
      obtain ⟨hp, -⟩ := Scanner.step_high hg hx (by have := hin.1; simpa using this)
      obtain ⟨-, r2, -, -⟩ := Scanner.run_high hp hh
      generalize hb2 : { b with lit := (x :: h).reverse ++ b.lit } = b2
      have hsc2 : b2.scanner = b.scanner := by rw [← hb2]
      have hok2 : b2.LitOK := hb2 ▸ litOK_high hok hp hh
      have hjoin : ∀ y : Bytes, b.repaired.run (Utf8.repair (x :: h) ++ y) = b2.repaired.run y := by
        intro y
        rw [run_high (by simpa using hp) (by simpa using hres) (Utf8.repair_high hh),
          repaired_high hhead, hb2]
      have hrun := run_high hp hres hh rest
      rw [hb2] at hrun
      rw [Scanner.inside_append, r2] at hin
      cases rest with
      | nil =>
        have hj := hjoin []
        rw [List.append_nil] at hj hrun ⊢
        rw [hj, hrun]
        exact ⟨rfl, fun _ => ⟨hok2, by rw [r2]; exact hsc2⟩⟩
      | cons a rest =>
        -- the rest starts with an ASCII byte, from which the induction goes on
        have ha : a < 0x80 := hr a rfl
        have hl : (a :: rest).length < n := by
          rw [← hn]; simp only [List.length_append, List.length_cons]; omega
        obtain ⟨e1, e2⟩ := ih _ hl rfl (hsc2 ▸ hg) (hsc2 ▸ hin.2) hok2 (by rw [← hb2]; exact hres)
          (.inr (by simpa using ha))
        rw [Utf8.repair_ascii_cons ha] at e1
        rw [Utf8.repair_append_ascii ha, hjoin, hrun]
        refine ⟨e1, fun hres' => ⟨(e2 hres').1, ?_⟩⟩
        rw [(e2 hres').2, hsc2, Scanner.feed_append, r2]

end Builder

/-! ## 5. Repaired values -/

/-- **Building a repaired value gives the value's tree.** -/
theorem build_repair {r : Bytes} (hr : IsValue r) : Value.build (Utf8.repair r) = Value.build r := by
  have hstart : ({} : Builder).repaired = {} := by simp [Builder.repaired]
  obtain ⟨hrun, hend⟩ := Builder.run_repaired Scanner.good_start hr.inside Builder.litOK_start rfl
    (.inl (by simp))
  rw [hstart] at hrun
  unfold Value.build
  rw [hrun]
  simp only [Builder.repaired_result, Builder.repaired_scanner]
  cases hB : (Builder.run {} r).result with
  | some v => rfl
  | none =>
    obtain ⟨hok, hsc⟩ := hend hB
    -- the text ends outside every string, where the literal is ASCII or a string literal
    have hs : (Builder.run {} r).scanner.phase.inStr = false := by
      rw [hsc]
      rcases hr.ended.phase with ⟨hp, -⟩ | hp
      · rw [hp]; rfl
      · revert hp
        cases (({} : Scanner).feed r).phase <;> simp [Phase.closes, Phase.inStr]
    rw [Builder.flush_repaired fun _ => (literal_repair (hok.whole hs)).1, Builder.repaired_result]
    rfl

/-- **Repair keeps a JSON value and its meaning.** The repaired text is valid UTF-8 and again
one value. Every ASCII byte keeps its place, with the machine in the same state before it; every
byte from `0x80` up, the only bytes repair changes, is read inside a string and outside every
escape. The value reads as the same tree, and a valid text is kept as it is. -/
theorem repair_preserves_json {r : Bytes} (hr : IsValue r) :
    Utf8.isValid (Utf8.repair r) = true ∧ IsValue (Utf8.repair r) ∧
      (∀ p c q, r = p ++ c :: q → c < 0x80 →
        Utf8.repair r = Utf8.repair p ++ c :: Utf8.repair q ∧
          ({} : Scanner).feed (Utf8.repair p) = ({} : Scanner).feed p) ∧
      (∀ p c q, r = p ++ c :: q → 0x80 ≤ c → (({} : Scanner).feed p).phase = .inString) ∧
      Value.parseStrict (Utf8.repair r) = Value.parseStrict r ∧
      (Utf8.isValid r = true → Utf8.repair r = r) := by
  have hnil : ∀ c ∈ ([] : Bytes), isBlank c = true := by simp
  have hcheck := hr.checkValid hnil hnil
  have hcheck' := (isValue_repair hr).checkValid hnil hnil
  simp only [List.nil_append, List.append_nil] at hcheck hcheck'
  refine ⟨Utf8.isValid_repair r, isValue_repair hr, fun p c q hpq hc => ?_, fun p c q hpq hc => ?_,
    ?_, Utf8.repair_of_isValid⟩
  · -- an ASCII byte splits the repair, and the machine reads the repaired part alike
    subst hpq
    have hin := ((Scanner.inside_append _ _ _).mp hr.inside).1
    exact ⟨Utf8.repair_append_ascii hc p q, (Scanner.run_repair Scanner.good_start hin).2.1⟩
  · subst hpq
    obtain ⟨hin, hrest⟩ := (Scanner.inside_append _ _ _).mp hr.inside
    exact (Scanner.step_high (Scanner.good_feed Scanner.good_start hin) hc hrest.1).1
  · unfold Value.parseStrict
    rw [hcheck, hcheck', build_repair hr]

theorem repair_preserves_json_stray_byte :
    IsValue [0x22, 0xFF, 0x22] ∧
      Value.parseStrict (Utf8.repair [0x22, 0xFF, 0x22]) = Value.parseStrict [0x22, 0xFF, 0x22] :=
  have hv : IsValue [0x22, 0xFF, 0x22] :=
    (isString_of_stringText ⟨[0xFF], rfl, .plain (by decide) (by decide) (by decide) .nil⟩).1
  ⟨hv, (repair_preserves_json hv).2.2.2.2.1⟩

end Json

end Inventory
