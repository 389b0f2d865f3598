import Inventory.Proofs.Json.Machine
/-!
# A value scanned inside open containers

The document reader hands each member value to a machine of its own, while the layouts run
one machine over the whole document. The two agree: a state of the machine run over a value
alone, `embed`ded under the containers open around the value, is the state of the outer machine
at the same byte. Each step of the embedded machine follows the step of the machine alone
(`step_embed`), with two differences, both at the edges:

* where the value alone is done, the outer machine reads the byte as after a value in its
  innermost container;
* the depth limit counts the outer containers too, so a bracket that the value alone may open
  is refused when it opens one container too many (`Follows`).

Over a whole run (`feed_embed`): a value whose deepest nesting, with the containers around it,
stays within `maxDepth` runs inside them exactly as alone; one that goes deeper is refused
there (`run_embed_deep`).
-/

set_option autoImplicit false

namespace Inventory.Json

namespace Scanner

/-! ## 1. Embedded states -/

/-- **A state under open containers** `base` (innermost first): the same phase, its containers
stacked on `base`, the depth counted from the outside. The end of the top-level value is the
end of a value there. -/
def embed (base : List Frame) (t : Scanner) : Scanner :=
  { phase := t.phase.lift, stack := t.stack ++ base, depth := t.depth + base.length,
    endTop := false, err := t.err }

variable {base : List Frame} {t : Scanner} {c : UInt8}

@[simp] theorem embed_phase : (embed base t).phase = t.phase.lift := rfl

@[simp] theorem embed_stack : (embed base t).stack = t.stack ++ base := rfl

@[simp] theorem embed_depth : (embed base t).depth = t.depth + base.length := rfl

@[simp] theorem embed_err : (embed base t).err = t.err := rfl

/-- The outer machine where a value starts is the fresh machine, embedded. -/
theorem embed_start : embed base {} = { stack := base, depth := base.length } := by
  simp [embed, Phase.lift]

/-- **How an embedded step follows the step alone**: both refuse; or the step alone opens
one container more than the outer limit allows, and the outer machine refuses it; or the
outer step is the step alone, embedded. -/
def Follows (base : List Frame) (r r' : Scanner × Code) : Prop :=
  (r.2 = .error ∧ r'.2 = .error) ∨
  (r.2.stops = false ∧ maxDepth < r.1.depth + base.length ∧ r'.2 = .error ∧ r'.1.err.isSome) ∨
  (r.2.stops = false ∧ r.1.depth + base.length ≤ maxDepth ∧ r' = (embed base r.1, r.2))

/-! ## 2. One helper of `step` at a time -/

theorem follows_stay {k : Code} (hd0 : t.depth + base.length ≤ maxDepth) (hk : k.stops = false) :
    Follows base (t, k) (embed base t, k) :=
  .inr (.inr ⟨hk, hd0, rfl⟩)

theorem follows_setPhase {k : Code} {p : Phase} (hd0 : t.depth + base.length ≤ maxDepth)
    (hk : k.stops = false) (hp : p ≠ .endTop) :
    Follows base ({ t with phase := p }, k) ({ embed base t with phase := p }, k) := by
  refine .inr (.inr ⟨hk, hd0, ?_⟩)
  simp [embed, Phase.lift_of_ne hp]

theorem follows_fail {p : Place} : Follows base (t.fail c p) ((embed base t).fail c p) :=
  .inl ⟨rfl, rfl⟩

theorem follows_push {f : Frame} {next : Phase} {code : Code}
    (hd0 : t.depth + base.length ≤ maxDepth) (hn : next ≠ .endTop) (hk : code.stops = false) :
    Follows base (t.push c f next code) ((embed base t).push c f next code) := by
  unfold push
  dsimp only
  by_cases h1 : t.depth + 1 ≤ maxDepth
  · rw [if_pos h1]
    by_cases h2 : (embed base t).depth + 1 ≤ maxDepth
    · rw [if_pos h2]
      rw [embed_depth] at h2
      refine .inr (.inr ⟨hk, by simp; omega, ?_⟩)
      simp [embed, Phase.lift_of_ne hn]
      omega
    · rw [if_neg h2]
      rw [embed_depth] at h2
      exact .inr (.inl ⟨hk, by simp; omega, rfl, rfl⟩)
  · have h2 : ¬ (embed base t).depth + 1 ≤ maxDepth := by rw [embed_depth]; omega
    rw [if_neg h1, if_neg h2]
    exact .inl ⟨rfl, rfl⟩

theorem pop_embed (hb : base ≠ []) (hd : t.depth = t.stack.length) (hne : t.stack ≠ []) :
    (embed base t).pop = embed base t.pop := by
  obtain ⟨ph, st, d, e, r⟩ := t
  simp only at hd hne
  subst hd
  match st, base, hb with
  | [_], _ :: _, _ => simp [pop, embed, Phase.lift]
  | _ :: _ :: _, _ :: _, _ => simp [pop, embed, Phase.lift]; omega

theorem follows_atEndValue (hb : base ≠ []) (hd : t.depth = t.stack.length)
    (hd0 : t.depth + base.length ≤ maxDepth) {f : Frame} {rest : List Frame}
    (hs : t.stack = f :: rest) : Follows base (t.atEndValue c) ((embed base t).atEndValue c) := by
  have hs' : (embed base t).stack = f :: (rest ++ base) := by simp [hs]
  have hpop : (t.pop).depth ≤ t.depth := by
    unfold pop; split <;> simp
  rcases atEndValue_cases c f with ⟨_, hm⟩ | ⟨_, _, hm⟩ | ⟨_, _, hm⟩ | ⟨_, _, hm⟩ | ⟨_, _, hm⟩ |
    ⟨_, _, hm⟩ | ⟨p, hm⟩
  all_goals rw [hm t rest hs, hm (embed base t) (rest ++ base) hs']
  · exact follows_setPhase hd0 rfl (by simp)
  · exact .inr (.inr ⟨rfl, hd0, by simp [embed, Phase.lift]⟩)
  · exact .inr (.inr ⟨rfl, hd0, by simp [embed, Phase.lift]⟩)
  · exact .inr (.inr ⟨rfl, by dsimp only; omega, by rw [pop_embed hb hd (by simp [hs])]⟩)
  · exact follows_setPhase hd0 rfl (by simp)
  · exact .inr (.inr ⟨rfl, by dsimp only; omega, by rw [pop_embed hb hd (by simp [hs])]⟩)
  · exact follows_fail

/-- After a value, the step alone is done exactly when nothing is open around the value. -/
theorem follows_atEndValue_or_done (hb : base ≠ []) (hd : t.depth = t.stack.length)
    (hd0 : t.depth + base.length ≤ maxDepth) :
    (t.atEndValue c).2 = .done ∨ Follows base (t.atEndValue c) ((embed base t).atEndValue c) := by
  match hs : t.stack with
  | [] => exact .inl (atEndValue_nil t c hs)
  | f :: rest => exact .inr (follows_atEndValue hb hd hd0 hs)

theorem follows_atBeginValue (hd0 : t.depth + base.length ≤ maxDepth) :
    Follows base (t.atBeginValue c) ((embed base t).atBeginValue c) := by
  rcases atBeginValue_cases c with ⟨_, hm⟩ | ⟨_, hm⟩ | ⟨_, hm⟩ | ⟨p, hp, -, -, hm⟩ | hm
  all_goals rw [hm t, hm (embed base t)]
  · exact follows_stay hd0 rfl
  · exact follows_push hd0 (by simp) rfl
  · exact follows_push hd0 (by simp) rfl
  · exact follows_setPhase hd0 rfl (Phase.plain_ne_endTop hp)
  · exact follows_fail

theorem follows_atBeginString (hd0 : t.depth + base.length ≤ maxDepth) :
    Follows base (t.atBeginString c) ((embed base t).atBeginString c) := by
  rcases atBeginString_cases c with ⟨_, hm⟩ | ⟨_, hm⟩ | hm
  all_goals rw [hm t, hm (embed base t)]
  · exact follows_stay hd0 rfl
  · exact follows_setPhase hd0 rfl (by simp)
  · exact follows_fail

theorem follows_atExpSign (hd0 : t.depth + base.length ≤ maxDepth) :
    Follows base (t.atExpSign c) ((embed base t).atExpSign c) := by
  rcases atExpSign_cases c with ⟨_, hm⟩ | hm
  all_goals rw [hm t, hm (embed base t)]
  · exact follows_setPhase hd0 rfl (by simp)
  · exact follows_fail

/-! ## 3. One step -/

/-- **The embedded step follows the step alone**, except where the value alone is done: there
the outer machine reads the byte as after a value in its own innermost container. -/
theorem step_embed (hg : Good t) (hb : base ≠ []) (hd0 : t.depth + base.length ≤ maxDepth) :
    ((t.step c).2 = .done ∧ (embed base t).step c = (embed base t).atEndValue c) ∨
    Follows base (t.step c) ((embed base t).step c) := by
  have hd := hg.depth_eq
  have afterValue := follows_atEndValue_or_done (c := c) hb hd hd0
  unfold step
  cases hp : t.phase
  all_goals simp only [embed_phase, hp, Phase.lift]
  case beginValue => exact .inr (follows_atBeginValue hd0)
  case beginValueOrEmpty =>
    refine .inr ?_
    obtain ⟨rest, hs⟩ := hg.array_open hp
    by_cases h0 : isBlank c = true
    · rw [if_pos h0, if_pos h0]; exact follows_stay hd0 rfl
    rw [if_neg h0, if_neg h0]
    by_cases h1 : (c == 0x5D) = true
    · rw [if_pos h1, if_pos h1]; exact follows_atEndValue hb hd hd0 hs
    · rw [if_neg h1, if_neg h1]; exact follows_atBeginValue hd0
  case beginStringOrEmpty =>
    refine .inr ?_
    obtain ⟨rest, hs⟩ := hg.object_open hp
    by_cases h0 : isBlank c = true
    · rw [if_pos h0, if_pos h0]; exact follows_stay hd0 rfl
    rw [if_neg h0, if_neg h0]
    by_cases h1 : (c == 0x7D) = true
    · rw [if_pos h1, if_pos h1]
      simp only [embed_stack, hs, List.cons_append]
      -- the empty object closes as an object whose last member has been read
      have h := follows_atEndValue (c := c) (t := { t with stack := .objectValue :: rest }) hb
        (by simp [hd, hs]) hd0 rfl
      rw [hp] at h
      exact h
    · rw [if_neg h1, if_neg h1]; exact follows_atBeginString hd0
  case beginString => exact .inr (follows_atBeginString hd0)
  case endValue => exact afterValue.imp (fun h => ⟨h, trivial⟩) id
  case endTop => exact .inl ⟨atEndTop_snd t c, trivial⟩
  case inString =>
    refine .inr ?_
    by_cases h0 : (c == 0x22) = true
    · rw [if_pos h0, if_pos h0]; exact follows_setPhase hd0 rfl (by simp)
    rw [if_neg h0, if_neg h0]
    by_cases h1 : (c == 0x5C) = true
    · rw [if_pos h1, if_pos h1]; exact follows_setPhase hd0 rfl (by simp)
    rw [if_neg h1, if_neg h1]
    by_cases h2 : c < 0x20
    · rw [if_pos h2, if_pos h2]; exact follows_fail
    · rw [if_neg h2, if_neg h2]; exact follows_stay hd0 rfl
  case inStringEsc =>
    refine .inr ?_
    split_ifs
    · exact follows_setPhase hd0 rfl (by simp)
    · exact follows_setPhase hd0 rfl (by simp)
    · exact follows_fail
  case inStringEscU k =>
    refine .inr ?_
    split_ifs
    · exact follows_setPhase hd0 rfl (by simp)
    · exact follows_setPhase hd0 rfl (by simp)
    · exact follows_fail
  case neg =>
    refine .inr ?_
    split_ifs
    · exact follows_setPhase hd0 rfl (by simp)
    · exact follows_setPhase hd0 rfl (by simp)
    · exact follows_fail
  case one =>
    by_cases h0 : isDigit c = true
    · rw [if_pos h0, if_pos h0]; exact .inr (follows_stay hd0 rfl)
    rw [if_neg h0, if_neg h0]
    rcases atZero_cases c with ⟨_, hm⟩ | ⟨_, hm⟩ | ⟨_, _, _, hm⟩
    all_goals rw [hm t, hm (embed base t)]
    · exact .inr (follows_setPhase hd0 rfl (by simp))
    · exact .inr (follows_setPhase hd0 rfl (by simp))
    · exact afterValue.imp (fun h => ⟨h, rfl⟩) id
  case zero =>
    rcases atZero_cases c with ⟨_, hm⟩ | ⟨_, hm⟩ | ⟨_, _, _, hm⟩
    all_goals rw [hm t, hm (embed base t)]
    · exact .inr (follows_setPhase hd0 rfl (by simp))
    · exact .inr (follows_setPhase hd0 rfl (by simp))
    · exact afterValue.imp (fun h => ⟨h, rfl⟩) id
  case dot =>
    refine .inr ?_
    split_ifs
    · exact follows_setPhase hd0 rfl (by simp)
    · exact follows_fail
  case dot0 =>
    by_cases h0 : isDigit c = true
    · rw [if_pos h0, if_pos h0]; exact .inr (follows_stay hd0 rfl)
    rw [if_neg h0, if_neg h0]
    by_cases h1 : (c == 0x65 || c == 0x45) = true
    · rw [if_pos h1, if_pos h1]; exact .inr (follows_setPhase hd0 rfl (by simp))
    rw [if_neg h1, if_neg h1]
    exact afterValue.imp (fun h => ⟨h, rfl⟩) id
  case exp =>
    refine .inr ?_
    by_cases h0 : (c == 0x2B || c == 0x2D) = true
    · rw [if_pos h0, if_pos h0]; exact follows_setPhase hd0 rfl (by simp)
    · rw [if_neg h0, if_neg h0]; exact follows_atExpSign hd0
  case expSign => exact .inr (follows_atExpSign hd0)
  case exp0 =>
    by_cases h0 : isDigit c = true
    · rw [if_pos h0, if_pos h0]; exact .inr (follows_stay hd0 rfl)
    rw [if_neg h0, if_neg h0]
    exact afterValue.imp (fun h => ⟨h, rfl⟩) id
  case word name rest =>
    have hw := hg.plain_word hp
    cases rest with
    | nil => simp [Phase.plain] at hw
    | cons e more =>
      refine .inr ?_
      simp only
      split_ifs
      · exact follows_setPhase hd0 rfl (by simp)
      · exact follows_setPhase hd0 rfl (by simp)
      · exact follows_fail
  case failed => exact .inr (.inl ⟨rfl, rfl⟩)

/-! ## 4. Runs -/

/-- **Within the depth limit, a byte the value alone reads on is read alike under open
containers**, and the rest of the value stays within the limit. The step of every run lemma
below. -/
theorem step_embed_within (hb : base ≠ []) {v : Bytes} (hg : Good t)
    (h1 : (t.step c).2.stops = false) (hd : t.peak (c :: v) + base.length ≤ maxDepth) :
    (embed base t).step c = (embed base (t.step c).1, (t.step c).2) ∧
      (t.step c).1.peak v + base.length ≤ maxDepth := by
  have hpeak : t.peak (c :: v) = max t.depth ((t.step c).1.peak v) := rfl
  rcases step_embed (c := c) hg hb (by omega) with ⟨hdone, -⟩ | ⟨herr, -⟩ | ⟨-, hdeep, -⟩ |
    ⟨-, -, hstep⟩
  · rw [hdone] at h1; cases h1
  · rw [herr] at h1; cases h1
  · -- the step alone opens no container beyond the value's own peak
    have := depth_le_peak (t.step c).1 v; omega
  · exact ⟨hstep, by omega⟩

/-- **A value within the depth limit runs under open containers as alone.** -/
theorem feed_embed (hb : base ≠ []) {v : Bytes} (hg : Good t) (h : Inside t v)
    (hd : t.peak v + base.length ≤ maxDepth) :
    Inside (embed base t) v ∧ (embed base t).feed v = embed base (t.feed v) := by
  induction v generalizing t with
  | nil => exact ⟨trivial, rfl⟩
  | cons c v ih =>
    obtain ⟨h1, h2⟩ := h
    obtain ⟨hstep, hd'⟩ := step_embed_within hb hg h1 hd
    obtain ⟨ih1, ih2⟩ := ih (step_good hg h1) h2 hd'
    simp only [inside_cons, feed_cons, hstep]
    exact ⟨⟨h1, ih1⟩, ih2⟩

/-- **A value within the depth limit nests as deep under open containers as alone**, plus the
containers around it. -/
theorem peak_embed (hb : base ≠ []) {v : Bytes} (hg : Good t) (h : Inside t v)
    (hd : t.peak v + base.length ≤ maxDepth) : (embed base t).peak v = t.peak v + base.length := by
  induction v generalizing t with
  | nil => rfl
  | cons c v ih =>
    obtain ⟨h1, h2⟩ := h
    obtain ⟨hstep, hd'⟩ := step_embed_within hb hg h1 hd
    simp only [peak, hstep, ih (step_good hg h1) h2 hd', embed_depth]
    omega

/-- **A value nested too deep for its place is refused there**, whatever follows it. -/
theorem run_embed_deep (hb : base ≠ []) {v : Bytes} (hg : Good t) (h : Inside t v)
    (hd0 : t.depth + base.length ≤ maxDepth) (hover : maxDepth < t.peak v + base.length)
    (rest : Bytes) : (Scanner.run (embed base t) (v ++ rest)).err.isSome := by
  induction v generalizing t with
  | nil => simp only [peak] at hover; omega
  | cons c v ih =>
    obtain ⟨h1, h2⟩ := h
    have hpeak : t.peak (c :: v) = max t.depth ((t.step c).1.peak v) := rfl
    rcases step_embed (c := c) hg hb hd0 with ⟨hdone, -⟩ | ⟨herr, -⟩ |
      ⟨-, -, herr', hsome⟩ | ⟨-, hd1, hstep⟩
    · rw [hdone] at h1; cases h1
    · rw [herr] at h1; cases h1
    · -- the bracket one container too deep is refused, and the run stops there
      rcases hst : (embed base t).step c with ⟨s', code⟩
      rw [hst] at herr' hsome
      subst herr'
      simp only [List.cons_append, Scanner.run, hst]
      exact hsome
    · have hrun : Scanner.run (embed base t) ((c :: v) ++ rest) =
          Scanner.run (embed base (t.step c).1) (v ++ rest) := by
        rcases hc : (t.step c).2
        all_goals rw [hc] at h1 hstep
        case error => cases h1
        all_goals simp only [List.cons_append, Scanner.run, hstep]
      rw [hrun]
      exact ih (step_good hg h1) h2 hd1 (by omega)

end Scanner

end Inventory.Json
