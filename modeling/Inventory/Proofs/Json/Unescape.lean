import Inventory.Proofs.Json.Literals
import Inventory.Proofs.Json.Repair
/-!
# Reading a repaired string

`unescape` reads the inside of a string literal: an escape by its letters, every other byte as
UTF-8, where a byte that starts no well-formed sequence gives `U+FFFD` (`Utf8.scalar?`).
`Utf8.repair` writes each such byte as the three bytes of `U+FFFD` and keeps all else. So repair
changes nothing that `unescape` reads, as long as the bytes it changes are read as UTF-8 and not
as part of an escape.

In a string body of the grammar (`StringBody`) they are. Escapes are ASCII, and repair keeps
every ASCII byte in place (`Utf8.repair_append_ascii`). Between escapes, a run of bytes from
`0x80` up reads as its characters, repaired or not (`unescape_high`). The one look-ahead of
`unescape`, for a second `\u` escape after a first, sees the same bytes after repair
(`noUEscape_or_uEscape`). Hence `unescape_repair_append`; and a string literal, or any ASCII
literal, has the same value repaired (`literal_repair`).
-/

set_option autoImplicit false

namespace Inventory

namespace Utf8

/-- A repair starts with the byte it starts from, or with the lead byte of `U+FFFD`. -/
theorem repair_cons_head (b : UInt8) (rest : Bytes) :
    ∃ t, repair (b :: rest) = b :: t ∨ repair (b :: rest) = 0xEF :: t := by
  rw [repair_cons]
  unfold headChar
  split
  · rename_i ch k hs
    -- a well-formed sequence is written back as it stands
    have he := encodeChar_of_scalar hs
    obtain ⟨c, cs, hc⟩ := exists_cons_encodeChar ch
    rw [hc, List.cons_append, List.cons.injEq] at he
    rw [hc, he.1]
    exact ⟨_, .inl rfl⟩
  · rw [encodeChar_replacement]
    exact ⟨_, .inr rfl⟩

/-- Repair splits after an ASCII byte, or at the start. -/
theorem repair_append_of_last {x : Bytes} (hx : ∀ a ∈ x.getLast?, a < 0x80) (y : Bytes) :
    repair (x ++ y) = repair x ++ repair y := by
  rcases List.eq_nil_or_concat' x with rfl | ⟨x', a, rfl⟩
  · simp
  · have ha : a < 0x80 := hx a (by simp)
    rw [List.append_assoc, List.singleton_append, repair_append_ascii ha, repair_append_ascii ha,
      repair_nil, List.append_assoc, List.singleton_append]

end Utf8

namespace Json

theorem lt_of_isHex {x : UInt8} (h : isHex x = true) : x < 0x80 := by
  by_contra hx
  rw [isHex_of_high (by simpa using hx)] at h
  cases h

theorem lt_of_mem_escapeLetters {x : UInt8} (h : x ∈ escapeLetters) : x < 0x80 ∧ x ≠ 0x75 := by
  simp only [escapeLetters, List.mem_cons, List.not_mem_nil, or_false] at h
  rcases h with rfl | rfl | rfl | rfl | rfl | rfl | rfl | rfl <;> decide

/-! ## 1. Bytes read as UTF-8 -/

/-- A byte that is no backslash is read as UTF-8. -/
theorem unescape_cons_plain {b : UInt8} (hb : b ≠ 0x5C) (rest : Bytes) :
    unescape (b :: rest) =
      Utf8.headChar (b :: rest) :: unescape ((b :: rest).drop (Utf8.headWidth (b :: rest))) := by
  rw [unescape.eq_5 _ _ (fun _ _ _ _ _ _ _ _ _ h _ => hb h) (fun _ _ _ _ _ h _ => hb h)
    (fun _ _ h _ => hb h)]
  rcases hs : Utf8.scalar? (b :: rest) with _ | ⟨ch, k⟩
  · simp [Utf8.headChar, Utf8.headWidth, hs]
  · simp [Utf8.headChar, Utf8.headWidth, hs]

/-- **Bytes with no backslash read as UTF-8**, up to an ASCII byte or the end. -/
theorem unescape_append_plain {rest : Bytes} (hr : ∀ a ∈ rest.head?, a < 0x80) :
    ∀ h : Bytes, (∀ b ∈ h, b ≠ 0x5C) → unescape (h ++ rest) = Utf8.chars h ++ unescape rest := by
  intro h
  induction hn : h.length using Nat.strongRecOn generalizing h with
  | _ n ih =>
    intro hh
    cases h with
    | nil => simp
    | cons b h =>
      -- the head sequence ends before `rest`, which starts ASCII
      have hs : Utf8.scalar? (b :: (h ++ rest)) = Utf8.scalar? (b :: h) := by
        cases rest with
        | nil => rw [List.append_nil]
        | cons a rest => exact Utf8.scalar?_append_ascii (x := b :: h) (by simp) (hr a rfl)
      have hw : Utf8.headWidth (b :: (h ++ rest)) = Utf8.headWidth (b :: h) := by
        simp only [Utf8.headWidth, hs]
      have hc : Utf8.headChar (b :: (h ++ rest)) = Utf8.headChar (b :: h) := by
        simp only [Utf8.headChar, hs]
      have hle : Utf8.headWidth (b :: h) ≤ (b :: h).length := Utf8.headWidth_le
      have hpos := Utf8.headWidth_pos (b :: h)
      rw [List.cons_append, unescape_cons_plain (hh b (by simp)), hw, hc, ← List.cons_append,
        List.drop_append_of_le_length hle, Utf8.chars_cons,
        ih _ (by simp only [List.length_drop, ← hn]; omega) _ rfl
          (fun d hd => hh d (List.mem_of_mem_drop hd))]
      rfl

/-- A run of bytes from `0x80` up reads as UTF-8, repaired or not. -/
theorem unescape_high {h rest : Bytes} (hh : ∀ b ∈ h, 0x80 ≤ b) (hr : ∀ a ∈ rest.head?, a < 0x80) :
    unescape (h ++ rest) = Utf8.chars h ++ unescape rest ∧
      unescape (Utf8.repair h ++ rest) = Utf8.chars h ++ unescape rest := by
  have plain : ∀ {x : Bytes}, (∀ b ∈ x, 0x80 ≤ b) → ∀ b ∈ x, b ≠ 0x5C := fun hx b hb => by
    have := hx b hb
    rintro rfl
    exact absurd this (by decide)
  refine ⟨unescape_append_plain hr h (plain hh), ?_⟩
  rw [unescape_append_plain hr _ (plain (Utf8.repair_high hh)), Utf8.repair, Utf8.chars_encode]

/-! ## 2. Escapes -/

/-- Where the next bytes are no `\u` escape. -/
def NoUEscape (y : Bytes) : Prop :=
  ∀ (e f g h : UInt8) (more : Bytes), y = 0x5C :: 0x75 :: e :: f :: g :: h :: more → False

/-- A string body starts with no `\u` escape, before and after repair, or with one. -/
theorem noUEscape_or_uEscape {cs : Bytes} (hcs : StringBody cs) :
    (NoUEscape cs ∧ NoUEscape (Utf8.repair cs)) ∨
      ∃ e f g h more, cs = 0x5C :: 0x75 :: e :: f :: g :: h :: more ∧ isHex e = true ∧
        isHex f = true ∧ isHex g = true ∧ isHex h = true ∧ StringBody more := by
  cases hcs with
  | nil => exact .inl ⟨by simp [NoUEscape], by simp [NoUEscape]⟩
  | @plain c cs h0 h1 h2 _ =>
    -- the repair starts with the byte or with `0xEF`, neither a backslash
    obtain ⟨t, ht | ht⟩ := Utf8.repair_cons_head c cs
    all_goals refine .inl ⟨fun _ _ _ _ _ he => h2 (List.cons.inj he).1, ?_⟩
    all_goals intro _ _ _ _ _ he
    · rw [ht] at he
      exact h2 (List.cons.inj he).1
    · rw [ht] at he
      exact absurd (List.cons.inj he).1 (by decide)
  | @escape x cs hx _ =>
    have hx' := lt_of_mem_escapeLetters hx
    refine .inl ⟨fun _ _ _ _ _ he => hx'.2 (List.cons.inj (List.cons.inj he).2).1, ?_⟩
    intro _ _ _ _ _ he
    rw [Utf8.repair_ascii_cons (by decide), Utf8.repair_ascii_cons hx'.1] at he
    exact hx'.2 (List.cons.inj (List.cons.inj he).2).1
  | unicode ha hb hc hd hcs => exact .inr ⟨_, _, _, _, _, rfl, ha, hb, hc, hd, hcs⟩

/-- Repair keeps a `\u` escape and what follows it. -/
theorem repair_uEscape {a b c d : UInt8} (ha : isHex a = true) (hb : isHex b = true)
    (hc : isHex c = true) (hd : isHex d = true) (rest : Bytes) :
    Utf8.repair (0x5C :: 0x75 :: a :: b :: c :: d :: rest) =
      0x5C :: 0x75 :: a :: b :: c :: d :: Utf8.repair rest := by
  rw [Utf8.repair_ascii_cons (by decide), Utf8.repair_ascii_cons (by decide),
    Utf8.repair_ascii_cons (lt_of_isHex ha), Utf8.repair_ascii_cons (lt_of_isHex hb),
    Utf8.repair_ascii_cons (lt_of_isHex hc), Utf8.repair_ascii_cons (lt_of_isHex hd)]

/-! ## 3. String bodies -/

/-- **Repair does not change how a string body reads**, after any run of bytes from `0x80` up.
The run is carried along until an ASCII byte closes it. -/
theorem unescape_repair_append {body : Bytes} (hbody : StringBody body) :
    ∀ h : Bytes, (∀ b ∈ h, 0x80 ≤ b) →
      unescape (Utf8.repair (h ++ body)) = unescape (h ++ body) := by
  induction hn : body.length using Nat.strongRecOn generalizing body with
  | _ n ih =>
    intro h hh
    -- a part of the body that starts after an ASCII byte
    have self : ∀ {cs : Bytes}, cs.length < n → StringBody cs →
        unescape (Utf8.repair cs) = unescape cs := fun hl hcs =>
      ih _ hl hcs rfl [] (by simp)
    cases hbody with
    | nil =>
      have hrun := unescape_high hh (show ∀ a ∈ ([] : Bytes).head?, a < 0x80 by simp)
      simp only [List.append_nil] at hrun ⊢
      rw [hrun.1, hrun.2]
    | @plain c cs h0 h1 h2 hcs =>
      have hl : cs.length < n := by rw [← hn]; simp only [List.length_cons]; omega
      by_cases hc : c < 0x80
      · -- an ASCII byte closes the run and is kept
        have hone : ∀ y : Bytes, unescape (c :: y) = Char.ofNat c.toNat :: unescape y := by
          intro y
          rw [unescape_cons_plain h2]
          simp [Utf8.headChar, Utf8.headWidth, Utf8.scalar?_ascii hc]
        rw [Utf8.repair_append_ascii hc, (unescape_high hh (by simpa using hc)).1,
          (unescape_high hh (by simpa using hc)).2, hone, hone, self hl hcs]
      · -- a byte from `0x80` up joins the run
        have hh' : ∀ b ∈ h ++ [c], 0x80 ≤ b := by
          intro b hb
          rcases List.mem_append.mp hb with hb | hb
          · exact hh b hb
          · obtain rfl : b = c := by simpa using hb
            simpa using hc
        simpa using ih _ hl hcs rfl (h ++ [c]) hh'
    | @escape x cs hx hcs =>
      have hl : cs.length < n := by rw [← hn]; simp only [List.length_cons]; omega
      have hx' := lt_of_mem_escapeLetters hx
      have hesc : ∀ y : Bytes, unescape (0x5C :: x :: y) = escapeValue x :: unescape y :=
        fun y => unescape.eq_4 x y (fun _ _ _ _ _ _ _ _ _ h _ => hx'.2 h)
          (fun _ _ _ _ _ h _ => hx'.2 h)
      rw [Utf8.repair_append_ascii (by decide), Utf8.repair_ascii_cons hx'.1,
        (unescape_high hh (by simp)).1, (unescape_high hh (by simp)).2, hesc, hesc, self hl hcs]
    | @unicode a b c d cs ha hb hc hd hcs =>
      have hl : cs.length < n := by rw [← hn]; simp only [List.length_cons]; omega
      rw [Utf8.repair_append_ascii (by decide), ← Utf8.repair_ascii_cons (by decide),
        repair_uEscape ha hb hc hd, (unescape_high hh (by simp)).1,
        (unescape_high hh (by simp)).2]
      congr 1
      -- the escape reads alike unless a second `\u` escape follows, as one pair or not
      rcases noUEscape_or_uEscape hcs with ⟨hno, hno'⟩ |
        ⟨e, f, g, k, more, rfl, he, hf, hg, hk, hmore⟩
      · rw [unescape.eq_3 _ _ _ _ _ hno', unescape.eq_3 _ _ _ _ _ hno, self hl hcs]
      · have hl' : more.length < n := by rw [← hn]; simp only [List.length_cons]; omega
        have hcs' := self hl hcs
        rw [repair_uEscape he hf hg hk] at hcs'
        rw [repair_uEscape he hf hg hk, unescape.eq_2, unescape.eq_2, self hl' hmore, hcs']

/-- **A literal reads alike repaired** when it is ASCII or a string literal. -/
theorem literal_repair {lit : Bytes} (h : (∀ x ∈ lit, x < 0x80) ∨ StringText lit) :
    literalValue (Utf8.repair lit) = literalValue lit ∧
      decodeStringLiteral (Utf8.repair lit) = decodeStringLiteral lit := by
  rcases h with h | ⟨body, rfl, hbody⟩
  · rw [Utf8.repair_of_isValid (Utf8.isValid_ascii h)]
    exact ⟨rfl, rfl⟩
  · have hr : Utf8.repair (0x22 :: (body ++ [0x22])) = 0x22 :: (Utf8.repair body ++ [0x22]) := by
      rw [Utf8.repair_ascii_cons (by decide), Utf8.repair_append_ascii (by decide), Utf8.repair_nil]
    have hd : decodeStringLiteral (Utf8.repair (0x22 :: (body ++ [0x22]))) =
        decodeStringLiteral (0x22 :: (body ++ [0x22])) := by
      have hu := unescape_repair_append hbody [] (by simp)
      rw [List.nil_append] at hu
      rw [hr, ← List.cons_append, ← List.cons_append, decodeStringLiteral_quoted,
        decodeStringLiteral_quoted, hu]
    have hv : ∀ x : Bytes, literalValue (0x22 :: x) = .string (decodeStringLiteral (0x22 :: x)) :=
      fun _ => rfl
    refine ⟨?_, hd⟩
    rw [hr, hv, hv, ← hr, hd]

end Json

end Inventory
