import Inventory.Proofs.Document.Split
import Inventory.Proofs.Document.Store
import Inventory.Proofs.Json.Repair
/-!
# What the document reader accepts

The converse of `parse_objectText`: a text the reader accepts is an object text between blanks,
each member a string key and one whole value, and the document read is its members filed in
order (`exists_objectText_of_parse`). Each value is filed repaired, so what the reader returns
is well formed (`wf_of_parse`).

The proof follows the member loop. One turn of it (`readMembers_eq_ok`) either meets the closing
brace or reads a key, a colon and a value, which together are one member
(`exists_member_of_turn`); the loop after the first member reads the members behind commas
(`readMembers_next_sound`).
-/

set_option autoImplicit false

namespace Inventory

open Json

/-! ## 1. One turn of the member loop -/

/-- **What one turn of the member loop can do**: meet the closing brace, or read a key where the
loop stands, its extent, the colon and the extent of the value, and go on after the value. -/
theorem readMembers_eq_ok {doc : Document} {pos : MemberPos} {rest : Bytes}
    {r : Document × Bytes} (h : readMembers doc pos rest = .ok r) :
    (∃ tail, skipBlanks rest = 0x7D :: tail ∧ r = (doc, tail)) ∨
    ∃ c tail ks k rest3 n, skipBlanks rest = c :: tail ∧ keyStart pos c tail = .ok ks ∧
      valueLength ks = .ok k ∧ skipBlanks (ks.drop k) = 0x3A :: rest3 ∧
      valueLength rest3 = .ok n ∧
      readMembers (doc.setRaw (decodeStringLiteral (ks.take k))
        (Utf8.repair (skipBlanks (rest3.take n)))) .next (rest3.drop n) = .ok r := by
  rw [readMembers.eq_1] at h
  split at h
  · cases h
  · rename_i c tail hs
    by_cases h1 : c = 0x7D
    · subst h1
      simp only [beq_self_eq_true, ↓reduceIte, Except.ok.injEq] at h
      exact .inl ⟨tail, hs, h.symm⟩
    have h2 : c ≠ 0x5D := by
      rintro rfl
      simp at h
    simp only [beq_iff_eq, h1, h2, ↓reduceIte] at h
    split at h
    · cases h
    · rename_i ks hk
      split at h
      · cases h
      · rename_i k hkl
        split at h
        · cases h
        · rename_i d rest3 hc
          by_cases hd : d = 0x3A
          · subst hd
            simp only [bne_self_eq_false, Bool.false_eq_true, ↓reduceIte] at h
            split at h
            · cases h
            · rename_i n hn
              exact .inr ⟨c, tail, ks, k, rest3, n, hs, hk, hkl, hc, hn, h⟩
          · simp [hd] at h

/-- Where a key may start: right after `{` the quote itself, after a member the quote after a
comma and blanks. -/
theorem keyStart_eq_ok {pos : MemberPos} {c : UInt8} {tail ks : Bytes}
    (h : keyStart pos c tail = .ok ks) :
    (pos = .first ∧ c = 0x22 ∧ ks = c :: tail) ∨
    (pos = .next ∧ c = 0x2C ∧ skipBlanks tail = ks ∧ ks.head? = some 0x22) := by
  cases pos with
  | first =>
    simp only [keyStart] at h
    split at h
    · rename_i hc
      cases h
      exact .inl ⟨rfl, by simpa using hc, rfl⟩
    · cases h
  | next =>
    simp only [keyStart] at h
    split at h
    · rename_i hc
      split at h
      · cases h
      · rename_i d more hs
        split at h
        · rename_i hd
          cases h
          exact .inr ⟨rfl, by simpa using hc, hs, by simpa using hd⟩
        · cases h
    · cases h

/-- **One member read**: from where the loop stands, blanks, the key, blanks, the colon, blanks
and the value make one member without its trailing blanks, filed as the loop files it. -/
theorem exists_member_of_turn {y rest3 : Bytes} {k n : Nat}
    (hq : (skipBlanks y).head? = some 0x22) (hk : valueLength (skipBlanks y) = .ok k)
    (hc : skipBlanks ((skipBlanks y).drop k) = 0x3A :: rest3) (hn : valueLength rest3 = .ok n) :
    ∃ m : Member, m.Valid ∧ m.trail = [] ∧ y = m.text ++ rest3.drop n ∧
      ∀ doc : Document, doc.setRaw (decodeStringLiteral ((skipBlanks y).take k))
        (Utf8.repair (skipBlanks (rest3.take n))) = m.store doc := by
  obtain ⟨pre, hpre, hpreb⟩ := exists_blanks_split y
  obtain ⟨ws0, key, hkey, hws0, hkv⟩ := valueLength_sound hk
  -- the key starts at the quote, so no blanks stand before it
  have hws0' : ws0 = [] := by
    cases ws0 with
    | nil => rfl
    | cons b ws0 =>
      have hpos : 0 < k := by
        rcases Nat.eq_zero_or_pos k with rfl | hpos
        · simp at hkey
        · exact hpos
      have hhead : ((skipBlanks y).take k).head? = some 0x22 := by
        rw [List.head?_take, if_neg (by omega), hq]
      rw [hkey, List.cons_append, List.head?_cons, Option.some.injEq] at hhead
      have := hws0 b (by simp)
      rw [hhead] at this
      cases this
  subst hws0'
  have hks : skipBlanks y = key ++ (skipBlanks y).drop k := by
    rw [← List.nil_append key, ← hkey, List.take_append_drop]
  have hkq : key.head? = some 0x22 := by
    rcases key with _ | ⟨b, key⟩
    · exact absurd rfl hkv.ne_nil
    · rw [hks] at hq; simpa using hq
  obtain ⟨mid, hmid, hmidb⟩ := exists_blanks_split ((skipBlanks y).drop k)
  obtain ⟨post, value, hval, hpostb, hvv⟩ := valueLength_sound hn
  have h3 : rest3 = post ++ value ++ rest3.drop n := by
    rw [← hval, List.take_append_drop]
  refine ⟨⟨pre, key, mid, post, value, []⟩, ⟨hpreb, ⟨hkv, hkq⟩, hmidb, hpostb, hvv, by simp⟩,
    rfl, ?_, ?_⟩
  · rw [hc] at hmid
    conv_lhs => rw [hpre, hks, hmid, h3]
    simp [Member.text]
  · intro doc
    rw [List.nil_append] at hkey
    rw [hkey, hval, ← List.append_nil (post ++ value), skipBlanks_value hpostb hvv,
      List.append_nil]
    rfl

/-! ## 2. The whole loop -/

/-- Only blanks before a closing brace: no member, and the brace. -/
theorem blanks_close {rest tail : Bytes} (hs : skipBlanks rest = 0x7D :: tail) :
    ∃ ws, (∀ c ∈ ws, isBlank c = true) ∧ rest = ws ++ 0x7D :: tail := by
  obtain ⟨ws, hws, hb⟩ := exists_blanks_split rest
  exact ⟨ws, hb, by rw [hws, hs]⟩

/-- **The member loop after a member** reads the members behind commas up to the closing brace,
and files each in turn. -/
theorem readMembers_next_sound (bound : Nat) :
    ∀ {doc : Document} {rest : Bytes} {r : Document × Bytes}, rest.length ≤ bound →
      readMembers doc .next rest = .ok r →
      ∃ ws ms, (∀ c ∈ ws, isBlank c = true) ∧ (∀ m ∈ ms, m.Valid) ∧
        rest = ws ++ membersTail ms ++ r.2 ∧ r.1 = ms.foldl Member.store doc := by
  induction bound with
  | zero =>
    intro doc rest r hlen h
    rw [List.length_eq_zero_iff.mp (Nat.le_zero.mp hlen)] at h
    rcases readMembers_eq_ok h with ⟨tail, hs, -⟩ | ⟨c, tail, ks, k, rest3, n, hs, -⟩ <;>
      simp [skipBlanks] at hs
  | succ bound ih =>
    intro doc rest r hlen h
    rcases readMembers_eq_ok h with ⟨tail, hs, rfl⟩ |
      ⟨c, tail, ks, k, rest3, n, hs, hk, hkl, hc, hn, hnext⟩
    · obtain ⟨ws, hws, rfl⟩ := blanks_close hs
      exact ⟨ws, [], hws, by simp, by simp [membersTail], rfl⟩
    · rcases keyStart_eq_ok hk with ⟨h, -⟩ | ⟨-, rfl, hks, hq⟩
      · cases h
      subst hks
      obtain ⟨ws, hws, hwsb⟩ := exists_blanks_split rest
      obtain ⟨m, hm, htr, hy, hstore⟩ := exists_member_of_turn hq hkl hc hn
      rw [hstore] at hnext
      -- the rest after the value is shorter: at least the comma and the key's quote were read
      have hshort : (rest3.drop n).length ≤ bound := by
        have : rest.length = ws.length + 1 + m.text.length + (rest3.drop n).length := by
          rw [hws, hs, hy]; simp; omega
        have : 0 < m.text.length := by
          obtain ⟨r, hr⟩ := hm.key.exists_quote
          simp only [Member.text, hr, List.length_append, List.length_cons]
          omega
        omega
      obtain ⟨ws', ms, hws', hms, hrest, hdoc⟩ := ih hshort hnext
      refine ⟨ws, { m with trail := ws' } :: ms, hwsb, ?_, ?_, hdoc⟩
      · intro m' hm'
        rcases List.mem_cons.mp hm' with rfl | hm'
        · exact ⟨hm.pre, hm.key, hm.mid, hm.post, hm.value, hws'⟩
        · exact hms m' hm'
      · rw [hws, hs, hy, hrest]
        simp [membersTail, Member.text, htr]

/-- **What the member loop reads from just after `{`**: an object text's body. -/
theorem readMembers_first_sound {doc : Document} {rest : Bytes} {r : Document × Bytes}
    (h : readMembers doc .first rest = .ok r) :
    ∃ ms inner, (∀ c ∈ inner, isBlank c = true) ∧ (∀ m ∈ ms, m.Valid) ∧
      0x7B :: rest = objectText ms inner ++ r.2 ∧ r.1 = ms.foldl Member.store doc := by
  rcases readMembers_eq_ok h with ⟨tail, hs, rfl⟩ |
    ⟨c, tail, ks, k, rest3, n, hs, hk, hkl, hc, hn, hnext⟩
  · obtain ⟨ws, hws, rfl⟩ := blanks_close hs
    exact ⟨[], ws, hws, by simp, by simp [objectText], rfl⟩
  · rcases keyStart_eq_ok hk with ⟨-, rfl, rfl⟩ | ⟨h, -⟩
    · obtain ⟨m, hm, htr, hy, hstore⟩ := exists_member_of_turn (y := rest) (by simp [hs]) (by rwa [hs])
        (by rwa [hs]) hn
      rw [hs] at hstore
      rw [hstore] at hnext
      obtain ⟨ws', ms, hws', hms, hrest, hdoc⟩ :=
        readMembers_next_sound _ (Nat.le_refl _) hnext
      refine ⟨{ m with trail := ws' } :: ms, [], by simp, ?_, ?_, hdoc⟩
      · intro m' hm'
        rcases List.mem_cons.mp hm' with rfl | hm'
        · exact ⟨hm.pre, hm.key, hm.mid, hm.post, hm.value, hws'⟩
        · exact hms m' hm'
      · rw [hy, hrest]
        simp [objectText, Member.text, htr]
    · cases h

/-! ## 3. The whole text -/

/-- What follows the object is only blanks. -/
theorem blanks_of_trailing {bs : Bytes} (h : trailing bs = .ok ()) : ∀ c ∈ bs, isBlank c = true := by
  obtain ⟨ws, hws, hb⟩ := exists_blanks_split bs
  unfold trailing at h
  split at h
  · rename_i hs
    rw [hws, hs, List.append_nil]
    exact hb
  · split at h
    · cases h
    · split at h
      · cases h
      · split at h <;> cases h

/-- **An accepted text is an object text between blanks**, and the document read is its members
filed in order. -/
theorem exists_objectText_of_parse {raw : Bytes} {D : Document} (h : Document.parse raw = .ok D) :
    ∃ ws ms inner ws', raw = ws ++ objectText ms inner ++ ws' ∧ (∀ c ∈ ws, isBlank c = true) ∧
      (∀ c ∈ inner, isBlank c = true) ∧ (∀ c ∈ ws', isBlank c = true) ∧
      (∀ m ∈ ms, m.Valid) ∧ D = ms.foldl Member.store {} := by
  unfold Document.parse at h
  split at h
  · cases h
  · rename_i c more hs
    by_cases hc : c = 0x7B
    · subst hc
      simp only [beq_self_eq_true, ↓reduceIte] at h
      split at h
      · cases h
      · rename_i doc after hr
        split at h
        · cases h
        · rename_i htr
          cases h
          obtain ⟨ms, inner, hin, hms, hobj, hdoc⟩ := readMembers_first_sound hr
          obtain ⟨ws, hws, hwsb⟩ := exists_blanks_split raw
          refine ⟨ws, ms, inner, after, ?_, hwsb, hin, blanks_of_trailing htr, hms, hdoc⟩
          rw [hws, hs, hobj, List.append_assoc]
    · simp only [beq_iff_eq, hc, ↓reduceIte] at h
      split at h
      · cases h
      · split at h
        · cases h
        · split at h <;> cases h

/-! ## 4. What the reader files -/

/-- A member's value, repaired, is a stored value. -/
theorem Member.storedValue_repair {m : Member} (hm : m.Valid) : StoredValue (Utf8.repair m.value) :=
  ⟨isValue_repair hm.value, Utf8.isValid_repair _⟩

theorem wf_foldl_store {ms : List Member} (hms : ∀ m ∈ ms, m.Valid) :
    ∀ {d : Document}, d.Wf → (ms.foldl Member.store d).Wf := by
  induction ms with
  | nil => exact fun hd => hd
  | cons m ms ih =>
    intro d hd
    exact ih (fun m' h => hms m' (by simp [h]))
      (hd.setRaw (Member.storedValue_repair (hms m (by simp))))

/-- **The reader returns a well-formed document.** -/
theorem wf_of_parse {raw : Bytes} {D : Document} (h : Document.parse raw = .ok D) : D.Wf := by
  obtain ⟨-, ms, -, -, -, -, -, -, hms, rfl⟩ := exists_objectText_of_parse h
  exact wf_foldl_store hms Document.wf_empty

end Inventory
