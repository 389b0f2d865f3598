import Inventory.Proofs.Json.Scalars
import Inventory.Proofs.Document.Render
/-!
# What the writer writes

`Value.write` writes a value compactly: the words and number literals as themselves, strings
quoted, arrays as their items joined by commas between brackets, objects as their members,
repeated keys resolved to the last and keys sorted, between braces.

Whatever it writes for a value nesting no deeper than the limit is a stored value: one whole
value in valid UTF-8 (`storedValue_write`). Nesting is counted as the machine counts it, each
array or object one level (`Value.depth`), and the written text nests no deeper than the value.
It may nest less deeply: of the members of an object with repeated keys only the last of each
key is written (`mem_mapEntries`).
-/

set_option autoImplicit false

namespace Inventory.Json

open Scanner

/-! ## 1. How deep a value nests -/

mutual

/-- **How deep a value nests**: each array or object one level, a scalar none. -/
def Value.depth : Value → Nat
  | .array items => Value.itemsDepth items + 1
  | .object members => Value.membersDepth members + 1
  | _ => 0

/-- The deepest nesting among the items of an array. -/
def Value.itemsDepth : List Value → Nat
  | [] => 0
  | v :: rest => max v.depth (Value.itemsDepth rest)

/-- The deepest nesting among the members' values of an object. -/
def Value.membersDepth : List (String × Value) → Nat
  | [] => 0
  | (_, v) :: rest => max v.depth (Value.membersDepth rest)

end

/-! ## 2. The pieces the writer joins -/

/-- Valid pieces joined by commas are valid. -/
theorem isValid_joinCommas {parts : List Bytes} (h : ∀ p ∈ parts, Utf8.isValid p = true) :
    Utf8.isValid (joinCommas parts) = true := by
  induction parts with
  | nil => simp [joinCommas, Utf8.isValid]
  | cons p rest ih =>
    have hp := h p (by simp)
    have ih := ih fun q hq => h q (by simp [hq])
    cases rest with
    | nil => exact hp
    | cons q rest =>
      show Utf8.isValid (p ++ 0x2C :: joinCommas (q :: rest)) = true
      exact Utf8.isValid_append hp
        (Utf8.isValid_append (x := [0x2C]) (Utf8.isValid_ascii (by simp)) ih)

/-- A valid text between two ASCII brackets is valid. -/
theorem isValid_bracketed {o c : UInt8} (ho : o < 0x80) (hc : c < 0x80) {x : Bytes}
    (hx : Utf8.isValid x = true) : Utf8.isValid (o :: x ++ [c]) = true := by
  have h := Utf8.isValid_append (Utf8.isValid_append (x := [o]) (Utf8.isValid_ascii (by simp [ho]))
    hx) (Utf8.isValid_ascii (show ∀ b ∈ [c], b < 0x80 by simp [hc]))
  simpa using h

/-- Pieces written `[`, joined by commas, `]` are an array text of the pieces as elements. -/
theorem arrayText_nil_inner (parts : List Bytes) :
    arrayText (parts.map fun p => ⟨[], p, []⟩) [] = 0x5B :: joinCommas parts ++ [0x5D] := by
  cases parts with
  | nil => rfl
  | cons p parts =>
    -- the elements after the first, each behind a comma, then the bracket
    have htail : ∀ (p : Bytes) (parts : List Bytes),
        joinCommas (p :: parts) ++ [0x5D] =
          p ++ elementsTail (parts.map fun p => ⟨[], p, []⟩) := by
      intro p parts
      induction parts generalizing p with
      | nil => simp [joinCommas, elementsTail]
      | cons q parts ih =>
        simp only [joinCommas, List.append_assoc, List.cons_append, List.map_cons, elementsTail,
          Element.text, List.nil_append, List.append_nil]
        rw [← ih q]
    simp only [List.map_cons, arrayText, Element.text, List.nil_append, List.append_nil,
      htail, List.cons_append]

/-- The value found for a key by a left fold over members is the start or a member's with the
key. -/
theorem mem_of_foldl_last {α : Type} (k : String) :
    ∀ (ms : List (String × α)) (acc : Option α) (v : α),
      ms.foldl (fun acc m => if m.1 = k then some m.2 else acc) acc = some v →
        acc = some v ∨ (k, v) ∈ ms
  | [], _, _, h => .inl h
  | m :: ms, acc, v, h => by
    rw [List.foldl_cons] at h
    rcases mem_of_foldl_last k ms _ v h with h' | h'
    · split at h'
      · rename_i hk
        cases h'
        exact .inr (List.mem_cons.mpr (.inl (by rw [← hk])))
      · exact .inl h'
    · exact .inr (List.mem_cons_of_mem _ h')

/-- **What the writer keeps of an object's members** is among its members. -/
theorem mem_mapEntries {α : Type} {ms : List (String × α)} {e : String × α}
    (h : e ∈ mapEntries ms) : e ∈ ms := by
  simp only [mapEntries, List.mem_filterMap, Option.map_eq_some_iff] at h
  obtain ⟨k, -, v, hv, rfl⟩ := h
  rcases mem_of_foldl_last k ms none v hv with h | h
  · cases h
  · exact h

/-- A bound on every entry bounds the largest. -/
theorem foldr_max_le {l : List Nat} {n : Nat} (h : ∀ x ∈ l, x ≤ n) : l.foldr max 0 ≤ n := by
  induction l with
  | nil => exact Nat.zero_le n
  | cons x l ih =>
    rw [List.foldr_cons]
    exact Nat.max_le.mpr ⟨h x (by simp), ih fun y hy => h y (by simp [hy])⟩

/-! ## 3. Written containers -/

/-- **An array written from stored values** that nest below the limit is a stored value, one
level deeper than its deepest item. -/
theorem storedValue_arrayOf {parts : List Bytes} {n : Nat}
    (h : ∀ p ∈ parts, StoredValue p ∧ peak {} p ≤ n) (hn : n < maxDepth) :
    StoredValue (0x5B :: joinCommas parts ++ [0x5D]) ∧
      peak {} (0x5B :: joinCommas parts ++ [0x5D]) ≤ n + 1 := by
  have hes : ∀ e ∈ parts.map (fun p => (⟨[], p, []⟩ : Element)), e.Valid ∧ e.Fits := by
    intro e he
    obtain ⟨p, hp, rfl⟩ := List.mem_map.mp he
    obtain ⟨hs, hpk⟩ := h p hp
    exact ⟨⟨by simp, hs.value, by simp⟩, by simp only [Element.Fits]; omega⟩
  obtain ⟨-, -, hpeak⟩ := feed_arrayText hes (show ∀ c ∈ ([] : Bytes), isBlank c = true by simp)
  have hmax : Element.maxPeak (parts.map fun p => ⟨[], p, []⟩) ≤ n := by
    apply foldr_max_le
    intro x hx
    simp only [List.map_map, List.mem_map, Function.comp_apply] at hx
    obtain ⟨p, hp, rfl⟩ := hx
    exact (h p hp).2
  rw [← arrayText_nil_inner]
  refine ⟨⟨isValue_arrayText hes (by simp), ?_⟩, by omega⟩
  rw [arrayText_nil_inner]
  exact isValid_bracketed (by decide) (by decide) (isValid_joinCommas fun p hp => (h p hp).1.utf8)

/-- **An object written from stored values** that nest below the limit is a stored value, one
level deeper than its deepest member; `f` writes a member as its quoted key, a colon and its
value. -/
theorem storedValue_objectOf {parts : List (String × Bytes)} {n : Nat}
    (h : ∀ e ∈ parts, StoredValue e.2 ∧ peak {} e.2 ≤ n) (hn : n < maxDepth)
    {f : String × Bytes → Bytes} (hf : ∀ e, f e = quoteString e.1 ++ 0x3A :: e.2) :
    StoredValue (0x7B :: joinCommas ((mapEntries parts).map f) ++ [0x7D]) ∧
      peak {} (0x7B :: joinCommas ((mapEntries parts).map f) ++ [0x7D]) ≤ n + 1 := by
  -- the written members are those of an object text without blanks
  let ms : List Member := (mapEntries parts).map fun e => ⟨[], quoteString e.1, [], [], e.2, []⟩
  have htext : 0x7B :: joinCommas ((mapEntries parts).map f) ++ [0x7D] = objectText ms [] := by
    rw [objectText_nil_inner, List.map_map]
    congr 3
    apply List.map_congr_left
    intro e _
    simp [hf, Member.text]
  have hkept : ∀ e ∈ mapEntries parts, StoredValue e.2 ∧ peak {} e.2 ≤ n :=
    fun e he => h e (mem_mapEntries he)
  have hms : ∀ m ∈ ms, m.Valid ∧ m.Fits := by
    intro m hm
    obtain ⟨e, he, rfl⟩ := List.mem_map.mp hm
    obtain ⟨hs, hpk⟩ := hkept e he
    exact ⟨⟨by simp, isString_quoteString e.1, by simp, by simp, hs.value, by simp⟩,
      by simp only [Member.Fits]; omega⟩
  have hmax : Member.maxPeak ms ≤ n := by
    apply foldr_max_le
    intro x hx
    simp only [ms, List.map_map, List.mem_map, Function.comp_apply] at hx
    obtain ⟨e, he, rfl⟩ := hx
    exact (hkept e he).2
  have hvalid : ∀ p ∈ (mapEntries parts).map f, Utf8.isValid p = true := by
    intro p hp
    obtain ⟨e, he, rfl⟩ := List.mem_map.mp hp
    rw [hf]
    exact Utf8.isValid_append (isValid_quoteString e.1)
      (Utf8.isValid_append (x := [0x3A]) (Utf8.isValid_ascii (by simp)) (hkept e he).1.utf8)
  refine ⟨⟨?_, isValid_bracketed (by decide) (by decide) (isValid_joinCommas hvalid)⟩, ?_⟩
  · rw [htext]
    exact isValue_objectText hms (by simp)
  · rw [htext, peak_objectText hms (by simp)]
    omega

/-! ## 4. Written values are stored values -/

/-- **A written word** is a stored value that nests nothing. -/
theorem storedValue_ofString_word {w : String} (hw : Utf8.ofString w ∈ words) :
    StoredValue (Utf8.ofString w) ∧ peak {} (Utf8.ofString w) = 0 := by
  obtain ⟨hv, hpk⟩ := isValue_word hw
  refine ⟨⟨hv, ?_⟩, hpk⟩
  rw [Utf8.ofString_eq_encode]
  exact Utf8.isValid_encode _

/-- A written number literal is a stored value that nests nothing. -/
theorem storedValue_number {lit : String} {raw : Bytes}
    (h : (Value.number lit).write false = .ok raw) : StoredValue raw ∧ peak {} raw = 0 := by
  simp only [Value.write] at h
  split at h
  · -- the empty literal is written `0`
    cases h
    exact isValue_numberText ⟨[], [0x30], [], [], rfl, .inl rfl, .zero, .none, .none⟩ |>.imp
      (fun hv => ⟨hv, Utf8.isValid_ascii (by simp)⟩) id
  · split at h
    · rename_i hlit
      cases h
      obtain ⟨hv, hpk⟩ := isValue_numberText (numberText_ofString hlit)
      refine ⟨⟨hv, ?_⟩, hpk⟩
      rw [Utf8.ofString_eq_encode]
      exact Utf8.isValid_encode _
    · cases h

mutual

/-- **What the writer writes is a stored value**, for a value nesting no deeper than the limit,
and it nests no deeper than the value. -/
theorem storedValue_write : ∀ (v : Value) {raw : Bytes}, v.write false = .ok raw →
    v.depth ≤ maxDepth → StoredValue raw ∧ peak {} raw ≤ v.depth
  | .null, raw, h, _ => by
    cases h
    exact (storedValue_ofString_word (by rw [Utf8.ofString_eq_encode]; decide)).imp id
      (by omega)
  | .bool true, raw, h, _ => by
    cases h
    exact (storedValue_ofString_word (by rw [Utf8.ofString_eq_encode]; decide)).imp id
      (by omega)
  | .bool false, raw, h, _ => by
    cases h
    exact (storedValue_ofString_word (by rw [Utf8.ofString_eq_encode]; decide)).imp id
      (by omega)
  | .number lit, raw, h, _ => (storedValue_number h).imp id (by omega)
  | .string s, raw, h, _ => by
    cases h
    have hs := isString_quoteString s
    show StoredValue (quoteString s) ∧ peak {} (quoteString s) ≤ 0
    exact ⟨⟨hs.1, isValid_quoteString s⟩, by rw [peak_string hs]⟩
  | .array items, raw, h, hd => by
    simp only [Value.write, bind, Except.bind] at h
    split at h
    · cases h
    · rename_i parts hparts
      cases h
      have hd' : Value.itemsDepth items < maxDepth := by simp only [Value.depth] at hd; omega
      exact storedValue_arrayOf (storedValue_writeItems items hparts hd') hd'
  | .object members, raw, h, hd => by
    simp only [Value.write, bind, Except.bind] at h
    split at h
    · cases h
    · rename_i parts hparts
      cases h
      have hd' : Value.membersDepth members < maxDepth := by simp only [Value.depth] at hd; omega
      exact storedValue_objectOf (storedValue_writeMembers members hparts hd') hd'
        fun e => by simp [quoteString]

/-- The written items of an array are stored values. -/
theorem storedValue_writeItems : ∀ (items : List Value) {parts : List Bytes},
    Value.writeItems false items = .ok parts → Value.itemsDepth items < maxDepth →
      ∀ p ∈ parts, StoredValue p ∧ peak {} p ≤ Value.itemsDepth items
  | [], parts, h, _ => by
    cases h
    intro p hp
    cases hp
  | v :: rest, parts, h, hd => by
    simp only [Value.writeItems, bind, Except.bind] at h
    split at h
    · cases h
    · rename_i a ha
      split at h
      · cases h
      · rename_i b hb
        cases h
        simp only [Value.itemsDepth] at hd ⊢
        intro p hp
        rcases List.mem_cons.mp hp with rfl | hp
        · exact (storedValue_write v ha (by omega)).imp id (by omega)
        · exact (storedValue_writeItems rest hb (by omega) p hp).imp id (by omega)

/-- The written members of an object are stored values. -/
theorem storedValue_writeMembers : ∀ (ms : List (String × Value)) {parts : List (String × Bytes)},
    Value.writeMembers false ms = .ok parts → Value.membersDepth ms < maxDepth →
      ∀ e ∈ parts, StoredValue e.2 ∧ peak {} e.2 ≤ Value.membersDepth ms
  | [], parts, h, _ => by
    cases h
    intro e he
    cases he
  | (k, v) :: rest, parts, h, hd => by
    simp only [Value.writeMembers, bind, Except.bind] at h
    split at h
    · cases h
    · rename_i b hb
      split at h
      · cases h
      · rename_i more hmore
        cases h
        simp only [Value.membersDepth] at hd ⊢
        intro e he
        rcases List.mem_cons.mp he with rfl | he
        · show StoredValue b ∧ peak {} b ≤ _
          exact (storedValue_write v hb (by omega)).imp id (by omega)
        · exact (storedValue_writeMembers rest hmore (by omega) e he).imp id (by omega)

end

end Inventory.Json
