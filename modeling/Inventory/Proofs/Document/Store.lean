import Inventory.Document.Assemble
import Inventory.Proofs.Json.Quote
import Mathlib.Data.Finset.Card
/-!
# The document store

A document keeps its members as one list of keys and raw values. Its laws, each stated through
the views `keys` and `get?`:

* `setRaw` keeps the key list when the key is present and appends the key otherwise
  (`keys_setRaw`); the key then reads the new value and every other key reads as before
  (`get?_setRaw`);
* `merge` is `setRaw` member by member; merging the manifest document is one `setRaw`
  (`merge_manifestDocument`);
* `Document.Wf`, each key once and each value one whole JSON value in valid UTF-8, holds of the
  empty and the manifest document and is kept by `setRaw` of such a value and by `merge`
  (`Wf.setRaw`, `Wf.merge`). Under it a key is listed exactly when it has a value, and the size
  is the number of distinct keys (`mem_keys_iff`, `Wf.size_eq`).
-/

set_option autoImplicit false

namespace Inventory

open Json

/-- **A stored value**: one whole JSON value, in valid UTF-8. -/
structure StoredValue (v : Bytes) : Prop where
  value : IsValue v
  utf8 : Utf8.isValid v = true

/-- A string written by this library is a stored value. -/
theorem storedValue_quoteBytesWith (html : Bool) (bs : Bytes) :
    StoredValue (quoteBytesWith html bs) :=
  ⟨(isString_quoteBytesWith html bs).1, isValid_quoteBytesWith html bs⟩

namespace Document

variable {d o : Document} {k k' : String} {v : Bytes}

/-! ## 1. Storing one value -/

theorem any_key_iff : (d.entries.any fun e => e.1 == k) = true ↔ k ∈ d.keys := by
  simp [keys]

/-- **The keys after storing**: unchanged for a present key, the new key appended otherwise. -/
theorem keys_setRaw : (d.setRaw k v).keys = if k ∈ d.keys then d.keys else d.keys ++ [k] := by
  unfold setRaw
  by_cases h : k ∈ d.keys
  · rw [if_pos (any_key_iff.mpr h), if_pos h]
    simp only [keys, List.map_map]
    apply List.map_congr_left
    intro e _
    by_cases he : e.1 = k <;> simp [he]
  · rw [if_neg (mt any_key_iff.mp h), if_neg h]
    simp [keys]

/-- The entry a key reads is one with that key. -/
theorem key_of_find? {e : String × Bytes} (h : d.entries.find? (·.1 == k) = some e) : e.1 = k := by
  simpa using List.find?_some h

theorem mem_of_get? (h : d.get? k = some v) : (k, v) ∈ d.entries := by
  obtain ⟨e, he, rfl⟩ := Option.map_eq_some_iff.mp h
  rw [← key_of_find? he]
  exact List.mem_of_find?_eq_some he

/-- **A key is listed exactly when it has a value.** -/
theorem mem_keys_iff : k ∈ d.keys ↔ (d.get? k).isSome := by
  simp [keys, get?, List.find?_isSome]

/-- **The values after storing**: the key reads the new value, every other key as before. -/
theorem get?_setRaw : (d.setRaw k v).get? k' = if k' = k then some v else d.get? k' := by
  unfold setRaw get?
  by_cases h : k ∈ d.keys
  · rw [if_pos (any_key_iff.mpr h), List.find?_map]
    -- storing in place keeps every entry's key
    have hkey : ((fun e : String × Bytes => e.1 == k') ∘
        fun e => if (e.1 == k) = true then (k, v) else e) = fun e => e.1 == k' := by
      funext e
      by_cases he : e.1 = k <;> simp [he]
    rw [hkey]
    cases hf : d.entries.find? (·.1 == k') with
    | none =>
      have hk : k' ≠ k := by
        rintro rfl
        have := mem_keys_iff.mp h
        simp [get?, hf] at this
      simp [hk]
    | some e =>
      have he := key_of_find? hf
      by_cases hk : k' = k
      · simp [hk, he]
      · simp [hk, he]
  · rw [if_neg (mt any_key_iff.mp h), List.find?_append]
    by_cases hk : k' = k
    · subst hk
      cases hf : d.entries.find? (·.1 == k') with
      | none => simp
      | some e => exact absurd (mem_keys_iff.mpr (by simp [get?, hf])) h
    · simp [hk, Ne.symm hk]

/-- A new key is appended with its value. -/
theorem setRaw_of_not_mem (h : k ∉ d.keys) : d.setRaw k v = { entries := d.entries ++ [(k, v)] } := by
  rw [setRaw, if_neg (mt any_key_iff.mp h)]

theorem mem_setRaw {e : String × Bytes} (he : e ∈ (d.setRaw k v).entries) :
    e ∈ d.entries ∨ e = (k, v) := by
  unfold setRaw at he
  split at he
  · obtain ⟨e', he', rfl⟩ := List.mem_map.mp he
    by_cases hk : (e'.1 == k) = true
    · exact .inr (by simp [hk])
    · exact .inl (by simpa [hk] using he')
  · simpa using he

/-- **Storing members with distinct new keys appends them in order.** -/
theorem foldl_setRaw_of_nodup {es : List (String × Bytes)} (hes : (es.map (·.1)).Nodup) :
    ∀ {acc : Document}, (∀ e ∈ es, e.1 ∉ acc.keys) →
      es.foldl (fun acc e => acc.setRaw e.1 e.2) acc = { entries := acc.entries ++ es } := by
  induction es with
  | nil => intro acc _; simp
  | cons e es ih =>
    intro acc hnew
    rw [List.map_cons, List.nodup_cons] at hes
    rw [List.foldl_cons, setRaw_of_not_mem (hnew e (by simp))]
    rw [ih hes.2]
    · simp
    · intro e' he' hmem
      simp only [keys, List.map_append, List.map_cons, List.map_nil, List.mem_append,
        List.mem_singleton] at hmem
      rcases hmem with hmem | heq
      · exact hnew e' (by simp [he']) hmem
      · exact hes.1 (heq ▸ List.mem_map_of_mem he')

/-! ## 2. Values passed through a function -/

/-- The document with every value passed through `f`. -/
def mapValues (f : Bytes → Bytes) (d : Document) : Document :=
  { entries := d.entries.map fun e => (e.1, f e.2) }

variable {f g : Bytes → Bytes}

@[simp] theorem keys_mapValues : (d.mapValues f).keys = d.keys := by
  simp [mapValues, keys, Function.comp_def]

theorem get?_mapValues : (d.mapValues f).get? k = (d.get? k).map f := by
  simp [mapValues, get?, List.find?_map, Function.comp_def]

/-- Passing values through `f` commutes with storing. -/
theorem mapValues_setRaw : (d.setRaw k v).mapValues f = (d.mapValues f).setRaw k (f v) := by
  by_cases h : k ∈ d.keys
  · have h' : k ∈ (d.mapValues f).keys := by simpa using h
    unfold setRaw
    rw [if_pos (any_key_iff.mpr h), if_pos (any_key_iff.mpr h')]
    simp only [mapValues, List.map_map, mk.injEq]
    apply List.map_congr_left
    intro e _
    by_cases he : e.1 = k <;> simp [he]
  · have h' : k ∉ (d.mapValues f).keys := by simpa using h
    rw [setRaw_of_not_mem h, setRaw_of_not_mem h']
    simp [mapValues]

theorem mapValues_congr (h : ∀ e ∈ d.entries, f e.2 = g e.2) : d.mapValues f = d.mapValues g := by
  simp only [mapValues, mk.injEq]
  exact List.map_congr_left fun e he => by rw [h e he]

/-! ## 3. Merging -/

theorem merge_cons (d : Document) (e : String × Bytes) (es : List (String × Bytes)) :
    d.merge { entries := e :: es } = (d.setRaw e.1 e.2).merge { entries := es } := rfl

/-- The manifest document is its one member. -/
theorem manifestDocument_entries (text : Bytes) :
    (manifestDocument text).entries = [(manifestKey, quoteBytesWith false (flatten text))] := by
  simp [manifestDocument, setRaw, empty]

/-- **Merging the manifest document stores its one member.** -/
theorem merge_manifestDocument (text : Bytes) :
    d.merge (manifestDocument text) =
      d.setRaw manifestKey (quoteBytesWith false (flatten text)) := by
  simp [merge, manifestDocument_entries]

/-! ## 4. Well-formed documents -/

/-- **A well-formed document**: each key once, each value a stored value. -/
structure Wf (d : Document) : Prop where
  nodup : d.keys.Nodup
  values : ∀ e ∈ d.entries, StoredValue e.2

theorem wf_empty : Wf {} := ⟨List.nodup_nil, fun _ h => by cases h⟩

/-- **Storing a stored value keeps a document well formed.** -/
theorem Wf.setRaw (hd : Wf d) (hv : StoredValue v) : Wf (d.setRaw k v) := by
  refine ⟨?_, ?_⟩
  · rw [keys_setRaw]
    split
    · exact hd.nodup
    · exact hd.nodup.append (List.nodup_singleton k) (by simpa using ‹k ∉ d.keys›)
  · intro e he
    rcases mem_setRaw he with he | rfl
    · exact hd.values e he
    · exact hv

/-- **Merging a document of stored values keeps a document well formed**; the merged document
need not list each key once. -/
theorem Wf.merge (hd : Wf d) (ho : ∀ e ∈ o.entries, StoredValue e.2) : Wf (d.merge o) := by
  obtain ⟨es⟩ := o
  induction es generalizing d with
  | nil => exact hd
  | cons e es ih =>
    rw [merge_cons]
    exact ih (hd.setRaw (ho e (by simp))) fun e' he' => ho e' (by simp [he'])

theorem Wf.get? (hd : Wf d) (h : d.get? k = some v) : StoredValue v :=
  hd.values _ (mem_of_get? h)

/-- **Each entry is what its key reads** when each key is listed once. -/
theorem Wf.get?_of_mem (hd : Wf d) {e : String × Bytes} (he : e ∈ d.entries) :
    d.get? e.1 = some e.2 := by
  obtain ⟨v, hv⟩ := Option.isSome_iff_exists.mp (mem_keys_iff.mp (List.mem_map_of_mem he))
  -- the entry the key reads has the same key, so it is this one
  have heq : (e.1, v) = e := List.inj_on_of_nodup_map hd.nodup (mem_of_get? hv) he rfl
  rw [hv, ← heq]

/-- **The size is the number of distinct keys.** -/
theorem Wf.size_eq (hd : Wf d) : d.size = d.keys.toFinset.card := by
  rw [List.toFinset_card_of_nodup hd.nodup]
  simp [size, keys]

/-- Passing the values of a well-formed document through `f` keeps it well formed when `f`
gives stored values. -/
theorem Wf.mapValues (hd : Wf d) (hf : ∀ e ∈ d.entries, StoredValue (f e.2)) :
    Wf (d.mapValues f) := by
  refine ⟨by simpa using hd.nodup, ?_⟩
  intro e he
  obtain ⟨e', he', rfl⟩ := List.mem_map.mp he
  exact hf e' he'

theorem wf_manifestDocument (text : Bytes) : Wf (manifestDocument text) := by
  rw [manifestDocument, empty]
  exact wf_empty.setRaw (storedValue_quoteBytesWith false _)

end Document

end Inventory
