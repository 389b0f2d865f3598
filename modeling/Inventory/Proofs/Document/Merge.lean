import Inventory.Proofs.Document.Store
/-!
# Storing members one after another, and merging

The reader and `merge` both file a list of members by `setRaw`, one after another. What such a
run leaves is said once here, through the two views of a document:

* the keys are the old keys followed by the new keys in order of first occurrence, each once
  (`keys_foldl_setRaw`); the distinct keys in first-occurrence order are `List.eraseDups`;
* a key reads the value of the last member stored under it, or its old value when no member
  has it (`get?_foldl_setRaw`).

For `merge` this is the merge law (`merge_law`): the merged document lists its own keys, then the
keys of the other document it lacked, in the other document's order; each key of the other
document reads the other document's value, and every other key keeps its own. Storing a member
that is already there changes nothing (`setRaw_of_mem`), so merging a document into itself
changes nothing, although the members stored are the very ones being read. Documents are
values, so the merged-in document is never changed.
-/

set_option autoImplicit false

namespace Inventory

open Json

namespace Document

variable {d o : Document} {k : String}

/-! ## 1. Storing members one after another -/

/-- **The keys after storing members in order**: the old keys, then the new keys in order of
first occurrence. -/
theorem keys_foldl_setRaw (es : List (String × Bytes)) (d : Document) :
    (es.foldl (fun acc e => acc.setRaw e.1 e.2) d).keys =
      d.keys ++ ((es.map (·.1)).removeAll d.keys).eraseDups := by
  induction es generalizing d with
  | nil => simp [List.removeAll]
  | cons e es ih =>
    rw [List.foldl_cons, ih, keys_setRaw]
    by_cases h : e.1 ∈ d.keys
    · simp [h, List.cons_removeAll]
    · -- a new key is appended, and the keys after it are new when they differ from it too
      simp only [h, ↓reduceIte, List.map_cons, List.cons_removeAll, List.contains_eq_mem,
        decide_false, List.eraseDups_cons, List.append_assoc, List.singleton_append]
      congr 3
      simp only [List.removeAll, List.filter_filter]
      apply List.filter_congr
      intro x _
      by_cases hx : x = e.1 <;> simp [hx]

/-- **The values after storing members in order**: a key reads the last member stored under it,
and its old value when there is none. -/
theorem get?_foldl_setRaw (es : List (String × Bytes)) (d : Document) (k : String) :
    (es.foldl (fun acc e => acc.setRaw e.1 e.2) d).get? k =
      ((es.reverse.find? (·.1 == k)).map (·.2)).or (d.get? k) := by
  induction es generalizing d with
  | nil => simp
  | cons e es ih =>
    rw [List.foldl_cons, ih, get?_setRaw]
    by_cases h : k = e.1
    · subst h; simp [List.find?_append]
    · simp [List.find?_append, h, Ne.symm h]

/-- A list without repeats has nothing to erase. -/
theorem eraseDups_of_nodup {l : List String} (h : l.Nodup) : l.eraseDups = l := by
  induction l with
  | nil => rfl
  | cons a l ih =>
    rw [List.nodup_cons] at h
    rw [List.eraseDups_cons, List.filter_eq_self.mpr, ih h.2]
    intro b hb
    simpa using fun hba : b = a => h.1 (hba ▸ hb)

/-- **Storing a member that is already there changes nothing** when each key is listed once. -/
theorem setRaw_of_mem {v : Bytes} (hd : d.keys.Nodup) (h : (k, v) ∈ d.entries) :
    d.setRaw k v = d := by
  have hk : k ∈ d.keys := List.mem_map_of_mem h
  unfold setRaw
  rw [if_pos (any_key_iff.mpr hk)]
  obtain ⟨es⟩ := d
  simp only [mk.injEq]
  conv_rhs => rw [← List.map_id es]
  apply List.map_congr_left
  intro e he
  by_cases hek : e.1 = k
  · -- the one entry with this key is `(k, v)`
    have : e = (k, v) := List.inj_on_of_nodup_map hd he h hek
    simp [this]
  · simp [hek]

/-! ## 2. Merging -/

/-- The keys after merging a document that lists each key once. -/
theorem keys_merge (ho : o.keys.Nodup) :
    (d.merge o).keys = d.keys ++ o.keys.filter (· ∉ d.keys) := by
  rw [merge, keys_foldl_setRaw]
  have hnew : (o.entries.map (·.1)).removeAll d.keys = o.keys.filter (· ∉ d.keys) := by
    show o.keys.removeAll d.keys = _
    exact List.filter_congr fun x _ => by simp
  rw [hnew, eraseDups_of_nodup (ho.filter _)]

/-- The values after merging a document that lists each key once. -/
theorem get?_merge (ho : o.keys.Nodup) (k : String) :
    (d.merge o).get? k = if k ∈ o.keys then o.get? k else d.get? k := by
  rw [merge, get?_foldl_setRaw]
  split
  · rename_i hk
    obtain ⟨v, hv⟩ := Option.isSome_iff_exists.mp (mem_keys_iff.mp hk)
    -- the last member with this key is the only one
    obtain ⟨e, he⟩ : ∃ e, o.entries.reverse.find? (·.1 == k) = some e := by
      apply Option.isSome_iff_exists.mp
      rw [List.find?_isSome]
      exact ⟨(k, v), List.mem_reverse.mpr (mem_of_get? hv), by simp⟩
    have hek : e.1 = k := by simpa using List.find?_some he
    have heq : e = (k, v) :=
      List.inj_on_of_nodup_map ho (List.mem_reverse.mp (List.mem_of_find?_eq_some he))
        (mem_of_get? hv) hek
    simp [he, heq, hv]
  · rename_i hk
    have hnone : o.entries.reverse.find? (·.1 == k) = none := by
      rw [List.find?_eq_none]
      intro e he hek
      exact hk (by simpa using (beq_iff_eq.mp hek) ▸ List.mem_map_of_mem (List.mem_reverse.mp he))
    simp [hnone]

/-- Merging a document into itself changes nothing. -/
theorem merge_self (hd : d.keys.Nodup) : d.merge d = d := by
  rw [merge]
  -- each member stored is one `d` already holds
  suffices h : ∀ es : List (String × Bytes), (∀ e ∈ es, e ∈ d.entries) →
      es.foldl (fun acc e => acc.setRaw e.1 e.2) d = d from h _ fun _ he => he
  intro es hes
  induction es with
  | nil => rfl
  | cons e es ih =>
    rw [List.foldl_cons, setRaw_of_mem hd (hes e (by simp))]
    exact ih fun e' he' => hes e' (by simp [he'])

/-- **The merge law.** For documents that list each key once, as every document built by this
library does (`Wf.nodup`): the merged keys are the old keys, then the other document's keys that
were missing, in its order; a key of the other document reads its value there, any other key
its old value; merging no document changes nothing, and neither does merging a document into
itself. -/
theorem merge_law (hd : d.keys.Nodup) (ho : o.keys.Nodup) :
    (d.merge o).keys = d.keys ++ o.keys.filter (· ∉ d.keys) ∧
      (∀ k, (d.merge o).get? k = if k ∈ o.keys then o.get? k else d.get? k) ∧
      d.mergeOpt none = d ∧ d.merge d = d :=
  ⟨keys_merge ho, get?_merge ho, rfl, merge_self hd⟩

/-- The merge law for two documents sharing the key `b`. -/
theorem merge_law_shared_key :
    let d : Document := ⟨[("a", [0x31]), ("b", [0x32])]⟩
    let o : Document := ⟨[("b", [0x33]), ("c", [0x34])]⟩
    d.keys.Nodup ∧ o.keys.Nodup ∧
      ((d.merge o).keys = d.keys ++ o.keys.filter (· ∉ d.keys) ∧
        (∀ k, (d.merge o).get? k = if k ∈ o.keys then o.get? k else d.get? k) ∧
        d.mergeOpt none = d ∧ d.merge d = d) := by
  intro d o
  have hd : d.keys.Nodup := by decide
  have ho : o.keys.Nodup := by decide
  exact ⟨hd, ho, merge_law hd ho⟩

end Document

end Inventory
