import Inventory.Proofs.Json.Write
import Inventory.Proofs.Document.Assembly
/-!
# The representation invariant along any run of operations

A document is built by a run of operations (`Document.Op`): reading a text, which replaces the
document when the text is read; setting a key to a value, which leaves the document as it was
when the value cannot be written; and merging a document read from a text, the manifest
document of a text, no document, or the document itself.

Every operation keeps a document well formed (`Wf.apply`), each key listed once and each value
one whole JSON value in valid UTF-8, provided a value set nests no deeper than the limit
(`Op.Allowed`). So every document a run reaches from the empty one is well formed (`wf_run`),
and what follows from that holds of it (`run_invariant`): its keys are distinct, a key is
listed exactly when it has a value, its size is its number of distinct keys, every value passes
the syntax check, and compacting every value succeeds, so the compact text of the document is
made of the values' compact layouts without a fallback.
-/

set_option autoImplicit false

namespace Inventory

open Json

namespace Document

/-! ## 1. Operations -/

/-- **An operation on a document.** -/
inductive Op where
  /-- Reading a text; the document read replaces the current one. -/
  | parse (raw : Bytes)
  /-- Setting a key to a value. -/
  | set (k : String) (v : Value)
  /-- Merging the document read from a text, or no document when the text is refused. -/
  | mergeParsed (raw : Bytes)
  /-- Merging the manifest document of a text. -/
  | mergeManifest (text : Bytes)
  /-- Merging no document. -/
  | mergeNone
  /-- Merging the document into itself. -/
  | mergeSelf

/-- **What an operation does**: a refused text or a value that cannot be written changes
nothing. -/
def Op.apply : Op → Document → Document
  | .parse raw, d =>
    match Document.parse raw with
    | .ok D => D
    | .error _ => d
  | .set k v, d =>
    match d.set k v with
    | .ok D => D
    | .error _ => d
  | .mergeParsed raw, d => d.mergeOpt (Document.parse raw).toOption
  | .mergeManifest text, d => d.merge (manifestDocument text)
  | .mergeNone, d => d.mergeOpt none
  | .mergeSelf, d => d.merge d

/-- The operations the invariant is stated for: a value set nests no deeper than the limit. -/
def Op.Allowed : Op → Prop
  | .set _ v => v.depth ≤ maxDepth
  | _ => True

/-- **The document after a run of operations** from the empty one. -/
def run (ops : List Op) : Document := ops.foldl (fun d op => op.apply d) {}

/-! ## 2. One operation -/

variable {d : Document}

/-- Setting a value that nests no deeper than the limit keeps a document well formed, whether
or not the value can be written. -/
theorem Wf.set (hd : d.Wf) {k : String} {v : Value} (hv : v.depth ≤ maxDepth) :
    (Op.set k v).apply d |>.Wf := by
  simp only [Op.apply, Document.set]
  split
  · rename_i D hD
    split at hD
    · rename_i raw hraw
      cases hD
      exact hd.setRaw (storedValue_write v hraw hv).1
    · cases hD
  · exact hd

/-- Merging a document read from a text, or none, keeps a document well formed. -/
theorem Wf.mergeOpt (hd : d.Wf) {o : Option Document} (ho : ∀ D ∈ o, D.Wf) : (d.mergeOpt o).Wf := by
  cases o with
  | none => exact hd
  | some D => exact hd.merge (ho D rfl).values

/-- **Every allowed operation keeps a document well formed.** -/
theorem Wf.apply (hd : d.Wf) {op : Op} (hop : op.Allowed) : (op.apply d).Wf := by
  cases op with
  | parse raw =>
    simp only [Op.apply]
    split
    · rename_i D hD
      exact wf_of_parse hD
    · exact hd
  | set k v => exact hd.set hop
  | mergeParsed raw =>
    refine hd.mergeOpt fun D hD => ?_
    cases hp : Document.parse raw with
    | error e => rw [hp] at hD; cases hD
    | ok D' =>
      rw [hp] at hD
      cases hD
      exact wf_of_parse hp
  | mergeManifest text => exact hd.merge (wf_manifestDocument text).values
  | mergeNone => exact hd
  | mergeSelf => rw [Op.apply, merge_self hd.nodup]; exact hd

/-! ## 3. Runs -/

/-- **Every document a run of allowed operations reaches is well formed.** -/
theorem wf_run {ops : List Op} (h : ∀ op ∈ ops, op.Allowed) : (run ops).Wf := by
  -- the invariant is carried from the empty document along the fold
  suffices hfold : ∀ d : Document, d.Wf → (ops.foldl (fun d op => op.apply d) d).Wf from
    hfold {} wf_empty
  induction ops with
  | nil => exact fun d hd => hd
  | cons op ops ih =>
    intro d hd
    exact ih (fun op' h' => h op' (by simp [h'])) _ (hd.apply (h op (by simp)))

/-- **The representation invariant.** Along any run of allowed operations from the empty
document, every document reached lists each key once; a key is listed exactly when it has a
value; the size is the number of distinct keys; every value is one whole JSON value in valid
UTF-8 that passes the syntax check; and every value compacts, so the compact text of the
document is written without a fallback. -/
theorem run_invariant {ops : List Op} (h : ∀ op ∈ ops, op.Allowed) :
    (run ops).keys.Nodup ∧ (∀ k, k ∈ (run ops).keys ↔ ((run ops).get? k).isSome) ∧
      (run ops).size = (run ops).keys.toFinset.card ∧
      (∀ k v, (run ops).get? k = some v → StoredValue v ∧ checkValid v = .ok ()) ∧
      ∀ k v, (run ops).get? k = some v → compact v = .ok (compactValue v) := by
  have hwf := wf_run h
  refine ⟨hwf.nodup, fun k => mem_keys_iff, hwf.size_eq, ?_, ?_⟩
  · intro k v hv
    have hs := hwf.get? hv
    have hcheck : checkValid ([] ++ v ++ []) = .ok () := hs.value.checkValid (by simp) (by simp)
    rw [List.nil_append, List.append_nil] at hcheck
    exact ⟨hs, hcheck⟩
  · intro k v hv
    exact compact_of_storedValue (hwf.get? hv)

/-- A run through every kind of operation: a set that is written, one that fails on a number
that is no literal, a merge of the document into itself, of a manifest and of nothing. -/
def sampleOps : List Op :=
  [.set "a" (.array [.number "1", .string "x"]), .set "b" (.number "x"), .mergeSelf,
    .mergeManifest [0x6D], .mergeNone]

/-- The invariant along the sample run. -/
theorem run_invariant_sampleOps :
    (∀ op ∈ sampleOps, op.Allowed) ∧
      ((run sampleOps).keys.Nodup ∧
        (∀ k, k ∈ (run sampleOps).keys ↔ ((run sampleOps).get? k).isSome) ∧
        (run sampleOps).size = (run sampleOps).keys.toFinset.card ∧
        (∀ k v, (run sampleOps).get? k = some v → StoredValue v ∧ checkValid v = .ok ()) ∧
        ∀ k v, (run sampleOps).get? k = some v → compact v = .ok (compactValue v)) := by
  have h : ∀ op ∈ sampleOps, op.Allowed := by
    intro op hop
    simp only [sampleOps, List.mem_cons, List.not_mem_nil, or_false] at hop
    rcases hop with rfl | rfl | rfl | rfl | rfl
    · simp [Op.Allowed, Value.depth, Value.itemsDepth, maxDepth]
    · simp [Op.Allowed, Value.depth, maxDepth]
    all_goals trivial
  exact ⟨h, run_invariant h⟩

/-- A run that sets three keys, one with an escaped quote in it and one holding a nested value,
then sets the first key again, which keeps its place. -/
def nestedOps : List Op :=
  [.set "b" (.number "1"), .set "a\"b" (.object [("x", .array [.number "1", .number "2"])]),
    .set "c" (.string "s"), .set "b" (.bool true)]

/-- The round trip for the document of that run: it reads back with its three keys in the order
they were first set, each holding its value compacted. -/
theorem render_parse_inverse_nested :
    (run nestedOps).Wf ∧ (run nestedOps).keys = ["b", "a\"b", "c"] ∧
      ((∃ D, Document.parse (run nestedOps).render = .ok D ∧ D.keys = (run nestedOps).keys ∧
        ∀ k, D.get? k = ((run nestedOps).get? k).bind fun v => (compact v).toOption) ∧
      (∀ out, (run nestedOps).pretty = .ok out →
        ∃ D, Document.parse out = .ok D ∧ D.pretty = .ok out) ∧
      ∀ (P O : Bytes) (m : Option Bytes), assemble P m = .ok O → assemble O none = .ok O) := by
  have h : ∀ op ∈ nestedOps, op.Allowed := by
    intro op hop
    simp only [nestedOps, List.mem_cons, List.not_mem_nil, or_false] at hop
    rcases hop with rfl | rfl | rfl | rfl
    all_goals simp [Op.Allowed, Value.depth, Value.itemsDepth, Value.membersDepth, maxDepth]
  exact ⟨wf_run h, by decide, render_parse_inverse (wf_run h)⟩

end Document

end Inventory
