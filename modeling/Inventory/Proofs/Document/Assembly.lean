import Inventory.Proofs.Document.Render
import Inventory.Proofs.Document.Reading
/-!
# The assembled document, read back

What `render`, `pretty` and `assemble` write, the document reader reads back as what was
written.

* **Round trip** (`render_parse_inverse`). The compact text of a well-formed document reads back
  with the same keys in the same order, each value compacted; the indented text reads back as a
  document whose indented text is the same bytes. So assembling what assembling wrote gives it
  back unchanged.
* **End to end** (`assemble_contract`). The assembled text of a probe reads back with the
  probe's distinct decoded keys in order of first occurrence, and `manifest_file` appended when a
  manifest is given and the probe lacked it. Every other key holds, up to compact layout, the
  repaired value the probe gave it last. `manifest_file` holds the flattened manifest as a JSON
  string with no control byte and with `<`, `>` and `&` written as themselves, and reading that
  string gives the flattened text with each stray byte read as `U+FFFD`.

Both rest on `parse_pretty`: the indented text reads back as a document whose values compact to
the compacted values written. A value of the document read may keep the blanks of the layout,
so values are compared through `compact`; a string value has no blanks outside its literal and is
read back byte for byte (`eq_of_keep_string`).
-/

set_option autoImplicit false

namespace Inventory

open Json Json.Scanner Document

/-! ## 1. Values read back -/

/-- A stored value compacts without error, to `compactValue`. -/
theorem compact_of_storedValue {v : Bytes} (hv : StoredValue v) :
    compact v = .ok (compactValue v) := by
  have h : compact ([] ++ v ++ []) = .ok (keep {} v) := compact_eq (by simp) hv.value (by simp)
  rw [List.nil_append, List.append_nil] at h
  rw [h, compactValue_eq hv.value]

/-- **Values read back compact as the values written**: when the values of `D` compact to the
compacted values of `d`, each key's value compacts to the same text in both. -/
theorem get?_map_compact {d D : Document} (hd : d.Wf) (hD : D.Wf)
    (h : D.mapValues (keep {}) = d.mapValues compactValue) (k : String) :
    (D.get? k).map compact = (d.get? k).map compact := by
  have hk := congrArg (·.get? k) h
  simp only [get?_mapValues] at hk
  cases hw : D.get? k with
  | none =>
    rw [hw, Option.map_none] at hk
    rw [Option.map_eq_none_iff.mp hk.symm]
  | some w =>
    rw [hw, Option.map_some] at hk
    obtain ⟨v, hv, hvw⟩ := Option.map_eq_some_iff.mp hk.symm
    rw [hv, Option.map_some, Option.map_some, compact_of_storedValue (hD.get? hw),
      compact_of_storedValue (hd.get? hv), compactValue_eq (hD.get? hw).value, hvw]

/-- A stored value whose compact layout is a string literal is that literal. -/
theorem eq_of_keep_string {w q : Bytes} (hw : StoredValue w) (hq : IsString q)
    (h : keep {} w = q) : w = q := by
  have hhead : w.head? = some 0x22 := by
    rw [← hw.value.head_keep, h, hq.2]
  have hs : IsString w := ⟨hw.value, hhead⟩
  rw [← keep_string hs, h]

/-! ## 2. Writing and reading back -/

/-- **Assembling the assembled text gives it back.** -/
theorem assemble_assemble {P O : Bytes} {m : Option Bytes} (h : assemble P m = .ok O) :
    assemble O none = .ok O := by
  cases hb : build P m with
  | error e => simp [assemble, hb] at h
  | ok D =>
    rw [assemble_of_build hb] at h
    cases hp : D.pretty with
    | error e => simp [hp] at h
    | ok out =>
      rw [hp] at h
      cases h
      obtain ⟨D', hparse, -, -, hpretty⟩ := parse_pretty (wf_of_build hb) hp
      rw [assemble_of_build (build_eq_ok.mpr ⟨D', hparse, rfl⟩), hpretty]

/-- **Rendering and reading back are inverse.** For a well-formed document (every document this
library builds is one): its compact text reads back with the same keys in the same order, each
key holding its value compacted; whenever the indented text is written, it reads back as a
document whose indented text is the same bytes; and assembling an assembled text again gives it
back. -/
theorem render_parse_inverse {d : Document} (hd : d.Wf) :
    (∃ D, Document.parse d.render = .ok D ∧ D.keys = d.keys ∧
      ∀ k, D.get? k = (d.get? k).bind fun v => (compact v).toOption) ∧
    (∀ out, d.pretty = .ok out → ∃ D, Document.parse out = .ok D ∧ D.pretty = .ok out) ∧
    ∀ (P O : Bytes) (m : Option Bytes), assemble P m = .ok O → assemble O none = .ok O := by
  refine ⟨⟨_, parse_render hd, keys_mapValues, fun k => ?_⟩, fun out h => ?_,
    fun _ _ _ => assemble_assemble⟩
  · rw [get?_mapValues]
    cases hv : d.get? k with
    | none => rfl
    | some v => simp [compact_of_storedValue (hd.get? hv), Except.toOption]
  · obtain ⟨D, hparse, -, -, hpretty⟩ := parse_pretty hd h
    exact ⟨D, hparse, hpretty⟩

/-! ## 3. The assembled document -/

/-- The entry `build` stores for a manifest. -/
def manifestEntry (text : Bytes) : String × Bytes := (manifestKey, quoteBytesWith false (flatten text))

/-- **What building stores**: the probe's members in order, then the manifest entry when there
is a manifest. -/
theorem build_eq_foldl {P : Bytes} {ms : List Member} {m : Option Bytes} {D : Document}
    (hP : MembersOf P ms) (h : build P m = .ok D) :
    D = ((ms.map fun m => (m.name, Utf8.repair m.value)) ++ m.toList.map manifestEntry).foldl
      (fun acc e => acc.setRaw e.1 e.2) {} := by
  obtain ⟨doc, hdoc, rfl⟩ := build_eq_ok.mp h
  have hdoc' : doc = ms.foldl Member.store {} := by
    have h' := parse_eq_ok_iff.mpr ⟨ms, hP, rfl⟩
    rw [hdoc] at h'
    exact Except.ok.inj h'
  subst hdoc'
  cases m <;> simp [List.foldl_append, foldl_store_eq, manifestEntry]

/-- **The end-to-end contract of assembling.** For a probe text with members `ms` and a manifest
option `m`, if assembling gives `O` then `O` reads back as a document whose keys are the
probe's distinct decoded keys in order of first occurrence, followed by `manifest_file` when a
manifest is given and the probe lacked it; every key but `manifest_file` (every key when there
is no manifest) holds, up to compact layout, the repaired value the probe gave it last; and with
a manifest `t`, `manifest_file` holds a JSON string with no control byte, with `<`, `>` and `&`
as themselves, that reads as `flatten t` with each stray byte as `U+FFFD`. -/
theorem assemble_contract {P O : Bytes} {ms : List Member} {m : Option Bytes}
    (hP : MembersOf P ms) (hO : assemble P m = .ok O) :
    ∃ D, Document.parse O = .ok D ∧
      D.keys = (ms.map Member.name ++ if m.isSome then [manifestKey] else []).eraseDups ∧
      (∀ k, (m = none ∨ k ≠ manifestKey) →
        (D.get? k).map compact = (ms.reverse.find? (·.name == k)).map (compact <| Utf8.repair ·.value)) ∧
      ∀ t, m = some t → ∃ w, D.get? manifestKey = some w ∧ IsString w ∧ (∀ b ∈ w, 0x20 ≤ b) ∧
        (∀ a ∈ htmlBytes, w.count a = (flatten t).count a) ∧
        decodeStringLiteral w = Utf8.decode (flatten t) := by
  cases hb : build P m with
  | error e => simp [assemble, hb] at hO
  | ok Db =>
  rw [assemble_of_build hb] at hO
  cases hp : Db.pretty with
  | error e => simp [hp] at hO
  | ok out =>
  rw [hp] at hO
  cases hO
  have hDb := build_eq_foldl hP hb
  obtain ⟨D, hparse, hwf, hcompact, -⟩ := parse_pretty (wf_of_build hb) hp
  -- the document read back has the keys built, and values compacting as the values built
  have hkeys : D.keys = Db.keys := by
    rw [← keys_mapValues (f := keep {}), hcompact, keys_mapValues]
  have hvals := get?_map_compact (wf_of_build hb) hwf hcompact
  refine ⟨D, hparse, ?_, fun k hk => ?_, fun t ht => ?_⟩
  · rw [hkeys, hDb, keys_foldl_setRaw]
    cases m <;> simp [keys, Function.comp_def, manifestEntry]
  · -- the manifest entry, if any, has another key, so the probe's last value is read
    have hman : (m.toList.map manifestEntry).reverse.find? (·.1 == k) = none := by
      rcases hk with rfl | hk
      · rfl
      · cases m <;> simp [manifestEntry, Ne.symm hk]
    rw [hvals, hDb, get?_foldl_setRaw, List.reverse_append, List.find?_append, hman,
      Option.none_or, ← List.map_reverse, List.find?_map]
    simp [Function.comp_def, get?]
  · subst ht
    have hq := isString_quoteBytesWith false (flatten t)
    -- the value built is the written manifest, and the value read back compacts to it
    have hbuilt : Db.get? manifestKey = some (quoteBytesWith false (flatten t)) := by
      rw [hDb, get?_foldl_setRaw]
      simp [manifestEntry]
    have hk := congrArg (·.get? manifestKey) hcompact
    simp only [get?_mapValues, hbuilt, Option.map_some] at hk
    obtain ⟨w, hw, hkw⟩ := Option.map_eq_some_iff.mp hk
    rw [compactValue_eq hq.1, keep_string hq] at hkw
    have hweq := eq_of_keep_string (hwf.get? hw) hq hkw
    subst hweq
    exact ⟨_, hw, hq, le_of_mem_quoteBytesWith false _, fun a ha => count_quoteBytesWith ha _,
      decode_quoteBytesWith false _⟩

/-- The probe `{"a":"x"}`. -/
def probeA : List Member := [⟨[], quoteString "a", [], [], quoteString "x", []⟩]

/-- The contract for the probe `{"a":"x"}` and a manifest with a line break. -/
theorem assemble_contract_probeA :
    ∃ O, MembersOf (objectText probeA []) probeA ∧
      assemble (objectText probeA []) (some (Utf8.ofString "l1\r\nl2")) = .ok O ∧
      ∃ D, Document.parse O = .ok D ∧
        D.keys = (probeA.map Member.name ++
          if (some (Utf8.ofString "l1\r\nl2")).isSome then [manifestKey] else []).eraseDups ∧
        (∀ k, (some (Utf8.ofString "l1\r\nl2") = none ∨ k ≠ manifestKey) →
          (D.get? k).map compact =
            (probeA.reverse.find? (·.name == k)).map (compact <| Utf8.repair ·.value)) ∧
        ∀ t, some (Utf8.ofString "l1\r\nl2") = some t → ∃ w, D.get? manifestKey = some w ∧
          IsString w ∧ (∀ b ∈ w, 0x20 ≤ b) ∧ (∀ a ∈ htmlBytes, w.count a = (flatten t).count a) ∧
          decodeStringLiteral w = Utf8.decode (flatten t) := by
  have hP : MembersOf (objectText probeA []) probeA := by
    refine ⟨[], [], [], by simp, by simp, by simp, by simp, fun m hm => ?_⟩
    rw [probeA, List.mem_singleton] at hm
    subst hm
    exact ⟨by simp, isString_quoteString "a", by simp, by simp, (isString_quoteString "x").1, by simp⟩
  have hb : build (objectText probeA []) (some (Utf8.ofString "l1\r\nl2")) =
      .ok ((probeA.foldl Member.store {}).setRaw manifestKey
        (quoteBytesWith false (flatten (Utf8.ofString "l1\r\nl2")))) :=
    build_eq_ok.mpr ⟨_, parse_eq_ok_iff.mpr ⟨_, hP, rfl⟩, rfl⟩
  -- both values built are strings, which open no container
  have hfit : ∀ e ∈ (((probeA.foldl Member.store {}).setRaw manifestKey
      (quoteBytesWith false (flatten (Utf8.ofString "l1\r\nl2")))).entries),
      Scanner.peak {} e.2 < maxDepth := by
    intro e he
    simp only [probeA, List.foldl_cons, List.foldl_nil, Member.store, decode_quoteString,
      Utf8.repair_of_isValid (isValid_quoteString _)] at he
    rcases mem_setRaw he with he | rfl
    · rcases mem_setRaw he with he | rfl
      · cases he
      · rw [peak_string (isString_quoteString "x")]; decide
    · rw [peak_string (isString_quoteBytesWith false _)]; decide
  obtain ⟨O, hO⟩ := (pretty_ok_iff (wf_of_build hb)).mpr hfit
  have hA := (assemble_of_build hb).trans (by rw [hO])
  exact ⟨O, hP, hA, assemble_contract hP hA⟩

end Inventory
