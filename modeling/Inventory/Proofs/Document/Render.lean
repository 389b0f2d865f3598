import Inventory.Proofs.Document.Parse
/-!
# Writing a document and reading it back

`render` writes a document as an object text: each member is the quoted key, a colon and the
value compacted, with no blanks (`render_eq`). For a well-formed document:

* reading the text back gives the document with every value compacted (`parse_render`);
* the text is one value exactly when every value nests below the depth limit, the object
  taking one level (`isValue_render`); otherwise the machine refuses it, and so does the
  indented layout (`pretty_error`). So `pretty` succeeds exactly when every value fits
  (`pretty_ok_iff`);
* the indented text reads back as a document with the same compact text, so its indented text
  is the same again (`parse_pretty`).
-/

set_option autoImplicit false

namespace Inventory

open Json Json.Scanner Document

/-! ## 1. The written text is an object text -/

/-- Pieces written `{`, joined by commas, `}` are an object text of the pieces as members. -/
theorem objectText_nil_inner (ms : List Member) :
    objectText ms [] = 0x7B :: joinCommas (ms.map Member.text) ++ [0x7D] := by
  cases ms with
  | nil => rfl
  | cons m ms =>
    -- the members after the first, each behind a comma, then the brace
    have htail : ∀ (m : Member) (ms : List Member),
        joinCommas ((m :: ms).map Member.text) ++ [0x7D] = m.text ++ membersTail ms := by
      intro m ms
      induction ms generalizing m with
      | nil => simp [joinCommas, membersTail]
      | cons m' ms ih =>
        simp only [List.map_cons, joinCommas, List.append_assoc, List.cons_append, membersTail]
        rw [← ih m']
        rfl
    rw [objectText, List.cons_append, htail]

/-- The member `render` writes for an entry: the quoted key, a colon and the value compacted. -/
def entryMember (e : String × Bytes) : Member := ⟨[], quoteString e.1, [], [], compactValue e.2, []⟩

/-- **The compact text of a document is the object text of its entries.** -/
theorem render_eq (d : Document) : d.render = objectText (d.entries.map entryMember) [] := by
  rw [objectText_nil_inner, List.map_map, render]
  congr 3
  apply List.map_congr_left
  rintro ⟨k, v⟩ -
  simp [entryMember, Member.text]

/-- A stored value compacts without error. -/
theorem compactValue_eq {v : Bytes} (hv : IsValue v) : compactValue v = keep {} v := by
  have h : compact ([] ++ v ++ []) = .ok (keep {} v) := compact_eq (by simp) hv (by simp)
  simp only [List.nil_append, List.append_nil] at h
  simp [compactValue, h]

/-- The compact layout of valid UTF-8 is valid UTF-8: repair commutes with it. -/
theorem isValid_keep {v : Bytes} (hv : StoredValue v) : Utf8.isValid (keep {} v) = true := by
  have h : keep {} v = Utf8.repair (keep {} v) := by
    conv_lhs => rw [← Utf8.repair_of_isValid hv.utf8]
    exact keep_repair hv.value.inside
  rw [h]
  exact Utf8.isValid_repair _

theorem StoredValue.compact {v : Bytes} (hv : StoredValue v) : StoredValue (compactValue v) := by
  rw [compactValue_eq hv.value]
  exact ⟨isValue_keep hv.value, isValid_keep hv⟩

/-- A compacted stored value compacts to itself. -/
theorem compactValue_compactValue {v : Bytes} (hv : StoredValue v) :
    compactValue (compactValue v) = compactValue v := by
  rw [compactValue_eq hv.compact.value, compactValue_eq hv.value, keep_keep _ hv.value.inside]

section Entries

variable {e : String × Bytes}

theorem entryMember_valid (hv : StoredValue e.2) : (entryMember e).Valid :=
  ⟨by simp [entryMember], isString_quoteString e.1, by simp [entryMember], by simp [entryMember],
    hv.compact.value, by simp [entryMember]⟩

/-- An entry fits in the object exactly when its value nests below the limit. -/
theorem entryMember_fits_iff (hv : StoredValue e.2) :
    (entryMember e).Fits ↔ Scanner.peak {} e.2 < maxDepth := by
  simp only [Member.Fits, entryMember, compactValue_eq hv.value, peak_keep _ hv.value.inside]

/-- Reading an entry back files its key with its compacted value. -/
theorem store_entryMember (hv : StoredValue e.2) (d : Document) :
    (entryMember e).store d = d.setRaw e.1 (compactValue e.2) := by
  simp only [Member.store, entryMember, decode_quoteString,
    Utf8.repair_of_isValid hv.compact.utf8]

end Entries

variable {d : Document}

/-- **Reading back the compact text** of a well-formed document gives the document with every
value compacted. -/
theorem parse_render (hd : d.Wf) : Document.parse d.render = .ok (d.mapValues compactValue) := by
  have hms : ∀ m ∈ d.entries.map entryMember, m.Valid := by
    intro m hm
    obtain ⟨e, he, rfl⟩ := List.mem_map.mp hm
    exact entryMember_valid (hd.values e he)
  have h : Document.parse ([] ++ objectText (d.entries.map entryMember) [] ++ []) = .ok _ :=
    parse_objectText hms (by simp) (by simp) (by simp)
  rw [List.nil_append, List.append_nil, ← render_eq] at h
  rw [h, List.foldl_map]
  -- filing the entries in order rebuilds them, since each key is new when it comes
  have hfold : d.entries.foldl (fun acc e => (entryMember e).store acc) {} =
      (d.entries.map fun e => (e.1, compactValue e.2)).foldl
        (fun acc e => acc.setRaw e.1 e.2) {} := by
    rw [List.foldl_map]
    exact List.foldl_ext _ _ _ fun acc e he => store_entryMember (hd.values e he) acc
  have hnodup : ((d.entries.map fun e => (e.1, compactValue e.2)).map (·.1)).Nodup := by
    simpa [keys, Function.comp_def] using hd.nodup
  rw [hfold, foldl_setRaw_of_nodup hnodup (by simp [keys])]
  rfl

/-! ## 2. When the layouts succeed -/

theorem entryMembers_valid (hd : d.Wf) : ∀ m ∈ d.entries.map entryMember, m.Valid := by
  intro m hm
  obtain ⟨e, he, rfl⟩ := List.mem_map.mp hm
  exact entryMember_valid (hd.values e he)

/-- **The compact text is one value when every value fits below the limit.** -/
theorem isValue_render (hd : d.Wf) (hfit : ∀ e ∈ d.entries, Scanner.peak {} e.2 < maxDepth) :
    IsValue d.render := by
  rw [render_eq]
  refine isValue_objectText (fun m hm => ⟨entryMembers_valid hd m hm, ?_⟩) (by simp)
  obtain ⟨e, he, rfl⟩ := List.mem_map.mp hm
  exact (entryMember_fits_iff (hd.values e he)).mpr (hfit e he)

theorem pretty_eq (hd : d.Wf) (hfit : ∀ e ∈ d.entries, Scanner.peak {} e.2 < maxDepth) :
    d.pretty = .ok ((indentLoop {} false 0 [] d.render).reverse ++ [0x0A]) := by
  simp [pretty, indent_eq (isValue_render hd hfit), Except.map]

/-- **A value too deep for the object makes the indented layout fail**: the machine, which
counts the object too, refuses the compact text. -/
theorem pretty_error (hd : d.Wf) (hdeep : ∃ e ∈ d.entries, maxDepth ≤ Scanner.peak {} e.2) :
    ∃ err, d.pretty = .error err := by
  have hdeep' : ∃ m ∈ d.entries.map entryMember, ¬ m.Fits := by
    obtain ⟨e, he, hpeak⟩ := hdeep
    refine ⟨entryMember e, List.mem_map_of_mem he, ?_⟩
    rw [entryMember_fits_iff (hd.values e he)]
    omega
  have hrun := run_objectText_deep (entryMembers_valid hd) hdeep' [] []
  rw [List.append_nil, ← render_eq] at hrun
  obtain ⟨err, herr⟩ := checkValid_of_err hrun
  exact ⟨err, by simp [pretty, indent, herr, Except.map]⟩

/-- **The indented layout succeeds exactly when every value nests below the limit.** -/
theorem pretty_ok_iff (hd : d.Wf) :
    (∃ out, d.pretty = .ok out) ↔ ∀ e ∈ d.entries, Scanner.peak {} e.2 < maxDepth := by
  constructor
  · rintro ⟨out, hout⟩ e he
    by_contra hlt
    obtain ⟨err, herr⟩ := pretty_error hd ⟨e, he, Nat.le_of_not_lt hlt⟩
    rw [hout] at herr
    cases herr
  · intro hfit
    exact ⟨_, pretty_eq hd hfit⟩

/-! ## 3. Reading back the indented text -/

/-- A value's first byte is kept by the compact layout. -/
theorem Json.IsValue.head_keep {v : Bytes} (hv : IsValue v) : (keep {} v).head? = v.head? := by
  obtain ⟨c, r, rfl⟩ := List.exists_cons_of_ne_nil hv.ne_nil
  have hk : (({} : Scanner).step c).2.kept = true := by
    have h1 := hv.inside.1
    cases hcode : (({} : Scanner).step c).2
    case skipSpace =>
      have := (step_skipSpace good_start hcode).1
      rw [hv.lead c rfl] at this
      cases this
    case done => rw [hcode] at h1; cases h1
    all_goals rfl
  simp [keep, hk]

/-- The compact text is its own compact layout. -/
theorem keep_render (hd : d.Wf) (hfit : ∀ e ∈ d.entries, Scanner.peak {} e.2 < maxDepth) :
    keep {} d.render = d.render := by
  have h := isValue_render hd hfit
  rw [render_eq] at h ⊢
  rw [keep_objectText (fun m hm => ⟨entryMembers_valid hd m hm, ?_⟩) (by simp), List.map_map]
  · congr 1
    apply List.map_congr_left
    intro e he
    have hv := hd.values e he
    simp only [Function.comp_apply, Member.compact, entryMember, compactValue_eq hv.value,
      keep_keep _ hv.value.inside]
  · obtain ⟨e, he, rfl⟩ := List.mem_map.mp hm
    exact (entryMember_fits_iff (hd.values e he)).mpr (hfit e he)

/-- Compacting the values again changes nothing in the compact text. -/
theorem render_mapValues_compact (hd : d.Wf) : (d.mapValues compactValue).render = d.render := by
  rw [render_eq, render_eq]
  congr 1
  simp only [mapValues, List.map_map]
  apply List.map_congr_left
  intro e he
  simp [entryMember, compactValue_compactValue (hd.values e he)]

theorem Member.Valid.compact {m : Member} (hm : m.Valid) : m.compact.Valid :=
  ⟨by simp [Member.compact], hm.key, by simp [Member.compact], by simp [Member.compact],
    isValue_keep hm.value, by simp [Member.compact]⟩

/-- **Filing compacted members files the compacted values.** -/
theorem foldl_store_compact {ms : List Member} (hms : ∀ m ∈ ms, m.Valid) :
    ∀ d : Document, (ms.map Member.compact).foldl Member.store (d.mapValues (keep {})) =
      (ms.foldl Member.store d).mapValues (keep {}) := by
  induction ms with
  | nil => intro d; rfl
  | cons m ms ih =>
    intro d
    have hm := hms m (by simp)
    have hstore : m.compact.store (d.mapValues (keep {})) = (m.store d).mapValues (keep {}) := by
      simp only [Member.store, Member.compact, mapValues_setRaw,
        keep_repair hm.value.inside]
    rw [List.map_cons, List.foldl_cons, hstore, ih (fun m' h => hms m' (by simp [h])),
      List.foldl_cons]

/-- **Reading back the indented text** gives a well-formed document whose compacted values are
the compacted values of the document written, and whose indented text is the same. -/
theorem parse_pretty (hd : d.Wf) {out : Bytes} (h : d.pretty = .ok out) :
    ∃ D, Document.parse out = .ok D ∧ D.Wf ∧ D.mapValues (keep {}) = d.mapValues compactValue ∧
      D.pretty = .ok out := by
  have hfit := (pretty_ok_iff hd).mp ⟨out, h⟩
  have hv := isValue_render hd hfit
  rw [pretty_eq hd hfit, Except.ok.injEq] at h
  subst h
  -- the indented text is blanks and one value with the same compact layout
  obtain ⟨ws, w, hsplit, hws, hw, hkw⟩ := hv.indent_split
  rw [keep_render hd hfit] at hkw
  have hhead : w.head? = some 0x7B := by
    rw [← hw.head_keep, hkw, render]
    rfl
  obtain ⟨ms, inner, rfl, hin, hms⟩ := objectText_of_isValue hw hhead
  have hvalid : ∀ m ∈ ms, m.Valid := fun m hm => (hms m hm).1
  have hparse : Document.parse (ws ++ objectText ms inner ++ [0x0A]) = .ok _ :=
    parse_objectText hvalid hin hws (by simp [isBlank])
  have hwf := wf_foldl_store hvalid wf_empty
  -- the compact layout of the indented text is the compact text
  have hcompact : (ms.foldl Member.store {}).mapValues (keep {}) = d.mapValues compactValue := by
    have hvalid' : ∀ m ∈ ms.map Member.compact, m.Valid := by
      intro m hm
      obtain ⟨m', hm', rfl⟩ := List.mem_map.mp hm
      exact (hvalid m' hm').compact
    have hc : Document.parse ([] ++ objectText (ms.map Member.compact) [] ++ []) = .ok _ :=
      parse_objectText hvalid' (by simp) (by simp) (by simp)
    rw [List.nil_append, List.append_nil, ← keep_objectText hms hin, hkw, parse_render hd] at hc
    have h0 := foldl_store_compact hvalid {}
    rw [show ({} : Document).mapValues (keep {}) = {} from rfl] at h0
    rw [← h0]
    exact (Except.ok.inj hc).symm
  have hrender : (ms.foldl Member.store {}).render = d.render := by
    calc (ms.foldl Member.store {}).render
        = ((ms.foldl Member.store {}).mapValues compactValue).render :=
          (render_mapValues_compact hwf).symm
      _ = ((ms.foldl Member.store {}).mapValues (keep {})).render := by
          rw [mapValues_congr fun e he => compactValue_eq (hwf.values e he).value]
      _ = (d.mapValues compactValue).render := by rw [hcompact]
      _ = d.render := render_mapValues_compact hd
  refine ⟨_, by rw [hsplit]; exact hparse, hwf, hcompact, ?_⟩
  rw [pretty, hrender, ← pretty, pretty_eq hd hfit, hsplit]

/-! ## 4. The inventory document -/

/-- **What building gives**: the probe's document, with the manifest stored over it when there
is one. -/
theorem build_eq_ok {probe : Bytes} {manifest : Option Bytes} {D : Document} :
    build probe manifest = .ok D ↔ ∃ doc, Document.parse probe = .ok doc ∧
      D = match manifest with
        | some text => doc.setRaw manifestKey (quoteBytesWith false (flatten text))
        | none => doc := by
  unfold build
  cases hp : Document.parse probe with
  | error e => simp [bind, Except.bind]
  | ok doc =>
    cases manifest <;>
      simp [bind, Except.bind, merge_manifestDocument, eq_comm]

/-- **A built document is well formed.** -/
theorem wf_of_build {probe : Bytes} {manifest : Option Bytes} {D : Document}
    (h : build probe manifest = .ok D) : D.Wf := by
  obtain ⟨doc, hp, rfl⟩ := build_eq_ok.mp h
  cases manifest with
  | none => exact wf_of_parse hp
  | some text => exact (wf_of_parse hp).setRaw (storedValue_quoteBytesWith false _)

/-- Once built, assembling is the indented layout, its failure reported as a layout error. -/
theorem assemble_of_build {probe : Bytes} {manifest : Option Bytes} {D : Document}
    (h : build probe manifest = .ok D) :
    assemble probe manifest = match D.pretty with
      | .ok out => .ok out
      | .error e => .error (.layout e) := by
  rw [assemble, h]
  cases hp : D.pretty <;> simp [hp]

/-- **Assembling succeeds** exactly when building does and the built document lays out. -/
theorem assemble_eq_ok_iff {probe O : Bytes} {manifest : Option Bytes} :
    assemble probe manifest = .ok O ↔ ∃ D, build probe manifest = .ok D ∧ D.pretty = .ok O := by
  cases hb : build probe manifest with
  | error e => simp [assemble, hb]
  | ok D =>
    rw [assemble_of_build hb]
    cases hp : D.pretty <;> simp [hp]

end Inventory
