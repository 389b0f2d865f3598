import Inventory.Proofs.Document.Render
/-!
# Where reading and laying out disagree on depth

The document reader measures each member value with a machine of its own, so a value may open
`maxDepth` containers. The indented layout runs one machine over the whole document, in which
the object is one more level. So assembling fails after reading exactly when a stored value
reaches the limit (`assemble_layout_error_iff`): reading a probe does not ensure that it can be
laid out.

`nestedArrays n`, `n` opening brackets and then `n` closing ones, is a value in valid UTF-8
that opens `n` containers (`isValue_nestedArrays`, `isValid_nestedArrays`); a probe whose one
member holds it at `n = maxDepth` is read and cannot be laid out
(`deepProbe_reads_but_fails_layout`).
-/

set_option autoImplicit false

namespace Inventory

open Json Json.Scanner Document

/-! ## 1. Nested arrays -/

/-- `n` opening brackets and `n` closing ones: arrays nested `n` deep. -/
def nestedArrays (n : Nat) : Bytes := List.replicate n 0x5B ++ List.replicate n 0x5D

namespace Json.Scanner

/-- The machine inside `j` open arrays, before any element. -/
def arraysOpen (j : Nat) : Scanner :=
  { phase := .beginValueOrEmpty, stack := List.replicate j .arrayValue, depth := j }

/-- The machine inside `j` open arrays, after an element. -/
def arraysAfter (j : Nat) : Scanner :=
  { phase := .endValue, stack := List.replicate j .arrayValue, depth := j }

/-- An opening bracket inside open arrays, or at the start, within the limit, opens one more. -/
theorem step_openArray {j : Nat} (hj : j + 1 ≤ maxDepth) :
    (if j = 0 then ({} : Scanner) else arraysOpen j).step 0x5B =
      (arraysOpen (j + 1), .beginArray) := by
  have h : (arraysOpen j).atBeginValue 0x5B = (arraysOpen (j + 1), .beginArray) := by
    simp [atBeginValue, push, arraysOpen, isBlank, hj, List.replicate_succ]
  split
  · subst_vars
    simp [step, atBeginValue, push, arraysOpen, isBlank, maxDepth]
  · rw [← h]
    rfl

/-- **Opening brackets** from the start, `n` of them within the limit. -/
theorem feed_openArrays {n : Nat} (hn : n ≤ maxDepth) :
    Inside {} (List.replicate n 0x5B) ∧ ({} : Scanner).feed (List.replicate n 0x5B) =
      (if n = 0 then {} else arraysOpen n) ∧
      Scanner.peak {} (List.replicate n 0x5B) = n := by
  induction n with
  | zero => exact ⟨trivial, rfl, rfl⟩
  | succ n ih =>
    obtain ⟨h1, h2, h3⟩ := ih (by omega)
    have hstep := step_openArray (j := n) hn
    have hd : (if n = 0 then ({} : Scanner) else arraysOpen n).depth ≤ n := by
      split <;> simp [arraysOpen]
    rw [List.replicate_succ', inside_append, feed_append, peak_append, h2]
    refine ⟨⟨h1, by rw [inside_cons, hstep]; exact ⟨rfl, trivial⟩⟩, ?_, ?_⟩
    · simp [hstep]
    · simp only [peak, hstep, h3]
      show max n (max _ (n + 1)) = n + 1
      omega

/-- A closing bracket after the elements of `j + 1` open arrays closes one, ending the value at
the last. -/
theorem step_closeArray (j : Nat) :
    (arraysAfter (j + 1)).step 0x5D =
      (if j = 0 then objectDone else arraysAfter j, .endArray) ∧
    (arraysOpen (j + 1)).step 0x5D = (arraysAfter (j + 1)).step 0x5D := by
  cases j with
  | zero => exact ⟨rfl, rfl⟩
  | succ j =>
    refine ⟨?_, rfl⟩
    simp [step, atEndValue, isBlank, pop, arraysAfter, List.replicate_succ]

/-- **Closing brackets** after `j` arrays' elements close them all and end the value. -/
theorem feed_closeArrays (j : Nat) :
    Inside (arraysAfter (j + 1)) (List.replicate (j + 1) 0x5D) ∧
      (arraysAfter (j + 1)).feed (List.replicate (j + 1) 0x5D) = objectDone ∧
      (arraysAfter (j + 1)).peak (List.replicate (j + 1) 0x5D) = j + 1 := by
  induction j with
  | zero =>
    simp only [List.replicate, inside_cons, feed_cons, peak, (step_closeArray 0).1]
    exact ⟨⟨rfl, trivial⟩, rfl, rfl⟩
  | succ j ih =>
    obtain ⟨h1, h2, h3⟩ := ih
    rw [List.replicate_succ, inside_cons, feed_cons, peak, (step_closeArray (j + 1)).1]
    simp only [Nat.add_one_ne_zero, ↓reduceIte]
    refine ⟨⟨rfl, h1⟩, h2, ?_⟩
    rw [h3]
    simp [arraysAfter]

end Json.Scanner

/-- **Arrays nested `n` deep are one value**, for `n` from one up to the limit. -/
theorem isValue_nestedArrays {n : Nat} (h0 : 0 < n) (hn : n ≤ maxDepth) :
    IsValue (nestedArrays n) ∧ Scanner.peak {} (nestedArrays n) = n := by
  obtain ⟨j, rfl⟩ : ∃ j, n = j + 1 := ⟨n - 1, by omega⟩
  obtain ⟨o1, o2, o3⟩ := feed_openArrays hn
  obtain ⟨c1, c2, c3⟩ := feed_closeArrays j
  simp only [Nat.add_one_ne_zero, ↓reduceIte] at o2
  -- the first closing bracket is read as after an element
  have hclose : ∀ {x : Bytes}, (arraysOpen (j + 1)).Inside (0x5D :: x) ↔
      (arraysAfter (j + 1)).Inside (0x5D :: x) := by
    intro x
    simp only [inside_cons, (step_closeArray j).2]
  have hfeed : ∀ x : Bytes, (arraysOpen (j + 1)).feed (0x5D :: x) =
      (arraysAfter (j + 1)).feed (0x5D :: x) := by
    intro x
    simp only [feed_cons, (step_closeArray j).2]
  have hpeak : ∀ x : Bytes, (arraysOpen (j + 1)).peak (0x5D :: x) =
      (arraysAfter (j + 1)).peak (0x5D :: x) := by
    intro x
    simp only [peak, (step_closeArray j).2]
    rfl
  rw [List.replicate_succ] at c1 c2 c3
  refine ⟨⟨?_, ?_, ?_⟩, ?_⟩
  · rw [nestedArrays, inside_append, o2]
    exact ⟨o1, hclose.mpr c1⟩
  · rw [nestedArrays, feed_append, o2]
    exact (hfeed _ ▸ c2) ▸ objectDone_ended
  · simp [nestedArrays, List.replicate_succ, isBlank]
  · rw [nestedArrays, peak_append, o3, o2]
    show max (j + 1) ((arraysOpen (j + 1)).peak (0x5D :: List.replicate j 0x5D)) = j + 1
    rw [hpeak, c3, Nat.max_self]

theorem isValid_nestedArrays (n : Nat) : Utf8.isValid (nestedArrays n) = true := by
  apply Utf8.isValid_ascii
  intro b hb
  simp only [nestedArrays, List.mem_append, List.mem_replicate] at hb
  rcases hb with ⟨-, rfl⟩ | ⟨-, rfl⟩ <;> decide

/-! ## 2. Assembling a probe that was read -/

/-- **After reading, assembling fails only in the layout, and exactly when a stored value reaches
the depth limit.** -/
theorem assemble_error_iff_deep_value {probe : Bytes} {manifest : Option Bytes} {D : Document}
    (hD : build probe manifest = .ok D) :
    (∀ err, assemble probe manifest = .error err → ∃ e, err = .layout e) ∧
      ((∃ err, assemble probe manifest = .error err) ↔
        ∃ k v, D.get? k = some v ∧ maxDepth ≤ Scanner.peak {} v) := by
  have hd := wf_of_build hD
  rw [assemble_of_build hD]
  refine ⟨fun err h => ?_, ⟨?_, ?_⟩⟩
  · cases hp : D.pretty with
    | ok out => simp [hp] at h
    | error e => exact ⟨e, by simpa [hp, eq_comm] using h⟩
  · rintro ⟨err, h⟩
    -- the layout failed, so by its exact condition some value does not fit below the limit
    have hno : ¬ ∀ e ∈ D.entries, Scanner.peak {} e.2 < maxDepth := by
      rw [← pretty_ok_iff hd]
      rintro ⟨out, hout⟩
      simp [hout] at h
    simp only [not_forall, not_lt, exists_prop] at hno
    obtain ⟨e, he, hle⟩ := hno
    exact ⟨e.1, e.2, hd.get?_of_mem he, hle⟩
  · rintro ⟨k, v, hget, hle⟩
    obtain ⟨err, herr⟩ := pretty_error hd ⟨(k, v), mem_of_get? hget, hle⟩
    exact ⟨.layout err, by simp [herr]⟩

/-- The one member `"a":` followed by arrays nested to the limit. -/
def deepMember : Member := ⟨[], quoteString "a", [], [], nestedArrays maxDepth, []⟩

/-- The probe `{"a":[[…]]}` with arrays nested `maxDepth` deep. -/
def deepProbe : Bytes := objectText [deepMember] []

/-- What the deep probe reads as. -/
def deepDocument : Document := { entries := [("a", nestedArrays maxDepth)] }

theorem parse_deepProbe : Document.parse deepProbe = .ok deepDocument := by
  have hm : deepMember.Valid :=
    ⟨by simp [deepMember], isString_quoteString "a", by simp [deepMember], by simp [deepMember],
      (isValue_nestedArrays (by decide) le_rfl).1, by simp [deepMember]⟩
  have h : Document.parse ([] ++ objectText [deepMember] [] ++ []) = .ok _ :=
    parse_objectText (fun m hm' => by rw [List.mem_singleton.mp hm']; exact hm)
      (by simp) (by simp) (by simp)
  rw [List.nil_append, List.append_nil] at h
  rw [deepProbe, h]
  simp [Member.store, deepMember, decode_quoteString, Utf8.repair_of_isValid (isValid_nestedArrays _),
    setRaw_of_not_mem, deepDocument, keys]

/-- Assembling the deep probe fails, as the exact condition predicts. -/
theorem deepProbe_assemble_fails :
    build deepProbe none = .ok deepDocument ∧ ∃ err, assemble deepProbe none = .error err := by
  have hb : build deepProbe none = .ok deepDocument := build_eq_ok.mpr ⟨_, parse_deepProbe, rfl⟩
  refine ⟨hb, (assemble_error_iff_deep_value hb).2.mpr ⟨"a", nestedArrays maxDepth, rfl, ?_⟩⟩
  exact (isValue_nestedArrays (by decide) le_rfl).2.ge

/-- **A probe that is read and cannot be laid out**: the deep probe is accepted by the reader,
and assembling it reports a layout error. -/
theorem deepProbe_reads_but_fails_layout :
    (∃ D, Document.parse deepProbe = .ok D) ∧ ∃ e, assemble deepProbe none = .error (.layout e) := by
  have hb : build deepProbe none = .ok deepDocument := build_eq_ok.mpr ⟨_, parse_deepProbe, rfl⟩
  have hdeep : ∃ e ∈ deepDocument.entries, maxDepth ≤ Scanner.peak {} e.2 :=
    ⟨_, List.mem_singleton_self _, (isValue_nestedArrays (by decide) le_rfl).2.ge⟩
  obtain ⟨err, herr⟩ := pretty_error (wf_of_build hb) hdeep
  exact ⟨⟨_, parse_deepProbe⟩, err, by rw [assemble_of_build hb, herr]⟩

end Inventory
