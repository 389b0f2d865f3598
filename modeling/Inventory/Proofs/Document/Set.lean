import Inventory.Proofs.Document.Invariant
import Inventory.Proofs.Json.Writable
/-!
# Setting a value

`Document.set k v` writes `v` and stores the text under `k`, or fails. It fails exactly when
writing fails, that is when one of the value's number literals is neither empty nor a number
text (`set_error_iff`). Writing comes first and storing second, so a failure leaves nothing
behind: the operation changes no document (`apply_set_of_error`), and a failed set inside a run
of operations is as if it were not there (`run_skip_failed_set`).

A set that succeeds stores the written text: the key keeps its place or is appended, it reads
the new text, and every other key reads as before (`keys_set`, `get?_set`). A number literal is
stored as written, and the empty literal as `0`; a string keeps `<`, `>` and `&` as they are.
-/

set_option autoImplicit false

namespace Inventory

open Json

namespace Document

variable {d d' : Document} {k : String} {v : Value}

/-! ## 1. Failure -/

/-- **Setting fails exactly when writing fails**, with the key and the writer's error. -/
theorem set_eq_error_iff {e : EncodeError} :
    d.set k v = .error e ↔ e.key = k ∧ v.write false = .error e.cause := by
  unfold set
  cases hw : v.write false with
  | ok raw => simp
  | error w =>
    obtain ⟨k', w'⟩ := e
    simp only [Except.error.injEq, EncodeError.mk.injEq]
    constructor <;> rintro ⟨rfl, rfl⟩ <;> exact ⟨rfl, rfl⟩

/-- **Setting fails exactly when a number literal of the value is refused.** -/
theorem set_error_iff :
    (∃ e, d.set k v = .error e) ↔ ∃ lit ∈ v.literals, lit ≠ "" ∧ ¬NumberText (Utf8.ofString lit) := by
  rw [← write_error_iff_refused false v]
  constructor
  · rintro ⟨e, he⟩
    exact ⟨e.cause, (set_eq_error_iff.mp he).2⟩
  · rintro ⟨w, hw⟩
    exact ⟨⟨k, w⟩, set_eq_error_iff.mpr ⟨rfl, hw⟩⟩

/-- A value that cannot be written leaves every document as it was. -/
theorem apply_set_of_error {w : WriteError} (hw : v.write false = .error w) (d : Document) :
    (Op.set k v).apply d = d := by
  simp [Op.apply, set, hw]

/-- **A failed set inside a run changes nothing**: the run reaches the document it reaches
without it. -/
theorem run_skip_failed_set {w : WriteError} (hw : v.write false = .error w) (ops ops' : List Op) :
    run (ops ++ Op.set k v :: ops') = run (ops ++ ops') := by
  simp only [run, List.foldl_append, List.foldl_cons, apply_set_of_error hw]

/-! ## 2. Success -/

/-- A set that succeeds stores what the writer wrote. -/
theorem set_eq_ok_iff : d.set k v = .ok d' ↔ ∃ raw, v.write false = .ok raw ∧ d' = d.setRaw k raw := by
  unfold set
  cases hw : v.write false with
  | ok raw => simp [eq_comm]
  | error w => simp

/-- **The keys after a set**: unchanged for a present key, the key appended otherwise. -/
theorem keys_set (h : d.set k v = .ok d') : d'.keys = if k ∈ d.keys then d.keys else d.keys ++ [k] := by
  obtain ⟨raw, -, rfl⟩ := set_eq_ok_iff.mp h
  exact keys_setRaw

/-- **The values after a set**: the key reads the written text, every other key as before. -/
theorem get?_set (h : d.set k v = .ok d') :
    ∃ raw, v.write false = .ok raw ∧ ∀ k', d'.get? k' = if k' = k then some raw else d.get? k' := by
  obtain ⟨raw, hw, rfl⟩ := set_eq_ok_iff.mp h
  exact ⟨raw, hw, fun _ => get?_setRaw⟩

/-- A number text is stored as written. -/
theorem get?_set_number {lit : String} (hlit : NumberText (Utf8.ofString lit)) :
    ∃ d', d.set k (.number lit) = .ok d' ∧ d'.get? k = some (Utf8.ofString lit) := by
  have hne : lit.isEmpty = false := by
    cases h : lit.isEmpty
    · rfl
    · rw [String.isEmpty_iff.mp h] at hlit
      obtain ⟨sign, int, frac, exp, heq, -, hi, -, -⟩ := hlit
      cases hi <;> simp_all [Utf8.ofString_eq_encode, Utf8.encode]
  have hw : (Value.number lit).write false = .ok (Utf8.ofString lit) := by
    simp [Value.write, hne, isLiteral_iff_numberText.mpr hlit]
  exact ⟨_, set_eq_ok_iff.mpr ⟨_, hw, rfl⟩, by simp [get?_setRaw]⟩

/-- The empty number literal is stored as `0`. -/
theorem get?_set_empty_number :
    ∃ d', d.set k (.number "") = .ok d' ∧ d'.get? k = some (Utf8.ofString "0") :=
  ⟨_, set_eq_ok_iff.mpr ⟨_, rfl, rfl⟩, by rw [get?_setRaw, if_pos rfl, Utf8.ofString_eq_encode]; decide⟩

/-- A string is stored with `<`, `>` and `&` as themselves, each as often as in the text. -/
theorem get?_set_string (s : String) :
    ∃ d', d.set k (.string s) = .ok d' ∧ ∃ raw, d'.get? k = some raw ∧
      ∀ a ∈ htmlBytes, raw.count a = (Utf8.ofString s).count a :=
  ⟨_, set_eq_ok_iff.mpr ⟨_, rfl, rfl⟩, quoteString s, by simp [get?_setRaw]; rfl,
    fun a ha => count_quoteString ha s⟩

/-! ## 3. The law -/

/-- **Setting a value either stores it or changes nothing.** A set fails exactly when a number
literal of the value is neither empty nor a number text; for a number, exactly when its literal
is such a text. A failure names the key and the writer's error and changes no document, not even
in the middle of a run of operations. A set that succeeds keeps the key list, or appends the
key when it is new; the key reads the written text, and every other key reads as before. A
number text is stored as written, the empty literal as `0`, and a string keeps `<`, `>` and `&`
unescaped. -/
theorem set_stores_or_changes_nothing (d : Document) (k : String) (v : Value) :
    ((∃ e, d.set k v = .error e) ↔ ∃ lit ∈ v.literals, lit ≠ "" ∧ ¬NumberText (Utf8.ofString lit)) ∧
    (∀ lit, (∃ e, d.set k (.number lit) = .error e) ↔ lit ≠ "" ∧ ¬NumberText (Utf8.ofString lit)) ∧
    (∀ e, d.set k v = .error e →
      e.key = k ∧ v.write false = .error e.cause ∧ (Op.set k v).apply d = d ∧
        ∀ ops ops', run (ops ++ Op.set k v :: ops') = run (ops ++ ops')) ∧
    (∀ d', d.set k v = .ok d' →
      d'.keys = (if k ∈ d.keys then d.keys else d.keys ++ [k]) ∧
      ∃ raw, v.write false = .ok raw ∧ d'.get? k = some raw ∧ ∀ k', k' ≠ k → d'.get? k' = d.get? k') ∧
    (∀ lit, NumberText (Utf8.ofString lit) →
      ∃ d', d.set k (.number lit) = .ok d' ∧ d'.get? k = some (Utf8.ofString lit)) ∧
    (∃ d', d.set k (.number "") = .ok d' ∧ d'.get? k = some (Utf8.ofString "0")) ∧
    (∀ s, ∃ d', d.set k (.string s) = .ok d' ∧ ∃ raw, d'.get? k = some raw ∧
      ∀ a ∈ htmlBytes, raw.count a = (Utf8.ofString s).count a) := by
  refine ⟨set_error_iff, fun lit => ?_, fun e he => ?_, fun d' hd' => ?_, fun _ hlit => get?_set_number hlit,
    get?_set_empty_number, get?_set_string⟩
  · rw [set_error_iff]
    simp [Value.literals]
  · obtain ⟨hk, hw⟩ := set_eq_error_iff.mp he
    exact ⟨hk, hw, apply_set_of_error hw d, run_skip_failed_set hw⟩
  · obtain ⟨raw, hw, hget⟩ := get?_set hd'
    refine ⟨keys_set hd', raw, hw, by simp [hget], fun k' hk' => by simp [hget, hk']⟩

/-- A literal with a leading zero is refused: setting it fails with the key and the literal, and a
run that tries it reaches what it reaches without it. -/
theorem set_refuses_leading_zero :
    empty.set "n" (.number "01") = .error ⟨"n", .invalidNumber "01"⟩ ∧
      ∀ ops ops', run (ops ++ Op.set "n" (.number "01") :: ops') = run (ops ++ ops') := by
  have he : empty.set "n" (.number "01") = .error ⟨"n", .invalidNumber "01"⟩ := rfl
  exact ⟨he, ((set_stores_or_changes_nothing empty "n" (.number "01")).2.2.1 _ he).2.2.2⟩

end Document

end Inventory
