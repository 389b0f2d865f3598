import Inventory.Proofs.Document.Parse
import Inventory.Proofs.Document.Merge
/-!
# What the reader builds

A text the reader accepts is blanks, an object text and blanks (`exists_objectText_of_parse`),
and reading any such text files its members in order (`parse_objectText`). Together: the
document read is the left fold of `setRaw` over the members of the text, each key decoded and
each value repaired (`parse_eq_foldl_store`). By the laws of such folds
(`keys_foldl_setRaw`, `get?_foldl_setRaw`) the keys are the distinct decoded keys in order of
first occurrence, and each key reads the repaired value of the last member that names it.
Keys are compared after decoding, so two spellings of one key are one key.

The members of a text are named by `MembersOf`: the statement holds for every way of reading
the text as an object text, so it does not depend on choosing one.
-/

set_option autoImplicit false

namespace Inventory

open Json Document

/-! ## 1. The members of a text -/

/-- The key a member is filed under: its literal, decoded. -/
def Member.name (m : Member) : String := decodeStringLiteral m.key

/-- **`ms` are the members of `raw`**: the text is blanks, the object text of `ms` (blanks
inside when it has no member) and blanks, each member a key literal and one whole value. -/
def MembersOf (raw : Bytes) (ms : List Member) : Prop :=
  ∃ ws inner ws', raw = ws ++ objectText ms inner ++ ws' ∧ (∀ c ∈ ws, isBlank c = true) ∧
    (∀ c ∈ inner, isBlank c = true) ∧ (∀ c ∈ ws', isBlank c = true) ∧ ∀ m ∈ ms, m.Valid

/-- **Reading accepts exactly the texts with members**, and builds their fold. -/
theorem parse_eq_ok_iff {raw : Bytes} {D : Document} :
    Document.parse raw = .ok D ↔ ∃ ms, MembersOf raw ms ∧ D = ms.foldl Member.store {} := by
  constructor
  · intro h
    obtain ⟨ws, ms, inner, ws', hraw, hws, hin, hws', hms, hD⟩ := exists_objectText_of_parse h
    exact ⟨ms, ⟨ws, inner, ws', hraw, hws, hin, hws', hms⟩, hD⟩
  · rintro ⟨ms, ⟨ws, inner, ws', rfl, hws, hin, hws', hms⟩, rfl⟩
    exact parse_objectText hms hin hws hws'

/-! ## 2. The fold of the members -/

/-- Filing members is storing their decoded keys and repaired values. -/
theorem foldl_store_eq (ms : List Member) (d : Document) :
    ms.foldl Member.store d =
      (ms.map fun m => (m.name, Utf8.repair m.value)).foldl (fun acc e => acc.setRaw e.1 e.2) d := by
  rw [List.foldl_map]
  rfl

/-- **The keys read** are the distinct decoded keys in order of first occurrence. -/
theorem keys_foldl_store (ms : List Member) :
    (ms.foldl Member.store {}).keys = (ms.map Member.name).eraseDups := by
  rw [foldl_store_eq, keys_foldl_setRaw, List.map_map]
  simp [keys, Function.comp_def]

/-- **The value read under a key** is the repaired value of the last member naming it. -/
theorem get?_foldl_store (ms : List Member) (k : String) :
    (ms.foldl Member.store {}).get? k =
      (ms.reverse.find? (·.name == k)).map (Utf8.repair ·.value) := by
  rw [foldl_store_eq, get?_foldl_setRaw, ← List.map_reverse, List.find?_map, Option.map_map]
  simp [get?, Function.comp_def]

/-! ## 3. The document read -/

/-- **The reader builds the fold of the members.** For a text the reader accepts: it has
members, and for every reading of it as members, the document is `setRaw` of each decoded key
and repaired value in order; so its keys are the distinct decoded keys in first-occurrence
order, and each key reads the repaired value of the last member naming it. -/
theorem parse_eq_foldl_store {raw : Bytes} {D : Document} (h : Document.parse raw = .ok D) :
    (∃ ms, MembersOf raw ms) ∧ ∀ ms, MembersOf raw ms →
      D = ms.foldl Member.store {} ∧ D.keys = (ms.map Member.name).eraseDups ∧
        ∀ k, D.get? k = (ms.reverse.find? (·.name == k)).map (Utf8.repair ·.value) := by
  obtain ⟨ms₀, hms₀, -⟩ := parse_eq_ok_iff.mp h
  refine ⟨⟨ms₀, hms₀⟩, fun ms hms => ?_⟩
  -- every reading of the text as members is read to its own fold, and reading is a function
  have hD : D = ms.foldl Member.store {} := by
    have h' := parse_eq_ok_iff.mpr ⟨ms, hms, rfl⟩
    rw [h] at h'
    exact Except.ok.inj h'
  subst hD
  exact ⟨rfl, keys_foldl_store ms, get?_foldl_store ms⟩

/-- The literal `"\u0061"`: the key `a` written as an escape. -/
def escapedA : Bytes := 0x22 :: uEscape 0x61 ++ [0x22]

theorem decode_escapedA : decodeStringLiteral escapedA = "a" := by
  have h := unescape_uEscape (v := 0x61) (by decide) (by decide) []
  rw [List.append_nil] at h
  simp only [escapedA, decodeStringLiteral_quoted, h, unescape.eq_1]

/-- The members `"a":"x"` and ` "\u0061" :"y"`: one key written two ways. -/
def twoSpellings : List Member :=
  [⟨[], quoteString "a", [], [], quoteString "x", []⟩,
    ⟨[0x20], escapedA, [0x20], [], quoteString "y", []⟩]

/-- Reading `{"a":"x", "\u0061" :"y"}`: one key `a`, holding the last value. -/
theorem parse_twoSpellings :
    Document.parse (objectText twoSpellings []) = .ok ⟨[("a", quoteString "y")]⟩ ∧
      ((∃ ms, MembersOf (objectText twoSpellings []) ms) ∧
        ∀ ms, MembersOf (objectText twoSpellings []) ms →
          (⟨[("a", quoteString "y")]⟩ : Document) = ms.foldl Member.store {} ∧
          (⟨[("a", quoteString "y")]⟩ : Document).keys = (ms.map Member.name).eraseDups ∧
          ∀ k, (⟨[("a", quoteString "y")]⟩ : Document).get? k =
            (ms.reverse.find? (·.name == k)).map (Utf8.repair ·.value)) := by
  have hvalid : ∀ m ∈ twoSpellings, m.Valid := by
    intro m hm
    simp only [twoSpellings, List.mem_cons, List.not_mem_nil, or_false] at hm
    rcases hm with rfl | rfl
    · exact ⟨by simp, isString_quoteString "a", by simp, by simp, (isString_quoteString "x").1,
        by simp⟩
    · exact ⟨by simp [isBlank], isString_of_literalBody (Scanner.literalBody_uEscape 0x61),
        by simp [isBlank], by simp, (isString_quoteString "y").1, by simp⟩
  have hfold : twoSpellings.foldl Member.store {} = ⟨[("a", quoteString "y")]⟩ := by
    simp [twoSpellings, Member.store, decode_quoteString, decode_escapedA,
      Utf8.repair_of_isValid (isValid_quoteString _), setRaw]
  have h : Document.parse (objectText twoSpellings []) = .ok ⟨[("a", quoteString "y")]⟩ := by
    rw [← hfold]
    exact parse_eq_ok_iff.mpr ⟨_, ⟨[], [], [], by simp, by simp, by simp, by simp, hvalid⟩, rfl⟩
  exact ⟨h, parse_eq_foldl_store h⟩

end Inventory
