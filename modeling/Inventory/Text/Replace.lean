import Inventory.Text.Utf8
/-!
# Replacing strings

A `Replacer` holds pairs of an old string and the new string that replaces it, in the order
they were given. `replace` reads a text from left to right. At each position the first pair,
in that order, whose old string starts there is taken: its new string is written and reading
goes on after the old string. Where no old string starts, the byte is copied. So matches never
overlap, and where two old strings start at one position (a carriage return, and a carriage
return followed by a line feed) the one given first wins, whatever the lengths. When one old
string is given twice, its first replacement is the one used.

An empty old string starts at every position, the end of the text included. Once it has been
taken at a position it is not taken again there: reading goes on with the first non-empty old
string that starts at that position, or with the byte copied.

The pass is `run`, structural on the text: it carries how many bytes of the last match are
still to be passed over. `replace_of_pick` and `replace_of_pick_none` say what it does at one
position when no old string is empty, which is all a proof about a given replacer needs.
-/

set_option autoImplicit false

namespace Inventory

/-- **A replacer**: pairs of an old string and its replacement, in the order given. -/
structure Replacer where
  pairs : List (Bytes × Bytes)

namespace Replacer

/-! ## 1. The pass -/

/-- The first pair whose old string starts `s`. Right after an empty old string has been taken
at this position (`afterEmpty`), the empty old strings are passed over. -/
def pick (r : Replacer) (afterEmpty : Bool) (s : Bytes) : Option (Bytes × Bytes) :=
  r.pairs.find? fun p => p.1.isPrefixOf s && !(afterEmpty && p.1.isEmpty)

/-- **One position**: what is written with the text `s` ahead, and how many bytes of `s` that
uses up. -/
def atPosition (r : Replacer) (s : Bytes) : Bytes × Nat :=
  match r.pick false s with
  | some (old, new) =>
    if old.isEmpty then
      -- the empty match uses up nothing, so this position is read again without it
      match r.pick true s with
      | some (old', new') => (new ++ new', old'.length)
      | none => (new ++ s.take 1, 1)
    else (new, old.length)
  | none => (s.take 1, 1)

/-- The pass from a position where `skip` bytes of the last match are still to be passed over. -/
def run (r : Replacer) : Nat → Bytes → Bytes
  | skip + 1, _ :: rest => r.run skip rest
  | _ + 1, [] => []
  | 0, [] => (r.atPosition []).1
  | 0, c :: rest => (r.atPosition (c :: rest)).1 ++ r.run ((r.atPosition (c :: rest)).2 - 1) rest

/-- **Replacing** every match in a text. -/
def replace (r : Replacer) (s : Bytes) : Bytes := r.run 0 s

/-- An empty old string is taken once at every position, the end included. -/
example : (Replacer.mk [([], [0x2D])]).replace [0x61, 0x62] = [0x2D, 0x61, 0x2D, 0x62, 0x2D] := by
  decide

/-! ## 2. One position at a time -/

/-- Passing over the rest of a match is dropping it. -/
theorem run_skip (r : Replacer) (s : Bytes) (k : Nat) (hk : k ≤ s.length) :
    r.run k s = r.replace (s.drop k) := by
  induction s generalizing k with
  | nil =>
    obtain rfl : k = 0 := by simpa using hk
    rfl
  | cons c rest ih =>
    cases k with
    | zero => rfl
    | succ k =>
      simp only [run, List.drop_succ_cons]
      exact ih k (by simpa using hk)

/-- Where the first pair that starts the text has a non-empty old string, its new string is
written and reading goes on after it. -/
theorem replace_of_pick (r : Replacer) (s old new : Bytes) (h : r.pick false s = some (old, new))
    (hold : old ≠ []) : r.replace s = new ++ r.replace (s.drop old.length) := by
  have hpre : old.isPrefixOf s = true := by
    have := List.find?_some h
    simp only [Bool.false_and, Bool.not_false, Bool.and_true] at this
    exact this
  have hlen : old.length ≤ s.length := (List.isPrefixOf_iff_prefix.mp hpre).length_le
  have hat : r.atPosition s = (new, old.length) := by
    simp [atPosition, h, List.isEmpty_iff, hold]
  cases s with
  | nil => simp_all
  | cons c rest =>
    obtain ⟨n, hn⟩ : ∃ n, old.length = n + 1 := Nat.exists_eq_succ_of_ne_zero (by simpa using hold)
    have hrest : n ≤ rest.length := by simp at hlen; omega
    simp only [replace, run, hat, hn, Nat.add_sub_cancel, List.drop_succ_cons]
    rw [run_skip r rest n hrest, replace]

/-- The pair given first wins where two old strings start at one position, whatever their
lengths. -/
example : (Replacer.mk [([0x61], [0x31]), ([0x61, 0x62], [0x32])]).replace [0x61, 0x62] =
    [0x31, 0x62] := by
  decide

/-- Where no old string starts the text, its first byte is copied. -/
theorem replace_of_pick_none (r : Replacer) (c : UInt8) (rest : Bytes)
    (h : r.pick false (c :: rest) = none) : r.replace (c :: rest) = c :: r.replace rest := by
  have hat : r.atPosition (c :: rest) = ([c], 1) := by simp [atPosition, h]
  simp [replace, run, hat]

/-- With no empty old string, the empty text is left empty. -/
theorem replace_nil (r : Replacer) (h : r.pick false [] = none) : r.replace [] = [] := by
  simp [replace, run, atPosition, h]

end Replacer

end Inventory
