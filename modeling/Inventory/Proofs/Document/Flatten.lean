import Inventory.Document.Assemble
/-!
# Flattening line breaks

`flatten` is the replacer of the three line breaks: a carriage return followed by a line feed,
a line feed, a carriage return, tried in that order. This module states the rule it follows as a
one-pass reference, `breaksToSpaces`: reading left to right, a carriage return followed by a line
feed becomes one space, a lone line feed or a lone carriage return becomes one space, and any
other byte is copied.

`flatten_contract` says the two agree on every byte string, with what follows from the rule: no
line break is left, every other byte is kept in order, and the runs carriage return, carriage
return, line feed and line feed, carriage return each give two spaces, the second wherever no
neighbour pairs with one of its bytes.

The proof reads the replacer one position at a time. At each of the four kinds of position the
reference's match tells apart, the first pair that starts the text is the one that arm names
(`lineBreaks_pick_pair` and its siblings), and the replacer's own step lemmas do the rest.
-/

set_option autoImplicit false

namespace Inventory

/-- **Line breaks to spaces**, the reference rule: a carriage return followed by a line feed is
one break, a lone line feed or a lone carriage return is one break each, and every break is one
space. -/
def breaksToSpaces : Bytes → Bytes
  | [] => []
  | 0x0D :: 0x0A :: rest => 0x20 :: breaksToSpaces rest
  | 0x0A :: rest => 0x20 :: breaksToSpaces rest
  | 0x0D :: rest => 0x20 :: breaksToSpaces rest
  | b :: rest => b :: breaksToSpaces rest

/-! ## 1. The replacer one position at a time -/

theorem lineBreaks_pick_pair (rest : Bytes) :
    lineBreaks.pick false (0x0D :: 0x0A :: rest) = some ([0x0D, 0x0A], [0x20]) := rfl

theorem lineBreaks_pick_feed (rest : Bytes) :
    lineBreaks.pick false (0x0A :: rest) = some ([0x0A], [0x20]) := rfl

/-- A carriage return that no line feed follows is taken alone: the pair does not start here,
and the line feed is not tried before it. -/
theorem lineBreaks_pick_return (rest : Bytes) (h : rest.head? ≠ some 0x0A) :
    lineBreaks.pick false (0x0D :: rest) = some ([0x0D], [0x20]) := by
  cases rest with
  | nil => rfl
  | cons b more =>
    have hb : b ≠ 0x0A := by simpa using h
    simp [Replacer.pick, lineBreaks, List.isPrefixOf, Ne.symm hb]

theorem lineBreaks_pick_other (b : UInt8) (rest : Bytes) (hr : b ≠ 0x0D) (hn : b ≠ 0x0A) :
    lineBreaks.pick false (b :: rest) = none := by
  simp [Replacer.pick, lineBreaks, Ne.symm hr, Ne.symm hn]

/-! ## 2. The reference -/

/-- Where the reference takes a carriage return alone, no line feed follows it. -/
theorem head?_ne_feed {rest : Bytes} (hpair : ∀ more, rest = 0x0A :: more → False) :
    rest.head? ≠ some 0x0A := by
  cases rest with
  | nil => simp
  | cons b more => simpa using fun hb => hpair more (by rw [hb])

theorem breaksToSpaces_feed (rest : Bytes) :
    breaksToSpaces (0x0A :: rest) = 0x20 :: breaksToSpaces rest := rfl

/-- A carriage return that no line feed follows is one break. -/
theorem breaksToSpaces_return (rest : Bytes) (h : rest.head? ≠ some 0x0A) :
    breaksToSpaces (0x0D :: rest) = 0x20 :: breaksToSpaces rest := by
  cases rest with
  | nil => rfl
  | cons b more =>
    have hb : b ≠ 0x0A := by simpa using h
    rw [breaksToSpaces.eq_def]
    split <;> simp_all

theorem breaksToSpaces_other (b : UInt8) (rest : Bytes) (hr : b ≠ 0x0D) (hn : b ≠ 0x0A) :
    breaksToSpaces (b :: rest) = b :: breaksToSpaces rest := by
  rw [breaksToSpaces.eq_def]
  split <;> simp_all

/-- **Flattening follows the reference rule** on every byte string; the induction follows the
reference's own arms. -/
theorem flatten_eq_breaksToSpaces (t : Bytes) : flatten t = breaksToSpaces t := by
  unfold flatten
  fun_induction breaksToSpaces t with
  | case1 => exact lineBreaks.replace_nil rfl
  | case2 rest ih =>
    rw [lineBreaks.replace_of_pick _ _ _ (lineBreaks_pick_pair rest) (by simp)]
    simp [ih]
  | case3 rest ih =>
    rw [lineBreaks.replace_of_pick _ _ _ (lineBreaks_pick_feed rest) (by simp)]
    simp [ih]
  | case4 rest hpair ih =>
    rw [lineBreaks.replace_of_pick _ _ _ (lineBreaks_pick_return rest (head?_ne_feed hpair))
      (by simp)]
    simp [ih]
  | case5 b rest _ hn hr ih =>
    rw [lineBreaks.replace_of_pick_none _ _ (lineBreaks_pick_other b rest hr hn), ih]

theorem cr_not_mem_breaksToSpaces (t : Bytes) : 0x0D ∉ breaksToSpaces t := by
  fun_induction breaksToSpaces t <;> simp_all [eq_comm]

theorem lf_not_mem_breaksToSpaces (t : Bytes) : 0x0A ∉ breaksToSpaces t := by
  fun_induction breaksToSpaces t <;> simp_all [eq_comm]

/-- Every byte that is no line break is kept, in order. -/
theorem filter_sublist_breaksToSpaces (t : Bytes) :
    List.Sublist (t.filter fun b => b != 0x0D && b != 0x0A) (breaksToSpaces t) := by
  fun_induction breaksToSpaces t with
  | case1 => simp
  | case2 rest ih => simpa using ih.cons 0x20
  | case3 rest ih => simpa using ih.cons 0x20
  | case4 rest _ ih => simpa using ih.cons 0x20
  | case5 b rest _ hn hr ih =>
    rw [List.filter_cons_of_pos (by simp; exact ⟨hr, hn⟩)]
    exact ih.cons_cons b

/-- **Flattening is local**: a text cut anywhere but between the two bytes of a carriage return
followed by a line feed flattens piece by piece. -/
theorem breaksToSpaces_append (s u : Bytes) (h : s.getLast? = some 0x0D → u.head? ≠ some 0x0A) :
    breaksToSpaces (s ++ u) = breaksToSpaces s ++ breaksToSpaces u := by
  -- the cut after `rest` is as good as the cut after `a :: rest`
  have last : ∀ (a : UInt8) (rest : Bytes), rest.getLast? = some 0x0D →
      (a :: rest).getLast? = some 0x0D := by
    intro a rest hl
    simp [List.getLast?_cons, hl]
  fun_induction breaksToSpaces s with
  | case1 => rfl
  | case2 rest ih =>
    simp [breaksToSpaces, ih fun hl => h (last _ _ (last _ _ hl))]
  | case3 rest ih =>
    simp [breaksToSpaces, ih fun hl => h (last _ _ hl)]
  | case4 rest hpair ih =>
    have hhead : (rest ++ u).head? ≠ some 0x0A := by
      cases rest with
      | nil => exact h rfl
      | cons b more => simpa using head?_ne_feed hpair
    rw [List.cons_append, breaksToSpaces_return _ hhead, ih fun hl => h (last _ _ hl)]
    rfl
  | case5 b rest _ hn hr ih =>
    rw [List.cons_append, breaksToSpaces_other b _ hr hn, ih fun hl => h (last _ _ hl)]
    rfl

/-! ## 3. The contract -/

/-- **Flattening**: the reference rule on every byte string, so no line break is left and every
other byte is kept in order. A carriage return, carriage return, line feed run becomes two spaces
wherever it stands, and so does a line feed, carriage return run unless a carriage return stands
before it or a line feed after it, either of which would pair with one of its bytes. -/
theorem flatten_contract (t : Bytes) :
    flatten t = breaksToSpaces t ∧ 0x0D ∉ flatten t ∧ 0x0A ∉ flatten t ∧
      List.Sublist (t.filter fun b => b != 0x0D && b != 0x0A) (flatten t) ∧
      (∀ s u : Bytes,
        flatten (s ++ [0x0D, 0x0D, 0x0A] ++ u) = flatten s ++ [0x20, 0x20] ++ flatten u) ∧
      (∀ s u : Bytes, s.getLast? ≠ some 0x0D → u.head? ≠ some 0x0A →
        flatten (s ++ [0x0A, 0x0D] ++ u) = flatten s ++ [0x20, 0x20] ++ flatten u) := by
  simp only [flatten_eq_breaksToSpaces]
  refine ⟨trivial, cr_not_mem_breaksToSpaces t, lf_not_mem_breaksToSpaces t,
    filter_sublist_breaksToSpaces t, ?_, ?_⟩
  · intro s u
    rw [List.append_assoc, breaksToSpaces_append s _ (by simp)]
    simp only [List.cons_append, List.nil_append]
    rw [breaksToSpaces_return _ (by simp)]
    simp [breaksToSpaces]
  · intro s u hs hu
    rw [List.append_assoc, breaksToSpaces_append s _ (fun h => absurd h hs)]
    simp only [List.cons_append, List.nil_append]
    rw [breaksToSpaces_feed, breaksToSpaces_return _ hu]
    simp

/-- The line feed, carriage return run on its own. -/
theorem flatten_contract_feed_return : flatten [0x0A, 0x0D] = [0x20, 0x20] :=
  (flatten_contract []).2.2.2.2.2 [] [] (by simp) (by simp)

end Inventory
