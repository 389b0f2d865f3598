import Inventory.Summary
import Inventory.Proofs.Json.Repair
import Mathlib.Data.List.Forall2
/-!
# The geometry of a summary box

A summary is a box of lines 60 characters wide, whatever the texts inside hold: a probe command
of any script, with line breaks or with bytes that are not UTF-8, keys of any length. Widths
count characters as UTF-8 reads them, each byte that starts no well-formed sequence counting as
one, which is what the padding counts too.

Every line of a box ends in a line break and holds none (`BoxLines`): the three lines of its
head, one row for each line of the content, and the bottom border. A row frames what it shows
between `│ ` and ` │`, padded with spaces: the content line itself when it has at most 56
characters, and otherwise its first 53 characters and `...` (`Shows`). The padding fills each
row to exactly 60 characters because the cut line never has more than 56 (`runeCount_truncate_le`)
and the frame splits cleanly from what it holds: a byte below `0x80` ends any sequence before it
(`Utf8.chars_append_ascii`).

A collection's summary ends with its key section: for keys without line breaks, its last lines
are a blank line, the count of the keys, the first five of them, and a line counting the rest
exactly when there are more than five (`keyLines`).
-/

set_option autoImplicit false

namespace Inventory

/-! ## 1. Characters of joined bytes -/

namespace Utf8

/-- **Reading encoded characters** gives them back, and goes on with what follows. -/
theorem chars_encode_append (cs : List Char) (rest : Bytes) :
    chars (encode cs ++ rest) = cs ++ chars rest := by
  induction cs with
  | nil => simp [encode]
  | cons c cs ih =>
    simp only [encode, List.flatMap_cons, List.append_assoc] at ih ⊢
    rw [chars_encodeChar_append, ih, List.cons_append]

theorem runeCount_encode (cs : List Char) : runeCount (encode cs) = cs.length := by
  rw [runeCount, chars_encode]

theorem encode_append (a b : List Char) : encode (a ++ b) = encode a ++ encode b :=
  List.flatMap_append

/-- Spaces are their own bytes. -/
theorem encode_replicate_space (n : Nat) : encode (List.replicate n ' ') = List.replicate n 0x20 := by
  induction n with
  | zero => rfl
  | succ n ih =>
    rw [List.replicate_succ, List.replicate_succ, ← List.singleton_append, encode_append, ih]
    rfl

/-- **Text that starts with a space** is read apart from what stands before it. -/
theorem chars_append_space (s : Bytes) (cs : List Char) :
    chars (s ++ encode (' ' :: cs)) = chars s ++ ' ' :: cs := by
  have hsp : encode (' ' :: cs) = 0x20 :: encode cs := by
    rw [← List.singleton_append, encode_append]
    rfl
  rw [hsp, chars_append_ascii (by decide) (encode cs) s, chars_encode]
  rfl

/-- **An ASCII byte of a repaired text** stood in the text: repair keeps ASCII bytes and turns
runs of bytes from `0x80` up into such runs. -/
theorem mem_of_mem_repair {a : UInt8} (ha : a < 0x80) :
    ∀ {l : Bytes}, a ∈ repair l → a ∈ l := by
  intro l
  induction hn : l.length using Nat.strongRecOn generalizing l with
  | _ n ih =>
    obtain ⟨h, rest, rfl, hh, hr⟩ := exists_high_split l
    have hlow : ∀ b ∈ repair h, a ≠ b := fun b hb hab => by
      have := repair_high hh b hb
      subst hab
      exact absurd ha (by simpa [UInt8.le_iff_toNat_le, UInt8.lt_iff_toNat_lt] using this)
    intro hm
    cases rest with
    | nil =>
      rw [List.append_nil] at hm
      exact absurd rfl (hlow a hm)
    | cons c rest =>
      rw [repair_append_ascii (hr c rfl)] at hm
      rcases List.mem_append.mp hm with hm | hm
      · exact absurd rfl (hlow a hm)
      · rcases List.mem_cons.mp hm with rfl | hm
        · simp
        · have := ih rest.length (by simp only [← hn, List.length_append, List.length_cons]; omega)
            rfl hm
          simp [this]

/-- A line break is among encoded characters' bytes exactly when it is among the characters. -/
theorem newline_mem_encode_iff (cs : List Char) : (0x0A : UInt8) ∈ encode cs ↔ '\n' ∈ cs := by
  induction cs with
  | nil => simp [encode]
  | cons c cs ih =>
    rw [← List.singleton_append, encode_append, List.mem_append, ih, List.mem_append]
    have hc := count_encodeChar (a := 0x0A) (by decide) c
    have : (0x0A : UInt8) ∈ encode [c] ↔ c = '\n' := by
      rw [← List.count_pos_iff]
      simp only [encode, List.flatMap_cons, List.flatMap_nil, List.append_nil, hc]
      constructor
      · intro h
        apply Char.toNat_inj.mp
        split at h <;> simp_all
      · rintro rfl
        simp
    simp [this, eq_comm]

end Utf8

namespace Summary

open Utf8

/-! ## 2. Cutting a line -/

/-- A line that fits is kept. -/
theorem truncate_of_le {s : Bytes} {w : Nat} (h : runeCount s ≤ w) : truncate s w = s := by
  simp [truncate, h]

/-- **A cut line** reads as the line's first `w - 3` characters and three dots. -/
theorem chars_truncate {s : Bytes} {w : Nat} (h : w < runeCount s) :
    chars (truncate s w) = (chars s).take (w - 3) ++ ['.', '.', '.'] := by
  rw [truncate, if_neg (by omega), ofString_eq_encode, chars_encode_append, chars_encode]
  rfl

/-- A cut line is valid UTF-8. -/
theorem isValid_truncate {s : Bytes} {w : Nat} (h : w < runeCount s) : isValid (truncate s w) = true := by
  rw [truncate, if_neg (by omega), ofString_eq_encode, ← encode_append]
  exact isValid_encode _

/-- **A cut line has at most `w` characters**, for a width that holds the three dots. -/
theorem runeCount_truncate_le (s : Bytes) {w : Nat} (hw : 3 ≤ w) : runeCount (truncate s w) ≤ w := by
  by_cases h : runeCount s ≤ w
  · rw [truncate_of_le h]
    exact h
  · have hlen : (chars s).length = runeCount s := rfl
    rw [runeCount, chars_truncate (by omega), List.length_append, List.length_take]
    simp only [List.length_cons, List.length_nil]
    omega

/-- Cutting a line adds no line break. -/
theorem newline_not_mem_truncate {s : Bytes} (hs : (0x0A : UInt8) ∉ s) (w : Nat) :
    (0x0A : UInt8) ∉ truncate s w := by
  by_cases h : runeCount s ≤ w
  · rwa [truncate_of_le h]
  · rw [truncate, if_neg h, List.mem_append]
    rintro (hm | hm)
    · -- the characters kept are a prefix of the repaired line, which has no line break
      apply hs
      apply mem_of_mem_repair (by decide)
      have : encode ((chars s).take (w - 3)) ++ encode ((chars s).drop (w - 3)) = repair s := by
        rw [← encode_append, List.take_append_drop]
        rfl
      rw [← this]
      exact List.mem_append_left _ hm
    · revert hm
      decide +kernel

/-! ## 3. The lines of a box -/

/-- Lines joined, each ended by a line break. -/
def joinLines (ls : List Bytes) : Bytes := ls.flatMap (· ++ [0x0A])

/-- **A row shows a content line**: framed between `│ ` and ` │` and padded with spaces, the line
itself when it has at most 56 characters, and otherwise its first 53 characters and three dots,
written as valid UTF-8. -/
def Shows (line row : Bytes) : Prop :=
  ∃ shown pad : Bytes, row = ofString "│ " ++ shown ++ pad ++ ofString " │" ∧ (∀ b ∈ pad, b = 0x20) ∧
    ((runeCount line ≤ 56 ∧ shown = line) ∨
      (56 < runeCount line ∧ chars shown = (chars line).take 53 ++ ['.', '.', '.'] ∧
        isValid shown = true))

/-- **The lines of a box showing `content`**: each is `boxWidth` characters wide and holds no line
break; three lines of head, a row showing each content line, and the bottom border. -/
def BoxLines (content : List Bytes) (out : Bytes) : Prop :=
  ∃ head rows : List Bytes, ∃ foot : Bytes, out = joinLines (head ++ rows ++ [foot]) ∧
    head.length = 3 ∧ (∀ l ∈ head ++ rows ++ [foot], (0x0A : UInt8) ∉ l ∧ runeCount l = boxWidth) ∧
    List.Forall₂ Shows content rows

/-- A line of a box without its line break: the text framed and padded to 56 characters. -/
def frame (s : Bytes) : Bytes := ofString "│ " ++ padRight s 56 ++ ofString " │"

theorem boxLine_eq (s : Bytes) : boxLine s = frame s ++ [0x0A] := by
  have h : ofString " │\n" = ofString " │" ++ [0x0A] := by decide +kernel
  simp only [boxLine, frame, h, List.append_assoc]
  rfl

/-- **A framed line is 60 characters wide** when what it holds has at most 56. -/
theorem runeCount_frame {s : Bytes} (h : runeCount s ≤ 56) : runeCount (frame s) = boxWidth := by
  have hl : ofString "│ " = encode ['│', ' '] := by decide +kernel
  have hr : ofString " │" = encode [' ', '│'] := by decide +kernel
  -- the padding and the right side are spaces and a bar, read apart from what is framed
  have hpad : List.replicate (56 - runeCount s) ' ' ++ [' ', '│'] =
      ' ' :: (List.replicate (56 - runeCount s) ' ' ++ ['│']) := by
    rw [show [' ', '│'] = [' '] ++ ['│'] from rfl, ← List.append_assoc, ← List.replicate_succ',
      List.replicate_succ, List.cons_append]
  have htail : padRight s 56 ++ ofString " │" =
      s ++ encode (' ' :: (List.replicate (56 - runeCount s) ' ' ++ ['│'])) := by
    rw [padRight, hr, ← encode_replicate_space, List.append_assoc, ← encode_append, hpad]
  rw [frame, List.append_assoc, htail, hl, runeCount, chars_encode_append, chars_append_space]
  simp only [List.length_append, List.length_cons, List.length_nil, List.length_replicate,
    boxWidth]
  have : (chars s).length = runeCount s := rfl
  omega

/-- A framed line holds a line break only where what it frames does. -/
theorem newline_not_mem_frame {s : Bytes} (h : (0x0A : UInt8) ∉ s) : (0x0A : UInt8) ∉ frame s := by
  have hl : (0x0A : UInt8) ∉ ofString "│ " := by decide +kernel
  have hr : (0x0A : UInt8) ∉ ofString " │" := by decide +kernel
  simp only [frame, padRight, List.mem_append, List.mem_replicate, not_or]
  exact ⟨⟨hl, h, fun ⟨_, hb⟩ => absurd hb (by decide)⟩, hr⟩

/-- **A border line** of corners and 58 bars is 60 characters wide and holds no line break. -/
theorem border_line {a b : Char} (ha : a ≠ '\n') (hb : b ≠ '\n') :
    (0x0A : UInt8) ∉ encode ([a] ++ List.replicate 58 '─' ++ [b]) ∧
      runeCount (encode ([a] ++ List.replicate 58 '─' ++ [b])) = boxWidth := by
  refine ⟨?_, by simp [runeCount_encode, boxWidth]⟩
  rw [newline_mem_encode_iff]
  simp only [List.mem_append, List.mem_singleton, List.mem_replicate, not_or]
  exact ⟨⟨ha.symm, fun ⟨_, h⟩ => absurd h (by decide)⟩, hb.symm⟩

theorem ofString_border (a b : String) (ca cb : Char) (ha : a.toList = [ca]) (hb : b.toList = [cb]) :
    ofString a ++ border ++ ofString b = encode ([ca] ++ List.replicate 58 '─' ++ [cb]) := by
  rw [ofString_eq_encode, ofString_eq_encode, ha, hb, border, encode_append, encode_append]
  rfl

/-- No piece of a text split at line breaks holds one. -/
theorem not_mem_of_mem_splitOn {a : UInt8} : ∀ {xs l : Bytes}, l ∈ xs.splitOn a → a ∉ l
  | [], l, hl => by
    rw [List.splitOn_nil, List.mem_singleton] at hl
    subst hl
    simp
  | x :: xs, l, hl => by
    rw [List.splitOn_cons_eq_if_modifyHead] at hl
    split at hl
    · rcases List.mem_cons.mp hl with rfl | hl
      · simp
      · exact not_mem_of_mem_splitOn hl
    · obtain ⟨p, ps, hps⟩ := List.exists_cons_of_ne_nil (List.splitOn_ne_nil a xs)
      rw [hps, List.modifyHead_cons] at hl
      rcases List.mem_cons.mp hl with rfl | hl
      · have hp : a ∉ p := not_mem_of_mem_splitOn (by rw [hps]; exact List.mem_cons_self)
        simp only [List.mem_cons, not_or]
        exact ⟨fun h => by simp_all, hp⟩
      · exact not_mem_of_mem_splitOn (by rw [hps]; exact List.mem_cons_of_mem _ hl)

/-- **A box is its head, a row for each content line, and its bottom border.** -/
theorem box_eq (title content : Bytes) :
    box title content = joinLines ([ofString "┌" ++ border ++ ofString "┐", frame title,
      ofString "├" ++ border ++ ofString "┤"] ++ (content.splitOn 0x0A).map (fun l => frame (truncate l 56)) ++
      [ofString "└" ++ border ++ ofString "┘"]) := by
  have h1 : ofString "┐\n" = ofString "┐" ++ [0x0A] := by decide +kernel
  have h2 : ofString "┤\n" = ofString "┤" ++ [0x0A] := by decide +kernel
  have h3 : ofString "┘\n" = ofString "┘" ++ [0x0A] := by decide +kernel
  simp only [box, joinLines, boxLine_eq, h1, h2, h3, List.flatMap_append, List.flatMap_cons,
    List.flatMap_nil, List.flatMap_map, List.flatten_eq_flatMap, List.append_assoc, List.append_nil]
  rfl

/-- Each content line is shown by its row. -/
theorem shows_frame (l : Bytes) : Shows l (frame (truncate l 56)) := by
  refine ⟨truncate l 56, List.replicate (56 - runeCount (truncate l 56)) 0x20,
    by simp [frame, padRight, List.append_assoc], fun b hb => (List.mem_replicate.1 hb).2, ?_⟩
  by_cases h : runeCount l ≤ 56
  · exact .inl ⟨h, truncate_of_le h⟩
  · exact .inr ⟨by omega, chars_truncate (by omega), isValid_truncate (by omega)⟩

/-- **Every line of a box is 60 characters wide**, whatever its content, for a title of at most
56 characters and no line break. -/
theorem box_lines {title : Bytes} (ht : runeCount title ≤ 56) (hn : (0x0A : UInt8) ∉ title)
    (content : Bytes) : BoxLines (content.splitOn 0x0A) (box title content) := by
  refine ⟨_, _, _, box_eq title content, rfl, ?_, ?_⟩
  · intro l hl
    simp only [List.mem_append, List.mem_cons, List.mem_map, List.not_mem_nil, or_false] at hl
    rcases hl with ((rfl | rfl | rfl) | ⟨x, hx, rfl⟩) | rfl
    · rw [ofString_border "┌" "┐" '┌' '┐' (by simp) (by simp)]
      exact border_line (by decide) (by decide)
    · exact ⟨newline_not_mem_frame hn, runeCount_frame ht⟩
    · rw [ofString_border "├" "┤" '├' '┤' (by simp) (by simp)]
      exact border_line (by decide) (by decide)
    · exact ⟨newline_not_mem_frame (newline_not_mem_truncate (not_mem_of_mem_splitOn hx) 56),
        runeCount_frame (runeCount_truncate_le x (by decide))⟩
    · rw [ofString_border "└" "┘" '└' '┘' (by simp) (by simp)]
      exact border_line (by decide) (by decide)
  · rw [List.forall₂_map_right_iff]
    exact List.forall₂_same.2 fun l _ => shows_frame l

/-! ## 4. The key section -/

/-- **The lines of a key section**: a blank line, the number of keys, the first five keys (all of
them when there are fewer) behind bullets, and how many more there are when there are more than
five. -/
def keyLines (keys : List String) : List Bytes :=
  if keys.isEmpty then []
  else [] :: ofString ("Top-level keys (" ++ toString keys.length ++ "):") ::
    ((keys.take 5).map fun k => ofString ("  • " ++ k)) ++
    (if 5 < keys.length then [ofString ("  ... and " ++ toString (keys.length - 5) ++ " more")]
     else [])

theorem ofString_append (a b : String) : ofString (a ++ b) = ofString a ++ ofString b := by
  rw [ofString_eq_encode, ofString_eq_encode, ofString_eq_encode, String.toList_append,
    encode_append]

theorem ofString_newline : ofString "\n" = [0x0A] := by decide +kernel

/-- A string without a line break has none in its bytes. -/
theorem newline_not_mem_ofString {s : String} (h : '\n' ∉ s.toList) :
    (0x0A : UInt8) ∉ ofString s := by
  rwa [ofString_eq_encode, newline_mem_encode_iff]

/-- A number is written in digits. -/
theorem newline_not_mem_toDigits (n : Nat) : '\n' ∉ Nat.toDigits 10 n := fun h =>
  absurd (Nat.isDigit_of_mem_toDigits (by decide) (by decide) h) (by decide)

theorem joinLines_cons (l : Bytes) (ls : List Bytes) :
    joinLines (l :: ls) = l ++ 0x0A :: joinLines ls := by
  simp [joinLines]

/-- Lines joined end in a line break after the last one. -/
theorem joinLines_eq_intercalate : ∀ {ls : List Bytes}, ls ≠ [] →
    joinLines ls = [0x0A].intercalate ls ++ [0x0A]
  | [l], _ => by simp [joinLines]
  | l :: l' :: ls, _ => by
    rw [joinLines_cons, joinLines_eq_intercalate (List.cons_ne_nil l' ls),
      List.intercalate_cons_cons]
    simp

/-- **Splitting a text that ends in lines** gives its first part's lines, then those lines. -/
theorem splitOn_dropFinalNewline (x y : Bytes) {ls : List Bytes}
    (hls : ∀ l ∈ ls, (0x0A : UInt8) ∉ l) :
    (dropFinalNewline (x ++ (y ++ [0x0A]) ++ joinLines ls)).splitOn 0x0A = (x ++ y).splitOn 0x0A ++ ls := by
  have hdrop : ∀ z : Bytes, dropFinalNewline (z ++ [0x0A]) = z := fun z => by
    simp [dropFinalNewline]
  rw [← List.append_assoc]
  cases ls with
  | nil => rw [show joinLines [] = [] from rfl, List.append_nil, hdrop, List.append_nil]
  | cons l ls =>
    rw [joinLines_eq_intercalate (List.cons_ne_nil l ls), ← List.append_assoc, hdrop,
      List.append_assoc, List.singleton_append, List.splitOn_append_cons_self,
      List.splitOn_intercalate _ hls (List.cons_ne_nil l ls)]

/-- **The key section is written as its lines.** -/
theorem keySection_eq (keys : List String) : keySection keys = joinLines (keyLines keys) := by
  unfold keySection keyLines
  cases hk : keys.isEmpty with
  | true => rfl
  | false =>
    have hhead : ofString ("\nTop-level keys (" ++ toString keys.length ++ "):\n") =
        [0x0A] ++ (ofString ("Top-level keys (" ++ toString keys.length ++ "):") ++ [0x0A]) := by
      have h1 : ofString "\nTop-level keys (" = [0x0A] ++ ofString "Top-level keys (" := by
        decide +kernel
      have h2 : ofString "):\n" = ofString "):" ++ [0x0A] := by decide +kernel
      simp only [ofString_append, h1, h2, List.append_assoc]
    have hmore : ofString " more\n" = ofString " more" ++ [0x0A] := by decide +kernel
    simp only [Bool.false_eq_true, ↓reduceIte, hhead, joinLines, List.flatMap_cons,
      List.flatMap_append, List.flatMap_map, List.flatten_eq_flatMap, ofString_append,
      ofString_newline, List.nil_append, List.append_assoc, maxKeys, gt_iff_lt]
    split <;> simp [hmore]

/-- The lines of a key section hold no line break when the keys hold none. -/
theorem newline_not_mem_keyLines {keys : List String} (h : ∀ k ∈ keys, '\n' ∉ k.toList) :
    ∀ l ∈ keyLines keys, (0x0A : UInt8) ∉ l := by
  unfold keyLines
  split
  · simp
  · intro l hl
    simp only [List.mem_cons, List.mem_append, List.mem_map] at hl
    rcases hl with (rfl | rfl | ⟨k, hk, rfl⟩) | hl
    · simp
    · apply newline_not_mem_ofString
      simp [newline_not_mem_toDigits]
    · apply newline_not_mem_ofString
      simp [h k (List.mem_of_mem_take hk)]
    · split at hl
      · rw [List.mem_singleton] at hl
        subst hl
        apply newline_not_mem_ofString
        simp [newline_not_mem_toDigits]
      · cases hl

/-- **A summary's content ends with its key section**: for keys without line breaks, the lines
of the content end with the key section's lines. -/
theorem reportText_lines (command : Bytes) (duration : Option Duration) (manifestIncluded : Bool)
    (size : Nat) {keys : List String} (h : ∀ k ∈ keys, '\n' ∉ k.toList) :
    ∃ head, (dropFinalNewline (reportText command duration manifestIncluded size keys)).splitOn 0x0A =
      head ++ keyLines keys := by
  have hsize : ofString ("Size:      " ++ toString size ++ " bytes\n") =
      ofString ("Size:      " ++ toString size ++ " bytes") ++ [0x0A] := by
    have h4 : ofString " bytes\n" = ofString " bytes" ++ [0x0A] := by decide +kernel
    simp only [ofString_append, h4, List.append_assoc]
  unfold reportText
  rw [keySection_eq, hsize, splitOn_dropFinalNewline _ _ (newline_not_mem_keyLines h)]
  exact ⟨_, rfl⟩

/-! ## 5. The two summaries -/

/-- **Summary boxes are 60 characters wide.** Every line of a collection's summary and of an
upload's summary holds 60 characters and no line break, for any probe command, endpoint or reply,
whatever bytes they hold; each content line is shown whole when it has at most 56 characters and
cut to 53 and three dots otherwise; and for keys without line breaks the content ends with the
key section. -/
theorem summary_box_lines :
    (∀ (command : Bytes) (duration : Option Duration) (manifestIncluded : Bool) (size : Nat)
        (keys : List String),
      BoxLines ((dropFinalNewline (reportText command duration manifestIncluded size keys)).splitOn 0x0A)
          (report command duration manifestIncluded size keys) ∧
        ((∀ k ∈ keys, '\n' ∉ k.toList) →
          ∃ head, (dropFinalNewline (reportText command duration manifestIncluded size keys)).splitOn 0x0A =
            head ++ keyLines keys)) ∧
    ∀ (target : Bytes) (status : Int) (body : Bytes),
      BoxLines ((dropFinalNewline (uploadText target status body)).splitOn 0x0A)
        (upload target status body) := by
  refine ⟨fun command duration manifestIncluded size keys => ⟨?_, reportText_lines command duration
    manifestIncluded size⟩, fun target status body => ?_⟩
  · exact box_lines (by decide +kernel) (by decide +kernel) _
  · exact box_lines (by decide +kernel) (by decide +kernel) _

/-- A collection with six keys, under a probe command holding a stray byte and a line break:
its content ends with the key section, five keys listed and the sixth counted. -/
theorem summary_box_lines_six_keys :
    let keys := ["a", "b", "c", "d", "e", "f"]
    (∀ k ∈ keys, '\n' ∉ k.toList) ∧
      ∃ head, (dropFinalNewline (reportText [0xFF, 0x0A, 0x70] none false 2 keys)).splitOn 0x0A =
        head ++ keyLines keys :=
  ⟨by decide, (summary_box_lines.1 [0xFF, 0x0A, 0x70] none false 2 _).2 (by decide)⟩

end Summary

end Inventory
