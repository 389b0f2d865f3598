import Inventory.Text.Utf8
/-!
# White space

The characters with the Unicode property White_Space that separate words in this library's
inputs: tab, line feed, vertical tab, form feed, carriage return, space, `U+0085`, `U+00A0`,
`U+1680`, `U+2000` to `U+200A`, `U+2028`, `U+2029`, `U+202F`, `U+205F` and `U+3000`.
`U+200B` (zero width space) is not among them.

`trim` removes white space from both ends; `fields` splits at runs of white space and drops
the empty pieces. Both work on text and on raw bytes; in bytes a byte that starts no
well-formed UTF-8 sequence is never white space.
-/

set_option autoImplicit false

namespace Inventory.Text

/-- **White space.** -/
def isSpace (c : Char) : Bool :=
  let v := c.toNat
  (0x09 ≤ v && v ≤ 0x0D) || v = 0x20 || v = 0x85 || v = 0xA0 || v = 0x1680 ||
    (0x2000 ≤ v && v ≤ 0x200A) || v = 0x2028 || v = 0x2029 || v = 0x202F || v = 0x205F ||
    v = 0x3000

/-- Text without white space at either end. -/
def trim (s : String) : String :=
  String.ofList (((s.toList.dropWhile isSpace).reverse.dropWhile isSpace).reverse)

/-- **Fields**: the words of a text, split at runs of white space. -/
def fields (s : String) : List String :=
  let step := fun (st : List (List Char) × List Char) (c : Char) =>
    if isSpace c then
      if st.2.isEmpty then st else (st.2.reverse :: st.1, [])
    else (st.1, c :: st.2)
  let (done, cur) := s.toList.foldl step ([], [])
  let all := if cur.isEmpty then done else cur.reverse :: done
  all.reverse.map String.ofList

/-- The units of a byte string: each well-formed sequence with its character, each stray byte
alone with none. -/
def units : Bytes → List (Option Char × Bytes)
  | [] => []
  | b :: rest =>
    match Utf8.scalar? (b :: rest) with
    | some (c, k) => (some c, b :: rest.take k) :: units (rest.drop k)
    | none => (none, [b]) :: units rest
termination_by bs => bs.length
decreasing_by
  all_goals simp only [List.length_drop, List.length_cons]
  all_goals omega

/-- A unit that is white space. -/
def unitIsSpace (u : Option Char × Bytes) : Bool :=
  match u.1 with
  | some c => isSpace c
  | none => false

/-- **Bytes without white space** at either end. -/
def trimBytes (bs : Bytes) : Bytes :=
  (((units bs).dropWhile unitIsSpace).reverse.dropWhile unitIsSpace).reverse.flatMap (·.2)

end Inventory.Text
