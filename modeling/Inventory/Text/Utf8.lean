/-!
# UTF-8 byte strings

Probe output, manifests and request bodies arrive as raw octets that need not be UTF-8. This
module fixes one reading of such octets, shared by every part of the library that turns bytes
into text:

* `Utf8.scalar?` reads the scalar value at the head of a byte string by the shortest-form rules
  (the second byte after `E0`, `ED`, `F0` and `F4` is restricted, so overlong forms and
  surrogates are refused);
* `Utf8.chars` reads a whole byte string, one replacement character `U+FFFD` for every byte
  that does not start a well-formed sequence;
* `Utf8.repair` writes that reading back as bytes, so well-formed sequences are kept byte for
  byte and each stray byte becomes the three bytes `EF BF BD`.

Reading one stray byte at a time, rather than a maximal ill-formed run, is what makes `repair`
of a string's bytes match the decoding of the same string by the JSON reader.
-/

set_option autoImplicit false

namespace Inventory

/-- Octets as read from a file, a pipe or a request; not necessarily UTF-8. -/
abbrev Bytes := List UInt8

namespace Utf8

/-! ## 1. One scalar value -/

/-- The replacement character written for every byte that starts no well-formed sequence. -/
def replacement : Char := '�'

/-- A continuation byte, `10xxxxxx`. -/
def isTail (b : UInt8) : Bool := 0x80 ≤ b && b ≤ 0xBF

/-- The payload bits of a continuation byte. -/
def low6 (b : UInt8) : Nat := b.toNat % 64

/-- **The scalar at the head.** `some (c, k)` when the first `k + 1` bytes are the shortest
UTF-8 form of `c` (a lead byte and `k` continuation bytes); `none` when the first byte starts no
well-formed sequence, or there is none. -/
def scalar? : Bytes → Option (Char × Nat)
  | [] => none
  | b0 :: rest =>
    if b0 < 0x80 then some (Char.ofNat b0.toNat, 0)
    else if b0 < 0xC2 then none
    else if b0 < 0xE0 then
      match rest with
      | b1 :: _ =>
        if isTail b1 then some (Char.ofNat ((b0.toNat % 32) * 64 + low6 b1), 1) else none
      | [] => none
    else if b0 < 0xF0 then
      match rest with
      | b1 :: b2 :: _ =>
        let lo : UInt8 := if b0 == 0xE0 then 0xA0 else 0x80
        let hi : UInt8 := if b0 == 0xED then 0x9F else 0xBF
        if lo ≤ b1 && b1 ≤ hi && isTail b2 then
          some (Char.ofNat ((b0.toNat % 16) * 4096 + low6 b1 * 64 + low6 b2), 2)
        else none
      | _ => none
    else if b0 < 0xF5 then
      match rest with
      | b1 :: b2 :: b3 :: _ =>
        let lo : UInt8 := if b0 == 0xF0 then 0x90 else 0x80
        let hi : UInt8 := if b0 == 0xF4 then 0x8F else 0xBF
        if lo ≤ b1 && b1 ≤ hi && isTail b2 && isTail b3 then
          some (Char.ofNat ((b0.toNat % 8) * 262144 + low6 b1 * 4096 + low6 b2 * 64 + low6 b3), 3)
        else none
      | _ => none
    else none

/-- The width of the head: the length of its well-formed sequence, or one for a stray byte. -/
def headWidth (bs : Bytes) : Nat :=
  match scalar? bs with
  | some (_, k) => k + 1
  | none => 1

/-- The character at the head, the replacement character for a stray byte. -/
def headChar (bs : Bytes) : Char :=
  match scalar? bs with
  | some (c, _) => c
  | none => replacement

theorem headWidth_pos (bs : Bytes) : 0 < headWidth bs := by
  unfold headWidth
  split <;> omega

theorem length_drop_headWidth_lt (b : UInt8) (rest : Bytes) :
    ((b :: rest).drop (headWidth (b :: rest))).length < (b :: rest).length := by
  have := headWidth_pos (b :: rest)
  simp only [List.length_drop, List.length_cons]
  omega

/-! ## 2. Whole strings -/

/-- **Reading bytes as text.** Each well-formed sequence gives its character, each stray byte
one replacement character. -/
def chars : Bytes → List Char
  | [] => []
  | b :: rest => headChar (b :: rest) :: chars ((b :: rest).drop (headWidth (b :: rest)))
termination_by bs => bs.length
decreasing_by exact length_drop_headWidth_lt b rest

/-- The UTF-8 form of one character. -/
def encodeChar (c : Char) : Bytes :=
  let v := c.toNat
  if v < 0x80 then [v.toUInt8]
  else if v < 0x800 then [(0xC0 + v / 64).toUInt8, (0x80 + v % 64).toUInt8]
  else if v < 0x10000 then
    [(0xE0 + v / 4096).toUInt8, (0x80 + v / 64 % 64).toUInt8, (0x80 + v % 64).toUInt8]
  else
    [(0xF0 + v / 262144).toUInt8, (0x80 + v / 4096 % 64).toUInt8,
      (0x80 + v / 64 % 64).toUInt8, (0x80 + v % 64).toUInt8]

/-- The UTF-8 form of a list of characters. -/
def encode (cs : List Char) : Bytes := cs.flatMap encodeChar

/-- The bytes of a string. -/
def ofString (s : String) : Bytes := s.toUTF8.toList

/-- Bytes read as a string, stray bytes replaced. -/
def decode (bs : Bytes) : String := String.ofList (chars bs)

/-- **Repair.** Well-formed sequences kept byte for byte, each stray byte replaced by the three
bytes of `U+FFFD`. -/
def repair (bs : Bytes) : Bytes := encode (chars bs)

/-- Every byte starts a well-formed sequence: the bytes are UTF-8. -/
def isValid : Bytes → Bool
  | [] => true
  | b :: rest =>
    match scalar? (b :: rest) with
    | some (_, k) => isValid (rest.drop k)
    | none => false
termination_by bs => bs.length
decreasing_by
  simp only [List.length_drop, List.length_cons]
  omega

/-- The number of characters a byte string reads as, each stray byte counting one. -/
def runeCount (bs : Bytes) : Nat := (chars bs).length

/-- A character is a UTF-16 surrogate code point, which no `Char` holds. -/
def isSurrogate (v : Nat) : Bool := 0xD800 ≤ v && v < 0xE000

end Utf8

end Inventory
