import Inventory.Text.Utf8
/-!
# Base64

RFC 4648 base64 in its two alphabets: the standard one (`+` and `/`) and the URL-safe one
(`-` and `_`). Writing pads with `=` when `padded` is set. Reading skips line breaks; every
other character must belong to the alphabet, and padding must be present exactly when `padded`
is set and must complete the last group. The bits a final partial group leaves over are
ignored.
-/

set_option autoImplicit false

namespace Inventory.Base64

/-- An alphabet of 64 digits and whether groups are padded. -/
structure Alphabet where
  digits : String
  padded : Bool

/-- The standard alphabet, padded. -/
def standard : Alphabet := ⟨"ABCDEFGHIJKLMNOPQRSTUVWXYZabcdefghijklmnopqrstuvwxyz0123456789+/", true⟩

/-- The URL-safe alphabet without padding. -/
def urlRaw : Alphabet := ⟨"ABCDEFGHIJKLMNOPQRSTUVWXYZabcdefghijklmnopqrstuvwxyz0123456789-_", false⟩

/-- The digit for a six-bit value. -/
def Alphabet.digit (a : Alphabet) (v : Nat) : Char := a.digits.toList.getD v 'A'

/-- The six-bit value of a digit. -/
def Alphabet.value? (a : Alphabet) (c : Char) : Option Nat := a.digits.toList.idxOf? c

/-- **Writing** bytes in groups of three. -/
def encodeWith (a : Alphabet) : Bytes → List Char
  | [] => []
  | [x] =>
    let n := x.toNat * 65536
    [a.digit (n / 262144), a.digit (n / 4096 % 64)] ++ (if a.padded then ['=', '='] else [])
  | [x, y] =>
    let n := x.toNat * 65536 + y.toNat * 256
    [a.digit (n / 262144), a.digit (n / 4096 % 64), a.digit (n / 64 % 64)] ++
      (if a.padded then ['='] else [])
  | x :: y :: z :: rest =>
    let n := x.toNat * 65536 + y.toNat * 256 + z.toNat
    [a.digit (n / 262144), a.digit (n / 4096 % 64), a.digit (n / 64 % 64), a.digit (n % 64)] ++
      encodeWith a rest

/-- Standard padded base64 of bytes. -/
def encode (bs : Bytes) : String := String.ofList (encodeWith standard bs)

/-- **Reading** groups of four digits. -/
def decodeWith (a : Alphabet) : List Char → Option Bytes
  | [] => some []
  | [c1, c2] =>
    if a.padded then none
    else do
      let v1 ← a.value? c1
      let v2 ← a.value? c2
      some [(v1 * 4 + v2 / 16).toUInt8]
  | [c1, c2, c3] =>
    if a.padded then none
    else do
      let v1 ← a.value? c1
      let v2 ← a.value? c2
      let v3 ← a.value? c3
      some [(v1 * 4 + v2 / 16).toUInt8, ((v2 % 16) * 16 + v3 / 4).toUInt8]
  | [c1, c2, '=', '='] =>
    if a.padded then decodeWith { a with padded := false } [c1, c2] else none
  | [c1, c2, c3, '='] =>
    if a.padded then decodeWith { a with padded := false } [c1, c2, c3] else none
  | c1 :: c2 :: c3 :: c4 :: rest => do
    let v1 ← a.value? c1
    let v2 ← a.value? c2
    let v3 ← a.value? c3
    let v4 ← a.value? c4
    let n := ((v1 * 64 + v2) * 64 + v3) * 64 + v4
    let more ← decodeWith a rest
    some ((n / 65536).toUInt8 :: (n / 256 % 256).toUInt8 :: (n % 256).toUInt8 :: more)
  | _ => none

/-- Standard padded base64 read back to bytes. -/
def decode? (s : String) : Option Bytes :=
  decodeWith standard (s.toList.filter fun c => c ≠ '\n' && c ≠ '\r')

/-- URL-safe unpadded base64 read back to bytes. -/
def decodeUrl? (s : String) : Option Bytes :=
  decodeWith urlRaw (s.toList.filter fun c => c ≠ '\n' && c ≠ '\r')

end Inventory.Base64
