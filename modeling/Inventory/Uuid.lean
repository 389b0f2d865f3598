import Inventory.Text.Quote
/-!
# Device identifiers

A device is named by a UUID: sixteen bytes, written as 32 lower-case hexadecimal digits in
groups of 8, 4, 4, 4 and 12 joined by dashes. Reading accepts that form in either case, the
same inside braces (the closing brace is not checked), after an `urn:uuid:` prefix in any
case, or the 32 digits without dashes. The all-zero identifier stands for "no device".
-/

set_option autoImplicit false

namespace Inventory

/-- A UUID as its sixteen bytes. -/
structure Uuid where
  bytes : List UInt8
  deriving DecidableEq, Repr

namespace Uuid

/-- The all-zero identifier. -/
def nil : Uuid := ⟨List.replicate 16 0⟩

/-- Why a text is not a UUID. -/
inductive ParseError where
  | length (n : Nat)
  | urnPrefix (found : Bytes)
  | format
  deriving DecidableEq, Repr

/-- The message of a refused UUID. -/
def ParseError.message : ParseError → String
  | .length n => "invalid UUID length: " ++ toString n
  | .urnPrefix p => "invalid urn prefix: " ++ String.ofList (Text.quoteBytes p)
  | .format => "invalid UUID format"

/-- The value of a hexadecimal digit of either case. -/
def hexValue? (c : UInt8) : Option Nat :=
  if 0x30 ≤ c && c ≤ 0x39 then some (c.toNat - 0x30)
  else if 0x61 ≤ c && c ≤ 0x66 then some (c.toNat - 0x61 + 10)
  else if 0x41 ≤ c && c ≤ 0x46 then some (c.toNat - 0x41 + 10)
  else none

/-- The bytes spelled by pairs of hexadecimal digits. -/
def hexBytes? : Bytes → Option Bytes
  | a :: b :: rest => do
    let hi ← hexValue? a
    let lo ← hexValue? b
    let more ← hexBytes? rest
    some ((hi * 16 + lo).toUInt8 :: more)
  | [] => some []
  | [_] => none

/-- Lower-case ASCII letters. -/
def lowerAscii (bs : Bytes) : Bytes := bs.map fun c => if 0x41 ≤ c && c ≤ 0x5A then c + 32 else c

/-- The dashed form: dashes at 8, 13, 18 and 23, hexadecimal digits between. -/
def dashed? (s : Bytes) : Except ParseError Uuid :=
  let at? (i : Nat) := s[i]? == some 0x2D
  if !(at? 8 && at? 13 && at? 18 && at? 23) then .error .format
  else
    let digits := s.take 8 ++ (s.drop 9).take 4 ++ (s.drop 14).take 4 ++ (s.drop 19).take 4 ++
      (s.drop 24).take 12
    match hexBytes? digits with
    | some bs => .ok ⟨bs⟩
    | none => .error .format

/-- **Reading a UUID.** -/
def parse (text : String) : Except ParseError Uuid :=
  let s := Utf8.ofString text
  match s.length with
  | 36 => dashed? s
  | 45 =>
    if lowerAscii (s.take 9) != Utf8.ofString "urn:uuid:" then .error (.urnPrefix (s.take 9))
    else dashed? (s.drop 9)
  | 38 => dashed? (s.drop 1)
  | 32 =>
    match hexBytes? s with
    | some bs => .ok ⟨bs⟩
    | none => .error .format
  | n => .error (.length n)

/-- **The text of a UUID**: lower-case digits in dashed groups. -/
def text (u : Uuid) : String :=
  let hex := u.bytes.flatMap fun b => Text.hexDigits 2 b.toNat
  String.ofList (hex.take 8 ++ '-' :: (hex.drop 8).take 4 ++ '-' :: (hex.drop 12).take 4 ++
    '-' :: (hex.drop 16).take 4 ++ '-' :: hex.drop 20)

end Uuid

end Inventory
