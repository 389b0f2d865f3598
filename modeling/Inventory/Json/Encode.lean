import Inventory.Json.Layout
/-!
# Writing JSON

How this library writes a string and a value as JSON text.

A string is written between double quotes with these escapes and no others:

* `"` and `\` get a backslash; backspace, form feed, line feed, carriage return and tab are
  written `\b \f \n \r \t`; the other bytes below `0x20` are `\u00xx` in lower-case hex;
* `U+2028` and `U+2029` are written as the escapes `\u2028` and `\u2029`;
* a byte that starts no well-formed UTF-8 sequence is written as the six characters `\ufffd`;
* everything else, `<`, `>`, `&` and DEL included, is written as itself. With `html` set,
  `<`, `>` and `&` are written `\u003c`, `\u003e` and `\u0026` instead.

A value is written compactly: numbers as their literal (a literal must satisfy `isLiteral`,
and the empty literal is written `0`), object members sorted by key with the last of
repeated keys kept.
-/

set_option autoImplicit false

namespace Inventory.Json

/-- Lower-case hexadecimal digit as a byte. -/
def hexByte (n : Nat) : UInt8 := (Text.hexDigit n).toNat.toUInt8

/-- The six bytes of the escape `\u` and four hexadecimal digits of `v`. -/
def uEscape (v : Nat) : Bytes :=
  [0x5C, 0x75] ++ (Text.hexDigits 4 v).map fun ch => ch.toNat.toUInt8

/-- **Escaping one character** of a string being written. -/
def escapeFor (html : Bool) (c : Char) : Bytes :=
  let v := c.toNat
  if c = '"' then [0x5C, 0x22]
  else if c = '\\' then [0x5C, 0x5C]
  else if c = '\x08' then [0x5C, 0x62]
  else if c = '\x0c' then [0x5C, 0x66]
  else if c = '\n' then [0x5C, 0x6E]
  else if c = '\r' then [0x5C, 0x72]
  else if c = '\t' then [0x5C, 0x74]
  else if v < 0x20 then uEscape v
  else if v = 0x2028 || v = 0x2029 then uEscape v
  else if html && (c = '<' || c = '>' || c = '&') then uEscape v
  else Utf8.encodeChar c

/-- The escaped body of a byte string (no quotes). -/
def escapeBytes (html : Bool) : Bytes → Bytes
  | [] => []
  | b :: rest =>
    match Utf8.scalar? (b :: rest) with
    | some (c, k) => escapeFor html c ++ escapeBytes html (rest.drop k)
    | none => uEscape 0xFFFD ++ escapeBytes html rest
termination_by bs => bs.length
decreasing_by
  all_goals simp only [List.length_drop, List.length_cons]
  all_goals omega

/-- **A byte string written as a JSON string.** -/
def quoteBytesWith (html : Bool) (bs : Bytes) : Bytes :=
  0x22 :: escapeBytes html bs ++ [0x22]

/-- A text written as a JSON string, HTML characters as themselves. -/
def quoteString (s : String) : Bytes :=
  0x22 :: s.toList.flatMap (escapeFor false) ++ [0x22]

/-- Why a value cannot be written. -/
inductive WriteError where
  | invalidNumber (literal : String)
  deriving DecidableEq, Repr

/-- The message of a write error. -/
def WriteError.message : WriteError → String
  | .invalidNumber lit => "json: invalid number literal " ++ Text.quote lit

/-- The members of an object as a map: the last of repeated keys, in increasing key order. -/
def mapEntries {α : Type} (members : List (String × α)) : List (String × α) :=
  let keys := (members.map (·.1)).eraseDups
  let sorted := keys.mergeSort (fun a b => decide (a ≤ b))
  sorted.filterMap fun k =>
    (members.foldl (fun acc m => if m.1 = k then some m.2 else acc) none).map (k, ·)

/-- Pieces joined by commas. -/
def joinCommas : List Bytes → Bytes
  | [] => []
  | [p] => p
  | p :: rest => p ++ 0x2C :: joinCommas rest

mutual

/-- **Writing a value** compactly. -/
def Value.write (html : Bool) : Value → Except WriteError Bytes
  | .null => .ok (Utf8.ofString "null")
  | .bool true => .ok (Utf8.ofString "true")
  | .bool false => .ok (Utf8.ofString "false")
  | .number lit =>
    if lit.isEmpty then .ok [0x30]
    else if isLiteral lit then .ok (Utf8.ofString lit)
    else .error (.invalidNumber lit)
  | .string s => .ok (0x22 :: s.toList.flatMap (escapeFor html) ++ [0x22])
  | .array items => do
    let parts ← Value.writeItems html items
    .ok (0x5B :: joinCommas parts ++ [0x5D])
  | .object members => do
    let parts ← Value.writeMembers html members
    let written := (mapEntries parts).map fun (k, b) =>
      0x22 :: k.toList.flatMap (escapeFor html) ++ 0x22 :: 0x3A :: b
    .ok (0x7B :: joinCommas written ++ [0x7D])

/-- The items of an array, each written. -/
def Value.writeItems (html : Bool) : List Value → Except WriteError (List Bytes)
  | [] => .ok []
  | v :: rest => do
    let a ← Value.write html v
    let b ← Value.writeItems html rest
    .ok (a :: b)

/-- The members of an object, each value written. -/
def Value.writeMembers (html : Bool) : List (String × Value) → Except WriteError (List (String × Bytes))
  | [] => .ok []
  | (k, v) :: rest => do
    let b ← Value.write html v
    let more ← Value.writeMembers html rest
    .ok ((k, b) :: more)

end

end Inventory.Json
