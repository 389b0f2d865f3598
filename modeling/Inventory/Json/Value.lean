import Inventory.Json.Scan
/-!
# JSON values

A JSON value as the readers of this library see it: numbers keep the literal text they were
written with (`1.0`, `1e400` and `-0` are three different values), strings are decoded text,
and an object keeps every member in order, duplicates included, so that each consumer decides
how a repeated key resolves.

`Value.build` turns the bytes of one value into a tree by running the syntax machine of
`Inventory.Json.Scan` and assembling literals and containers from its codes, so the tree is
exactly what the machine accepted. String literals are decoded by `unescape`:

* each escape stands for its character;
* a `\uXXXX` escape of a high surrogate followed by one of a low surrogate stands for the pair's
  character; any other surrogate escape stands for `U+FFFD`, and the escape after it is read
  on its own;
* each byte that starts no well-formed UTF-8 sequence stands for `U+FFFD`.
-/

set_option autoImplicit false

namespace Inventory.Json

/-! ## 1. Values -/

/-- A JSON value; numbers as written, objects with all their members in order. -/
inductive Value where
  | null
  | bool (b : Bool)
  | number (literal : String)
  | string (s : String)
  | array (items : List Value)
  | object (members : List (String × Value))
  deriving Repr, Inhabited

/-- The name of a value's kind in type errors. -/
def Value.kindName : Value → String
  | .null => "null"
  | .bool _ => "bool"
  | .number _ => "number"
  | .string _ => "string"
  | .array _ => "array"
  | .object _ => "object"

/-- The last member named `k`, the one that wins when an object is read as a map. -/
def Value.lookup (members : List (String × Value)) (k : String) : Option Value :=
  members.foldl (fun acc m => if m.1 = k then some m.2 else acc) none

/-! ## 2. String literals -/

/-- The value of a hexadecimal digit. -/
def hexValue (b : UInt8) : Nat :=
  if b ≤ 0x39 then b.toNat - 0x30
  else if b ≤ 0x46 then b.toNat - 0x41 + 10
  else b.toNat - 0x61 + 10

/-- The number four hexadecimal digits spell. -/
def hex4 (a b c d : UInt8) : Nat :=
  ((hexValue a * 16 + hexValue b) * 16 + hexValue c) * 16 + hexValue d

/-- A high surrogate followed by a low one: the character they encode together. -/
def surrogatePair? (hi lo : Nat) : Option Char :=
  if 0xD800 ≤ hi && hi < 0xDC00 && 0xDC00 ≤ lo && lo < 0xE000 then
    some (Char.ofNat (0x10000 + (hi - 0xD800) * 0x400 + (lo - 0xDC00)))
  else none

/-- The character of a one-letter escape. -/
def escapeValue (e : UInt8) : Char :=
  if e == 0x62 then '\x08'
  else if e == 0x66 then '\x0c'
  else if e == 0x6E then '\n'
  else if e == 0x72 then '\r'
  else if e == 0x74 then '\t'
  else Char.ofNat e.toNat

/-- **Decoding the inside of a string literal.** -/
def unescape : Bytes → List Char
  | [] => []
  | 0x5C :: 0x75 :: a :: b :: c :: d :: 0x5C :: 0x75 :: e :: f :: g :: h :: more =>
    let v := hex4 a b c d
    if Utf8.isSurrogate v then
      match surrogatePair? v (hex4 e f g h) with
      | some ch => ch :: unescape more
      | none => Utf8.replacement :: unescape (0x5C :: 0x75 :: e :: f :: g :: h :: more)
    else Char.ofNat v :: unescape (0x5C :: 0x75 :: e :: f :: g :: h :: more)
  | 0x5C :: 0x75 :: a :: b :: c :: d :: rest =>
    let v := hex4 a b c d
    (if Utf8.isSurrogate v then Utf8.replacement else Char.ofNat v) :: unescape rest
  | 0x5C :: e :: rest => escapeValue e :: unescape rest
  | b :: rest =>
    match Utf8.scalar? (b :: rest) with
    | some (ch, k) => ch :: unescape (rest.drop k)
    | none => Utf8.replacement :: unescape rest
termination_by bs => bs.length
decreasing_by
  all_goals simp only [List.length_drop, List.length_cons]
  all_goals omega

/-- The text of a string literal, quotes included in `lit`. -/
def decodeStringLiteral (lit : Bytes) : String :=
  String.ofList (unescape ((lit.drop 1).dropLast))

/-- The value of one literal: a string, `true`, `false`, `null` or a number as written. -/
def literalValue (lit : Bytes) : Value :=
  match lit with
  | 0x22 :: _ => .string (decodeStringLiteral lit)
  | 0x74 :: _ => .bool true
  | 0x66 :: _ => .bool false
  | 0x6E :: _ => .null
  | _ => .number (String.ofList (lit.map fun b => Char.ofNat b.toNat))

/-! ## 3. Building a tree from the machine's codes -/

/-- A container being read: its items or members so far, newest first, and for an object the
key whose value comes next. -/
inductive Pending where
  | array (items : List Value)
  | object (members : List (String × Value)) (key : String)

/-- The reader's state beside the machine: open containers, the literal read last (newest byte
first), and the finished top-level value. -/
structure Builder where
  scanner : Scanner := {}
  opened : List Pending := []
  lit : List UInt8 := []
  hasLit : Bool := false
  result : Option Value := none

namespace Builder

/-- Put a finished value where it belongs: into the innermost container, or as the result. -/
def place (b : Builder) (v : Value) : Builder :=
  match b.opened with
  | .array items :: rest => { b with opened := .array (v :: items) :: rest }
  | .object ms k :: rest => { b with opened := .object ((k, v) :: ms) "" :: rest }
  | [] => { b with result := some v }

/-- Place the pending literal, if any. -/
def flush (b : Builder) : Builder :=
  if b.hasLit then { (b.place (literalValue b.lit.reverse)) with lit := [], hasLit := false }
  else b

/-- Close the innermost container and place it. -/
def close (b : Builder) : Builder :=
  let b := b.flush
  match b.opened with
  | .array items :: rest => { b with opened := rest }.place (.array items.reverse)
  | .object ms _ :: rest => { b with opened := rest }.place (.object ms.reverse)
  | [] => b

/-- Act on one byte and the code the machine gave it. -/
def feed (b : Builder) (c : UInt8) (code : Code) : Builder :=
  match code with
  | .continue => { b with lit := c :: b.lit }
  | .beginLiteral => { b with lit := [c], hasLit := true }
  | .beginObject => { b with opened := .object [] "" :: b.opened }
  | .beginArray => { b with opened := .array [] :: b.opened }
  | .objectKey =>
    let key := decodeStringLiteral b.lit.reverse
    let b := { b with lit := [], hasLit := false }
    match b.opened with
    | .object ms _ :: rest => { b with opened := .object ms key :: rest }
    | _ => b
  | .objectValue => b.flush
  | .arrayValue => b.flush
  | .endObject => b.close
  | .endArray => b.close
  | .skipSpace => b
  | .done => b.flush
  | .error => b

/-- Run over the bytes until the value is done or refused. -/
def run (b : Builder) : Bytes → Builder
  | [] => b
  | c :: rest =>
    let (s', code) := b.scanner.step c
    let b' := { b with scanner := s' }.feed c code
    match code with
    | .done => b'
    | .error => b'
    | _ => if b'.result.isSome then b' else b'.run rest

end Builder

/-- **The tree of one value.** The bytes must hold a value the machine accepts, possibly after
blanks; what follows it is ignored. `none` when they do not. -/
def Value.build (bs : Bytes) : Option Value :=
  let b := Builder.run {} bs
  match b.result with
  | some v => some v
  | none =>
    if b.scanner.err.isSome then none
    else
      match b.scanner.finish with
      | (_, .done) => b.flush.result
      | _ => none

end Inventory.Json
