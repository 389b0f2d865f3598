import Inventory.Json.Read
/-!
# Compact and indented layout

Both layouts re-read JSON text with the syntax machine and change only what lies between
tokens; string literals and numbers are copied byte for byte.

* `compact` drops every blank outside strings.
* `indent` puts each element and member on a line of its own, indented by two spaces per open
  container, writes `": "` after keys, and keeps an empty object or array on one line: the line
  break after an opening bracket is delayed until something other than the closing bracket
  follows.

Both refuse text the machine refuses. The refusal is decided by a full run of the machine
before any output is built, so a text nested too deep is refused without first writing its
indentation.
-/

set_option autoImplicit false

namespace Inventory.Json

/-- **Compact layout**: the bytes without blanks outside strings. -/
def compactLoop (s : Scanner) (acc : List UInt8) : Bytes → Scanner × List UInt8
  | [] => (s, acc)
  | c :: rest =>
    match s.step c with
    | (s', .error) => (s', acc)
    | (s', .skipSpace) => compactLoop s' acc rest
    | (s', .done) => compactLoop s' acc rest
    | (s', _) => compactLoop s' (c :: acc) rest

/-- Compact layout of one JSON text. -/
def compact (src : Bytes) : Except JsonError Bytes :=
  let (s, acc) := compactLoop {} [] src
  match s.err with
  | some e => .error e
  | none =>
    match s.finish with
    | (s', .error) => .error (s'.err.getD .endOfInput)
    | _ => .ok acc.reverse

/-- A line break followed by two spaces per level. -/
def newline (depth : Nat) (acc : List UInt8) : List UInt8 :=
  (List.replicate (2 * depth) (0x20 : UInt8)) ++ 0x0A :: acc

/-- The indenting pass: whether a line break is owed after an opening bracket, the depth, and
the output so far (newest byte first). -/
def indentLoop (s : Scanner) (owed : Bool) (depth : Nat) (acc : List UInt8) :
    Bytes → List UInt8
  | [] => acc
  | c :: rest =>
    match s.step c with
    | (_, .error) => acc
    | (s', .skipSpace) => indentLoop s' owed depth acc rest
    | (s', code) =>
      let opensLine := owed && code != .endObject && code != .endArray
      let depth := if opensLine then depth + 1 else depth
      let acc := if opensLine then newline depth acc else acc
      let owed := if opensLine then false else owed
      if code == .continue then indentLoop s' owed depth (c :: acc) rest
      else if c == 0x7B || c == 0x5B then indentLoop s' true depth (c :: acc) rest
      else if c == 0x2C then indentLoop s' owed depth (newline depth (c :: acc)) rest
      else if c == 0x3A then indentLoop s' owed depth (0x20 :: c :: acc) rest
      else if c == 0x7D || c == 0x5D then
        if owed then indentLoop s' false depth (c :: acc) rest
        else indentLoop s' owed (depth - 1) (c :: newline (depth - 1) acc) rest
      else indentLoop s' owed depth (c :: acc) rest

/-- **Indented layout** of one JSON text, two spaces per level. -/
def indent (src : Bytes) : Except JsonError Bytes :=
  match checkValid src with
  | .error e => .error e
  | .ok () => .ok (indentLoop {} false 0 [] src).reverse

end Inventory.Json
