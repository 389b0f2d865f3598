import Inventory.Text.Quote
/-!
# The JSON syntax machine

JSON text is checked one byte at a time by a machine whose state is the position in the
grammar (`Phase`) and the stack of open containers (`Frame`). Each byte yields a `Code` that
says what the byte was: blank, part of a literal, a bracket, a colon, a comma. Readers of
values, the compacting and indenting printers and the document reader all run this one
machine, so they agree on what is JSON and on where and how a text is rejected.

The grammar is RFC 8259's, with two properties of this reader made explicit:

* inside a string literal any byte from `0x20` up is accepted, so invalid UTF-8 is not a
  syntax error (it is repaired later, see `Utf8.repair`);
* at most `maxDepth` containers may be open at once; opening one more is rejected with
  `exceeded max depth` at its bracket.

Blank bytes are space, tab, carriage return and line feed. A top-level value followed by a
non-blank byte ends the value (code `done`) and records the error `after top-level value`,
which the readers report or ignore as their contract says.
-/

set_option autoImplicit false

namespace Inventory.Json

/-! ## 1. Errors -/

/-- Where in the grammar a byte was refused; each place has its own wording. -/
inductive Place where
  | beginValue
  | beginKey
  | afterKey
  | afterMember
  | afterElement
  | inString
  | inEscape
  | inHexEscape
  | inNumber
  | afterPoint
  | inExponent
  | inWord (word : String) (expected : Char)
  | afterTop
  | tooDeep
  deriving DecidableEq, Repr

/-- The wording of a place, as it follows the refused byte. -/
def Place.text : Place → String
  | .beginValue => "looking for beginning of value"
  | .beginKey => "looking for beginning of object key string"
  | .afterKey => "after object key"
  | .afterMember => "after object key:value pair"
  | .afterElement => "after array element"
  | .inString => "in string literal"
  | .inEscape => "in string escape code"
  | .inHexEscape => "in \\u hexadecimal character escape"
  | .inNumber => "in numeric literal"
  | .afterPoint => "after decimal point in numeric literal"
  | .inExponent => "in exponent of numeric literal"
  | .inWord w e => "in literal " ++ w ++ " (expecting " ++ Text.quoteByte e.toNat.toUInt8 ++ ")"
  | .afterTop => "after top-level value"
  | .tooDeep => "exceeded max depth"

/-- **Why JSON text was refused.** -/
inductive JsonError where
  /-- A byte that cannot stand where it stands; the place is absent when a reader refuses a
  byte before any member of an object has started. -/
  | invalidChar (c : UInt8) (place : Option Place)
  /-- A token reader expected the colon after a key. -/
  | expectedColon
  /-- A token reader expected the comma after an array element. -/
  | expectedComma
  /-- A value was asked for where the reader stands between values. -/
  | notAtValue
  /-- The whole text ended inside a value. -/
  | endOfInput
  /-- A stream ended where the next value would start. -/
  | eof
  /-- A stream ended inside a value. -/
  | truncated
  /-- A number too large for a double-precision float was read as one. -/
  | numberRange (literal : String)
  deriving DecidableEq, Repr

/-- The message of a refusal. -/
def JsonError.message : JsonError → String
  | .invalidChar c (some p) => "invalid character " ++ Text.quoteByte c ++ " " ++ p.text
  | .invalidChar c none => "invalid character " ++ Text.quoteByte c
  | .expectedColon => "expected colon after object key"
  | .expectedComma => "expected comma after array element"
  | .notAtValue => "not at beginning of value"
  | .endOfInput => "unexpected end of JSON input"
  | .eof => "EOF"
  | .truncated => "unexpected EOF"
  | .numberRange lit => "json: cannot unmarshal number " ++ lit ++ " into Go value of type float64"

/-! ## 2. The machine -/

/-- What an open container expects: a key (and its colon), a member's value, an element. -/
inductive Frame where
  | objectKey
  | objectValue
  | arrayValue
  deriving DecidableEq, Repr

/-- The position in the grammar: what the next byte may be. -/
inductive Phase where
  | beginValue
  | beginValueOrEmpty
  | beginStringOrEmpty
  | beginString
  | endValue
  | endTop
  | inString
  | inStringEsc
  /-- Inside `\u`, after `k` hexadecimal digits. -/
  | inStringEscU (k : Nat)
  | neg
  | one
  | zero
  | dot
  | dot0
  | exp
  | expSign
  | exp0
  /-- Inside `true`, `false` or `null`, with the letters still to come. -/
  | word (name : String) (rest : List Char)
  | failed
  deriving DecidableEq, Repr

/-- What a byte was. -/
inductive Code where
  | continue
  | beginLiteral
  | beginObject
  | objectKey
  | objectValue
  | endObject
  | beginArray
  | arrayValue
  | endArray
  | skipSpace
  | done
  | error
  deriving DecidableEq, Repr

/-- The most containers that may be open at once. -/
def maxDepth : Nat := 10000

/-- Space, tab, carriage return and line feed. -/
def isBlank (c : UInt8) : Bool := c == 0x20 || c == 0x09 || c == 0x0D || c == 0x0A

/-- A decimal digit. -/
def isDigit (c : UInt8) : Bool := 0x30 ≤ c && c ≤ 0x39

/-- A hexadecimal digit of either case. -/
def isHex (c : UInt8) : Bool :=
  isDigit c || (0x61 ≤ c && c ≤ 0x66) || (0x41 ≤ c && c ≤ 0x46)

/-- The machine: a phase, the open containers (innermost first) and their number, whether a
top-level value has ended, and the first refusal. -/
structure Scanner where
  phase : Phase := .beginValue
  stack : List Frame := []
  depth : Nat := 0
  endTop : Bool := false
  err : Option JsonError := none
  deriving Repr

namespace Scanner

/-- Refuse the byte `c` at place `p`; the machine stays refused. -/
def fail (s : Scanner) (c : UInt8) (p : Place) : Scanner × Code :=
  ({ s with phase := .failed, err := some (.invalidChar c (some p)) }, .error)

/-- Open a container, refusing the bracket when too many are open. -/
def push (s : Scanner) (c : UInt8) (f : Frame) (next : Phase) (code : Code) : Scanner × Code :=
  let s' := { s with stack := f :: s.stack, depth := s.depth + 1, phase := next }
  if s'.depth ≤ maxDepth then (s', code) else s'.fail c .tooDeep

/-- Close the innermost container; closing the last one ends the top-level value. -/
def pop (s : Scanner) : Scanner :=
  match s.stack with
  | [] => s
  | _ :: [] => { s with stack := [], depth := 0, phase := .endTop, endTop := true }
  | _ :: rest => { s with stack := rest, depth := s.depth - 1, phase := .endValue }

/-- After a top-level value: blanks are skipped, anything else is recorded as an error, and
either way the value is done. -/
def atEndTop (s : Scanner) (c : UInt8) : Scanner × Code :=
  if isBlank c then (s, .done) else ((s.fail c .afterTop).1, .done)

/-- After a value: a colon, comma or closing bracket as the innermost container wants. -/
def atEndValue (s : Scanner) (c : UInt8) : Scanner × Code :=
  match s.stack with
  | [] => atEndTop { s with phase := .endTop, endTop := true } c
  | f :: rest =>
    if isBlank c then ({ s with phase := .endValue }, .skipSpace)
    else
      match f with
      | .objectKey =>
        if c == 0x3A then ({ s with stack := .objectValue :: rest, phase := .beginValue }, .objectKey)
        else s.fail c .afterKey
      | .objectValue =>
        if c == 0x2C then ({ s with stack := .objectKey :: rest, phase := .beginString }, .objectValue)
        else if c == 0x7D then (s.pop, .endObject)
        else s.fail c .afterMember
      | .arrayValue =>
        if c == 0x2C then ({ s with phase := .beginValue }, .arrayValue)
        else if c == 0x5D then (s.pop, .endArray)
        else s.fail c .afterElement

/-- Where a value may begin. -/
def atBeginValue (s : Scanner) (c : UInt8) : Scanner × Code :=
  if isBlank c then (s, .skipSpace)
  else if c == 0x7B then s.push c .objectKey .beginStringOrEmpty .beginObject
  else if c == 0x5B then s.push c .arrayValue .beginValueOrEmpty .beginArray
  else if c == 0x22 then ({ s with phase := .inString }, .beginLiteral)
  else if c == 0x2D then ({ s with phase := .neg }, .beginLiteral)
  else if c == 0x30 then ({ s with phase := .zero }, .beginLiteral)
  else if c == 0x74 then ({ s with phase := .word "true" ['r', 'u', 'e'] }, .beginLiteral)
  else if c == 0x66 then ({ s with phase := .word "false" ['a', 'l', 's', 'e'] }, .beginLiteral)
  else if c == 0x6E then ({ s with phase := .word "null" ['u', 'l', 'l'] }, .beginLiteral)
  else if 0x31 ≤ c && c ≤ 0x39 then ({ s with phase := .one }, .beginLiteral)
  else s.fail c .beginValue

/-- Where a key must begin. -/
def atBeginString (s : Scanner) (c : UInt8) : Scanner × Code :=
  if isBlank c then (s, .skipSpace)
  else if c == 0x22 then ({ s with phase := .inString }, .beginLiteral)
  else s.fail c .beginKey

/-- After the integer part of a number: a fraction, an exponent, or the end. -/
def atZero (s : Scanner) (c : UInt8) : Scanner × Code :=
  if c == 0x2E then ({ s with phase := .dot }, .continue)
  else if c == 0x65 || c == 0x45 then ({ s with phase := .exp }, .continue)
  else s.atEndValue c

/-- After an exponent mark and its optional sign: a digit must follow. -/
def atExpSign (s : Scanner) (c : UInt8) : Scanner × Code :=
  if isDigit c then ({ s with phase := .exp0 }, .continue) else s.fail c .inExponent

/-- **One step.** Feed the byte `c`. -/
def step (s : Scanner) (c : UInt8) : Scanner × Code :=
  match s.phase with
  | .beginValue => s.atBeginValue c
  | .beginValueOrEmpty =>
    if isBlank c then (s, .skipSpace)
    else if c == 0x5D then s.atEndValue c
    else s.atBeginValue c
  | .beginStringOrEmpty =>
    if isBlank c then (s, .skipSpace)
    else if c == 0x7D then
      let s' := match s.stack with
        | _ :: rest => { s with stack := .objectValue :: rest }
        | [] => s
      s'.atEndValue c
    else s.atBeginString c
  | .beginString => s.atBeginString c
  | .endValue => s.atEndValue c
  | .endTop => s.atEndTop c
  | .inString =>
    if c == 0x22 then ({ s with phase := .endValue }, .continue)
    else if c == 0x5C then ({ s with phase := .inStringEsc }, .continue)
    else if c < 0x20 then s.fail c .inString
    else (s, .continue)
  | .inStringEsc =>
    if c == 0x62 || c == 0x66 || c == 0x6E || c == 0x72 || c == 0x74 || c == 0x5C || c == 0x2F
        || c == 0x22 then ({ s with phase := .inString }, .continue)
    else if c == 0x75 then ({ s with phase := .inStringEscU 0 }, .continue)
    else s.fail c .inEscape
  | .inStringEscU k =>
    if isHex c then
      ({ s with phase := if k < 3 then .inStringEscU (k + 1) else .inString }, .continue)
    else s.fail c .inHexEscape
  | .neg =>
    if c == 0x30 then ({ s with phase := .zero }, .continue)
    else if 0x31 ≤ c && c ≤ 0x39 then ({ s with phase := .one }, .continue)
    else s.fail c .inNumber
  | .one => if isDigit c then (s, .continue) else s.atZero c
  | .zero => s.atZero c
  | .dot => if isDigit c then ({ s with phase := .dot0 }, .continue) else s.fail c .afterPoint
  | .dot0 =>
    if isDigit c then (s, .continue)
    else if c == 0x65 || c == 0x45 then ({ s with phase := .exp }, .continue)
    else s.atEndValue c
  | .exp =>
    if c == 0x2B || c == 0x2D then ({ s with phase := .expSign }, .continue) else s.atExpSign c
  | .expSign => s.atExpSign c
  | .exp0 => if isDigit c then (s, .continue) else s.atEndValue c
  | .word name rest =>
    match rest with
    | e :: more =>
      if c == e.toNat.toUInt8 then
        ({ s with phase := if more.isEmpty then .endValue else .word name more }, .continue)
      else s.fail c (.inWord name e)
    | [] => s.atEndValue c
  | .failed => (s, .error)

/-- **The end of the text.** A pending number ends here; the text is complete iff a top-level
value has ended and nothing was refused. -/
def finish (s : Scanner) : Scanner × Code :=
  if s.err.isSome then (s, .error)
  else if s.endTop then (s, .done)
  else
    let s' := (s.step 0x20).1
    if s'.endTop then (s', .done)
    else if s'.err.isNone then ({ s' with err := some .endOfInput }, .error)
    else (s', .error)

end Scanner

/-- Run the machine over every byte; the first refusal. -/
def Scanner.run (s : Scanner) : Bytes → Scanner
  | [] => s
  | c :: rest =>
    match s.step c with
    | (s', .error) => s'
    | (s', _) => s'.run rest

/-- **The text is one JSON value**, possibly between blanks. -/
def checkValid (bs : Bytes) : Except JsonError Unit :=
  let s := Scanner.run {} bs
  match s.err with
  | some e => .error e
  | none =>
    match s.finish with
    | (_, .error) => .error (s.finish.1.err.getD .endOfInput)
    | _ => .ok ()

end Inventory.Json
