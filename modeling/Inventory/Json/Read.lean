import Inventory.Json.Number
/-!
# Reading values

Two ways to read a JSON value from bytes, as the consumers of this library need them:

* **From a stream** (`valueLength`, `Value.decodeFirst`): the first value is read and what
  follows it is left for later. A value's end is seen one byte late for numbers and literals,
  so a number is ended by any byte that cannot continue it. When the input ends, the value is
  complete if ending it there is allowed; otherwise the input was `truncated` if the unfinished
  value holds a non-blank byte, and `eof` if it holds none.
* **As a whole text** (`Value.parseStrict`): the text must be exactly one value between blanks,
  checked in full before any tree is built, so a syntax error anywhere wins over everything.
-/

set_option autoImplicit false

namespace Inventory.Json

/-- Run the machine from the start of a value; the number of bytes the value takes, blanks
before it included. `all` is the whole input, for the end-of-input verdict. -/
def scanLength (all : Bytes) (s : Scanner) (n : Nat) : Bytes → Except JsonError Nat
  | [] =>
    match (s.step 0x20).2 with
    | .done => .ok n
    | _ => if all.any (fun c => !isBlank c) then .error .truncated else .error .eof
  | c :: rest =>
    match s.step c with
    | (_, .done) => .ok n
    | (s', .endObject) | (s', .endArray) =>
      match (s'.atEndValue 0x20).2 with
      | .done => .ok (n + 1)
      | _ => scanLength all s' (n + 1) rest
    | (s', .error) => .error (s'.err.getD .endOfInput)
    | (s', _) => scanLength all s' (n + 1) rest

/-- **The extent of the first value** of a stream, counted from the current position. -/
def valueLength (bs : Bytes) : Except JsonError Nat := scanLength bs {} 0 bs

/-- The first value of a stream and what follows it. Numbers keep their text. -/
def Value.decodeFirst (bs : Bytes) : Except JsonError (Value × Bytes) := do
  let n ← valueLength bs
  match Value.build (bs.take n) with
  | some v => .ok (v, bs.drop n)
  | none => .error .eof

/-- **A whole text as one value**, syntax checked first. -/
def Value.parseStrict (bs : Bytes) : Except JsonError Value := do
  checkValid bs
  match Value.build bs with
  | some v => .ok v
  | none => .error .endOfInput

end Inventory.Json
