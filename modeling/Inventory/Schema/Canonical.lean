import Inventory.Json.Encode
import Inventory.Number.Binary64
import Inventory.Number.Rounded
/-!
# Canonical JSON text

`const`, `enum` and `uniqueItems` compare values by a canonical text: the value written as JSON
after every number has been read as a double, so `1`, `1.0` and `1e0` agree. Object members
are sorted by key with the last of repeated keys kept, and `<`, `>` and `&` in strings are
written as the escapes `\u003c`, `\u003e` and `\u0026`. A number beyond the range of a double has no
canonical text.

A double is written with the fewest digits that read back: positionally from `10^-6` up to
below `10^21`, otherwise as `d.ddde±X` with the exponent in as few digits as it needs (at least
two after a `+`). Zero keeps its sign.
-/

set_option autoImplicit false

namespace Inventory.Schema

open Json

/-- **The JSON text of a double.** -/
def doubleText (x : Binary64) : String :=
  if x.isZero then (if x.negative then "-0" else "0")
  else
    let (c, p) := x.shortest
    let (ds, point) := decimalDigits c p
    let exp := point - 1
    let body :=
      if exp < -6 || exp ≥ 21 then
        if exp < 0 then scientific ds exp 1 else scientific ds exp 2
      else positional ds point
    (if x.negative then "-" else "") ++ body

/-- The refusal of a number beyond a double's range. -/
def overflowMessage (lit : String) : String :=
  "json: cannot unmarshal number " ++ lit ++ " into Go value of type float64"

mutual

/-- A value with every number replaced by the text of its double. -/
def viaDouble : Value → Except String Value
  | .number lit =>
    match Binary64.ofDecimal (Decimal.ofLiteral lit) with
    | some x => .ok (.number (doubleText x))
    | none => .error (overflowMessage lit)
  | .array items => do .ok (.array (← itemsViaDouble items))
  | .object ms => do .ok (.object (← membersViaDouble ms))
  | v => .ok v

/-- Items with their numbers replaced. -/
def itemsViaDouble : List Value → Except String (List Value)
  | [] => .ok []
  | v :: rest => do .ok ((← viaDouble v) :: (← itemsViaDouble rest))

/-- Members with their numbers replaced. -/
def membersViaDouble : List (String × Value) → Except String (List (String × Value))
  | [] => .ok []
  | (k, v) :: rest => do .ok ((k, ← viaDouble v) :: (← membersViaDouble rest))

end

/-- An object's members with one per key: the last value of a repeated key, at the key's first
place. -/
def lastWins (ms : List (String × Value)) : List (String × Value) :=
  (ms.map (·.1)).eraseDups.filterMap fun k => (Value.lookup ms k).map (k, ·)

mutual

/-- **A value as a map**: every object with one member per key, the last value winning, as a
decoded document keeps it. -/
def asMap : Value → Value
  | .array items => .array (itemsAsMap items)
  | .object ms => .object (lastWins (membersAsMap ms))
  | v => v

/-- Items as maps. -/
def itemsAsMap : List Value → List Value
  | [] => []
  | v :: rest => asMap v :: itemsAsMap rest

/-- Members' values as maps. -/
def membersAsMap : List (String × Value) → List (String × Value)
  | [] => []
  | (k, v) :: rest => (k, asMap v) :: membersAsMap rest

end

/-- **The canonical text** of a value. -/
def canonicalText (v : Value) : Except String String := do
  let v ← viaDouble v
  match v.write true with
  | .ok bs => .ok (Utf8.decode bs)
  | .error e => .error e.message

end Inventory.Schema
