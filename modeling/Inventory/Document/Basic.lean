import Inventory.Json.Encode
/-!
# Documents

A document is a JSON object held as its members in the order their keys were first seen, each
key once, each value as the raw bytes of a JSON value. Values pass through untouched: nested
probe data is never re-read into a tree and written back, so number spellings, escapes and
blanks inside values are kept.

The operations and their laws:

* `setRaw k v` replaces the value of `k` where it stands, or appends `(k, v)` when `k` is new;
  so the key list only grows, and each key keeps its first position;
* `merge o` sets each member of `o` in `o`'s order, so `o`'s values win; merging no document
  (`mergeOpt none`) changes nothing;
* `set k v` writes a JSON value and stores it, or fails and changes nothing;
* `render` writes the object compactly, keys in document order, each value compacted;
* `pretty` indents `render`'s text by two spaces and ends it with a line break.
-/

set_option autoImplicit false

namespace Inventory

open Json

/-- A JSON object: members in first-seen key order, values as raw JSON bytes. -/
structure Document where
  entries : List (String × Bytes) := []
  deriving Repr, Inhabited

namespace Document

/-- The document without members. -/
def empty : Document := {}

/-- The keys in document order. -/
def keys (d : Document) : List String := d.entries.map (·.1)

/-- The number of members. -/
def size (d : Document) : Nat := d.entries.length

/-- The raw value stored under a key. -/
def get? (d : Document) (k : String) : Option Bytes :=
  (d.entries.find? (·.1 == k)).map (·.2)

/-- **Storing a raw value**: in place when the key is present, appended otherwise. -/
def setRaw (d : Document) (k : String) (v : Bytes) : Document :=
  if d.entries.any (·.1 == k) then
    { entries := d.entries.map fun e => if e.1 == k then (k, v) else e }
  else { entries := d.entries ++ [(k, v)] }

/-- **Merging**: every member of `o`, in `o`'s order; `o`'s values win. -/
def merge (d o : Document) : Document :=
  o.entries.foldl (fun acc e => acc.setRaw e.1 e.2) d

/-- Merging through a reference that may be absent: no document to merge changes nothing. -/
def mergeOpt (d : Document) : Option Document → Document
  | some o => d.merge o
  | none => d

/-- Why a value could not be stored under a key. -/
structure EncodeError where
  key : String
  cause : WriteError
  deriving Repr, DecidableEq

/-- The message of an encoding failure. -/
def EncodeError.message (e : EncodeError) : String :=
  "encode error for key " ++ Text.quote e.key ++ ": " ++ e.cause.message

/-- **Setting a value**: written compactly without HTML escapes, then stored. -/
def set (d : Document) (k : String) (v : Value) : Except EncodeError Document :=
  match v.write false with
  | .ok raw => .ok (d.setRaw k raw)
  | .error e => .error ⟨k, e⟩

/-- A stored value compacted; stored values are JSON, so compacting them succeeds. -/
def compactValue (raw : Bytes) : Bytes :=
  match compact raw with
  | .ok c => c
  | .error _ => raw

/-- **Compact text**: `{`, the members as `"key":value` joined by commas, `}`. -/
def render (d : Document) : Bytes :=
  0x7B :: joinCommas (d.entries.map fun (k, v) => quoteString k ++ 0x3A :: compactValue v)
    ++ [0x7D]

/-- **Indented text**: `render` indented by two spaces per level, and a final line break. The
only refusal is nesting deeper than the layout allows. -/
def pretty (d : Document) : Except JsonError Bytes :=
  (indent d.render).map (· ++ [0x0A])

end Document

end Inventory
