import Inventory.Document.Read
import Inventory.Text.Replace
/-!
# Assembling the inventory document

The inventory document is the probe's object with the image manifest added as one string
member, `manifest_file`:

* `flatten` turns every line break of the manifest into one space: it is the replacer of the
  pairs carriage return and line feed, line feed, carriage return (in that order), each
  replaced by a space, so where a carriage return is followed by a line feed the pair is taken
  as one break;
* `manifestDocument` is the one-member document holding the flattened text, written as a JSON
  string (each stray byte written as the escape of `U+FFFD`);
* `build` reads the probe output and, when there is a manifest, merges the manifest document
  over it, so `manifest_file` keeps its place if the probe wrote one and is appended otherwise;
* `assemble` is `build` followed by the indented layout.
-/

set_option autoImplicit false

namespace Inventory

open Json

/-- The key that carries the manifest text. -/
def manifestKey : String := "manifest_file"

/-- The line breaks and what replaces them, in the order the replacer tries them. -/
def lineBreaks : Replacer :=
  ⟨[([0x0D, 0x0A], [0x20]), ([0x0A], [0x20]), ([0x0D], [0x20])]⟩

/-- **Flattening**: each line break becomes one space. -/
def flatten (text : Bytes) : Bytes := lineBreaks.replace text

/-- The document `{"manifest_file": <flattened text>}`. -/
def manifestDocument (text : Bytes) : Document :=
  Document.empty.setRaw manifestKey (quoteBytesWith false (flatten text))

/-- **The inventory document**: the probe's object, with the manifest merged over it. -/
def build (probe : Bytes) (manifest : Option Bytes) : Except ParseError Document := do
  let doc ← Document.parse probe
  match manifest with
  | some text => .ok (doc.merge (manifestDocument text))
  | none => .ok doc

/-- Why assembling failed: the probe output was refused, or the result nests too deep to lay
out. -/
inductive AssembleError where
  | parse (e : ParseError)
  | layout (e : JsonError)
  deriving DecidableEq, Repr

/-- The message of an assembly failure. -/
def AssembleError.message : AssembleError → String
  | .parse e => e.message
  | .layout e => e.message

/-- **Assembling**: `build`, then the indented text. -/
def assemble (probe : Bytes) (manifest : Option Bytes) : Except AssembleError Bytes :=
  match build probe manifest with
  | .error e => .error (.parse e)
  | .ok doc =>
    match doc.pretty with
    | .error e => .error (.layout e)
    | .ok out => .ok out

end Inventory
