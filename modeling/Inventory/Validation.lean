import Inventory.Schema.Load
import Inventory.Schema.Validate
import Inventory.Host.Path
/-!
# Checking documents against schemas

Three entry points check a JSON document against a JSON Schema: schema and document both as
text, a schema file and a document in memory, and two files. Files are named by path, a
relative path taken from the working directory, and both must exist before either is read.

A schema that does not compile, or a document that does not read, is a **load failure**,
reported with the schema's path (`(string schema)` for text). A document the schema refuses
is **invalid**, with every issue found; an issue of the document root, and one whose path is
empty, is reported at `(root)`.
-/

set_option autoImplicit false

namespace Inventory.Validation

open Schema Json

/-- Why a document was not accepted. -/
inductive Failure where
  /-- The document breaks the schema. -/
  | invalid (issues : List Issue)
  /-- The schema or the document could not be read. -/
  | load (path : String) (cause : String)
  /-- A relative path with no working directory to resolve it; `what` names the file. -/
  | noWorkdir (what : String) (cause : Errno)
  /-- A file that does not exist. -/
  | notFound (what : String) (path : String)
  deriving Repr

/-- The label of a schema given as text. -/
def textLabel : String := "(string schema)"

/-- **The message of a failure**; an invalid document lists its issues one per line. -/
def Failure.message : Failure → String
  | .invalid issues =>
    "validation failed:\n" ++ String.join (issues.zipIdx.map fun (i, k) =>
      "  " ++ toString (k + 1) ++ ". " ++ i.field ++ ": " ++ i.message ++ "\n")
  | .load p c => "failed to load schema " ++ p ++ ": schema validation failed during load: " ++ c
  | .noWorkdir what e =>
    "failed to resolve " ++ (if what == "schema" then "schema" else "JSON") ++ " path: getwd: " ++ e.text
  | .notFound what p => (if what == "schema" then "schema" else "JSON") ++ " file not found: " ++ p

/-- An issue as reported: an empty field is the root. -/
def reported (i : Issue) : Issue := if i.field.isEmpty then { i with field := "(root)" } else i

/-- **Checking a document** against a compiled schema source: the schema first, then the
document. -/
def check (files : Files) (label : String) (src : Source) (doc : Except String Value) :
    Except Failure Unit := do
  let schema ← (compile files src).mapError (.load label)
  let doc ← doc.mapError (.load label)
  match schema.validate doc with
  | [] => pure ()
  | issues => throw (.invalid (issues.map reported))

/-- A file read as a document through its reference. -/
def documentFile (files : Files) (path : String) : Except String Value := do
  let r ← Reference.parse ("file://" ++ path)
  fetch files r

/-- The absolute form of a path, relative ones taken from the working directory. -/
def absolute (what : String) (cwd : Except Errno String) (p : String) : Except Failure String :=
  if Path.isAbs p then .ok (Path.clean p)
  else
    match cwd with
    | .ok d => .ok (Path.join [d, p])
    | .error e => .error (.noWorkdir what e)

/-- **Schema and document as text.** -/
def validateText (schema doc : Bytes) : Except Failure Unit :=
  check {} textLabel (.text schema) (decodeDocument doc)

/-- **A schema file and a document in memory.** -/
def validateDocument (files : Files) (cwd : Except Errno String) (schemaPath : String) (doc : Bytes) :
    Except Failure Unit := do
  let schemaAbs ← absolute "schema" cwd schemaPath
  if files.missing "/" schemaAbs then throw (.notFound "schema" schemaAbs)
  check files schemaAbs (.file schemaAbs) (decodeDocument doc)

/-- **A schema file and a document file.** -/
def validateFiles (files : Files) (cwd : Except Errno String) (schemaPath jsonPath : String) :
    Except Failure Unit := do
  let schemaAbs ← absolute "schema" cwd schemaPath
  let jsonAbs ← absolute "JSON" cwd jsonPath
  if files.missing "/" schemaAbs then throw (.notFound "schema" schemaAbs)
  if files.missing "/" jsonAbs then throw (.notFound "JSON" jsonAbs)
  check files schemaAbs (.file schemaAbs) (documentFile files jsonAbs)

end Inventory.Validation
