import Inventory.Document.Assemble
import Inventory.Manifest
import Inventory.Probe.Run
/-!
# Collecting the inventory

A collection runs the probe and loads the manifest, then builds the document: the probe's
object with the manifest merged over it. A manifest that cannot be loaded counts as absent;
an empty manifest path switches it off. A probe that fails, output that is not one JSON
object, and a document too deep to lay out each end the collection, in that order of
precedence.
-/

set_option autoImplicit false

namespace Inventory

open Json

/-- The outcome of one collection. -/
structure Report where
  /-- The probe command's text. -/
  command : String
  /-- The indented document. -/
  output : Bytes
  document : Document
  manifestIncluded : Bool
  capture : Probe.Capture

/-- Why a collection failed. -/
inductive CollectError where
  | probe (f : Probe.Failure)
  | assemble (e : ParseError)
  | render (e : JsonError)

/-- The message of a failed collection. -/
def CollectError.message : CollectError → String
  | .probe f => "failed to run probe: " ++ f.text
  | .assemble e => "failed to assemble document: " ++ e.message
  | .render e => "failed to render document: " ++ e.message

/-- **Assembling a collection** from a probe run: the manifest is read from the files as they
were before the probe ran. -/
def collectFrom (ctx : Program.Context) (ran : Probe.Ran) (cmd : Probe.Command)
    (manifestPath : String) : Except CollectError Report := do
  let capture ← match ran.failure, ran.capture with
    | some f, _ => throw (.probe f)
    | none, some c => pure c
    | none, none => throw (.probe { message := "probe command is empty" })
  let manifest := if manifestPath.isEmpty then none
    else (loadManifest ctx.files ctx.cwd manifestPath).toOption
  let doc ← match build capture.stdout manifest with
    | .ok d => pure d
    | .error e => throw (.assemble e)
  let output ← match doc.pretty with
    | .ok o => pure o
    | .error e => throw (.render e)
  return { command := cmd.text, output, document := doc, manifestIncluded := manifest.isSome, capture }

/-- **Collecting**: probe, manifest, document. -/
def collect (ctx : Program.Context) (searchPath : String) (cmd : Probe.Command)
    (manifestPath : String) : Except CollectError Report :=
  collectFrom ctx (Probe.run ctx searchPath cmd) cmd manifestPath

end Inventory
