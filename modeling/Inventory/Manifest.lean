import Inventory.Host.Files
/-!
# The image manifest

The manifest is a text file that the image build leaves on the machine. Loading it checks,
in order, that a path is given, that the path can be examined, that it is not a directory,
and that the file can be read; each refusal names the path. A refusal for a file that
cannot be examined or read keeps the system's failure as its cause, so a caller can tell a
missing manifest from an unreadable one.
-/

set_option autoImplicit false

namespace Inventory

/-- Why the manifest could not be loaded. -/
inductive ManifestError where
  | emptyPath
  | unexaminable (path : String) (cause : PathError)
  | directory (path : String)
  | unreadable (path : String) (cause : PathError)
  deriving DecidableEq, Repr

namespace ManifestError

/-- The path the refusal concerns. -/
def path : ManifestError → String
  | .emptyPath => ""
  | .unexaminable p _ => p
  | .directory p => p
  | .unreadable p _ => p

/-- The system failure underneath, if any. -/
def cause : ManifestError → Option PathError
  | .unexaminable _ c => some c
  | .unreadable _ c => some c
  | _ => none

/-- What went wrong, in words. -/
def reason : ManifestError → String
  | .emptyPath => "path is empty"
  | .unexaminable _ _ => "failed to stat file"
  | .directory _ => "path is a directory"
  | .unreadable _ _ => "failed to read file"

/-- **The message of a refusal**: the path, the reason, then the cause. -/
def message (e : ManifestError) : String :=
  "manifest " ++ e.path ++ ": " ++ e.reason ++
    match e.cause with
    | some c => ": " ++ c.message
    | none => ""

/-- The manifest does not exist: the cause is a missing entry. -/
def notExist (e : ManifestError) : Bool :=
  match e.cause with
  | some c => c.errno == .noEntry
  | none => false

end ManifestError

/-- **Loading the manifest** at a path, relative ones taken from the working directory. -/
def loadManifest (fs : Files) (cwd path : String) : Except ManifestError Bytes :=
  if path.isEmpty then .error .emptyPath
  else
    match fs.lookup cwd path with
    | .error e => .error (.unexaminable path ⟨"stat", path, e⟩)
    | .ok .dir => .error (.directory path)
    | .ok _ =>
      match fs.read cwd path with
      | .error e => .error (.unreadable path e)
      | .ok text => .ok text

end Inventory
