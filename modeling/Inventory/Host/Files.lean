import Inventory.Host.Path
import Inventory.Text.Utf8
/-!
# Files

The file tree a program sees, as a value: each absolute clean path names a directory, a file
with its bytes and whether it may be executed, a device, or a built-in program. The root is
always a directory.

A path is looked up one element at a time from the root, or from the working directory when
it is relative. Each step looks inside what the steps before reached, which must be a
directory (`notDir` otherwise); `.` stays, `..` goes to the parent, and a name must exist
(`noEntry` otherwise). So `..` is taken on the tree, not on the text: `/etc/passwd/..` fails
where the text `/etc` would not. A trailing slash asks for a directory.

Reading, writing and making directories follow the usual system rules; a failure is an
`Errno` together with the operation and the path as the program gave it.
-/

set_option autoImplicit false

namespace Inventory

/-- Why a file operation failed. -/
inductive Errno where
  | noEntry
  | notDir
  | isDir
  | access
  | io
  | noSpace
  | exists
  | noExec
  | invalid
  | nameTooLong
  deriving DecidableEq, Repr

/-- The system's wording of a failure. -/
def Errno.text : Errno → String
  | .noEntry => "no such file or directory"
  | .notDir => "not a directory"
  | .isDir => "is a directory"
  | .access => "permission denied"
  | .io => "input/output error"
  | .noSpace => "no space left on device"
  | .exists => "file exists"
  | .noExec => "exec format error"
  | .invalid => "invalid argument"
  | .nameTooLong => "file name too long"

/-- The failure as a sentence, as the command-line tools print it. -/
def Errno.sentence : Errno → String
  | .noEntry => "No such file or directory"
  | .notDir => "Not a directory"
  | .isDir => "Is a directory"
  | .access => "Permission denied"
  | .io => "Input/output error"
  | .noSpace => "No space left on device"
  | .exists => "File exists"
  | .noExec => "Exec format error"
  | .invalid => "Invalid argument"
  | .nameTooLong => "File name too long"

/-- A failed operation on a path. -/
structure PathError where
  op : String
  path : String
  errno : Errno
  deriving DecidableEq, Repr

/-- The message of a failed operation: the operation, the path, the failure. -/
def PathError.message (e : PathError) : String := e.op ++ " " ++ e.path ++ ": " ++ e.errno.text

/-- The devices a path may name. -/
inductive Device where
  /-- Reads as empty, swallows writes. -/
  | null
  /-- Refuses every write: the device is full. -/
  | full
  /-- Opens, but every read fails with an input/output error. -/
  | unreadable
  deriving DecidableEq, Repr

/-- What a path names. -/
inductive Node where
  | dir
  | file (content : Bytes) (executable : Bool)
  | device (d : Device)
  /-- A program built into the host, run by name. -/
  | program (name : String)
  deriving DecidableEq, Repr

/-- The node is a directory. -/
def Node.isDir : Node → Bool
  | .dir => true
  | _ => false

/-- A file tree: absolute clean paths and what they name. -/
structure Files where
  nodes : List (String × Node) := []
  deriving Repr, Inhabited

namespace Files

/-- The absolute path of a list of elements. -/
def pathOf (elems : List String) : String := "/" ++ "/".intercalate elems

/-- What an absolute clean path names directly. -/
def find? (fs : Files) (p : String) : Option Node :=
  if p == "/" then some .dir else (fs.nodes.find? (·.1 == p)).map (·.2)

/-- The steps of a path as given: its elements, and `.` for a trailing slash. -/
def steps (p : String) : List String :=
  let elems := (p.splitOn "/").filter (!·.isEmpty)
  if p.endsWith "/" then elems ++ ["."] else elems

/-- The longest name one element may have, in bytes. -/
def maxName : Nat := 255

/-- Walk `steps` from the directory `cur` (an element list of an existing node). -/
def walk (fs : Files) : List String → List String → Except Errno (List String)
  | cur, [] => .ok cur
  | cur, e :: rest =>
    match fs.find? (pathOf cur) with
    | some .dir =>
      if e == "." then walk fs cur rest
      else if e == ".." then walk fs cur.dropLast rest
      else if e.utf8ByteSize > maxName then .error .nameTooLong
      else
        match fs.find? (pathOf (cur ++ [e])) with
        | some _ => walk fs (cur ++ [e]) rest
        | none => .error .noEntry
    | _ => .error .notDir

/-- The elements of the working directory `cwd`. -/
def start (cwd p : String) : List String :=
  if Path.isAbs p then [] else (cwd.splitOn "/").filter (!·.isEmpty)

/-- **Locating** a path: the clean absolute place it reaches. -/
def locate (fs : Files) (cwd p : String) : Except Errno String :=
  if p.isEmpty then .error .noEntry
  else if p.any (· == '\x00') then .error .invalid
  else (walk fs (start cwd p) (steps p)).map pathOf

/-- **Looking up** a path: what it names. -/
def lookup (fs : Files) (cwd p : String) : Except Errno Node := do
  let q ← fs.locate cwd p
  match fs.find? q with
  | some n => .ok n
  | none => .error .noEntry

/-- Nothing exists at the path: looking it up fails for want of an entry. -/
def missing (fs : Files) (cwd p : String) : Bool :=
  match fs.lookup cwd p with
  | .error .noEntry => true
  | _ => false

/-- Put a node at an absolute path, replacing what was there. -/
def put (fs : Files) (p : String) (n : Node) : Files :=
  let p := Path.clean p
  if fs.nodes.any (·.1 == p) then
    { nodes := fs.nodes.map fun e => if e.1 == p then (p, n) else e }
  else { nodes := fs.nodes ++ [(p, n)] }

/-- Put a node, creating the directories above it. -/
def putAll (fs : Files) (p : String) (n : Node) : Files :=
  let elems := Path.elements (Path.clean p)
  let dirs := (List.range (elems.length - 1)).map fun k => pathOf (elems.take (k + 1))
  let fs := dirs.foldl (fun acc d => if (acc.find? d).isSome then acc else acc.put d .dir) fs
  fs.put p n

/-- Where a new entry for the path would go: its directory and its name. A path whose last
step is `.` or `..` names a directory that exists or nothing. -/
def entry (fs : Files) (cwd p : String) : Except Errno (String × Option String) := do
  if p.isEmpty then throw .noEntry
  if p.any (· == '\x00') then throw .invalid
  let st := steps p
  match st.getLast? with
  | some e =>
    if e == "." || e == ".." then
      let q ← (walk fs (start cwd p) st).map pathOf
      return (q, none)
    else
      let parent ← (walk fs (start cwd p) st.dropLast).map pathOf
      match fs.find? parent with
      | some .dir =>
        if e.utf8ByteSize > maxName then throw .nameTooLong
        return (parent, some e)
      | _ => throw .notDir
  | none => return ("/", none)

/-- **Reading a file**: `open` failures, then `read` failures. -/
def read (fs : Files) (cwd p : String) : Except PathError Bytes :=
  match fs.lookup cwd p with
  | .error e => .error ⟨"open", p, e⟩
  | .ok .dir => .error ⟨"read", p, .isDir⟩
  | .ok (.file c _) => .ok c
  | .ok (.device .null) => .ok []
  | .ok (.device .full) => .ok []
  | .ok (.device .unreadable) => .error ⟨"read", p, .io⟩
  | .ok (.program _) => .ok (Utf8.ofString "\x7fELF")

/-- **Writing a file**, creating or truncating it. -/
def write (fs : Files) (cwd p : String) (content : Bytes) : Except PathError Files :=
  match fs.entry cwd p with
  | .error e => .error ⟨"open", p, e⟩
  | .ok (_, none) => .error ⟨"open", p, .isDir⟩
  | .ok (dir, some name) =>
    let q := pathOf ((Path.elements dir) ++ [name])
    match fs.find? q with
    | none => .ok (fs.put q (.file content false))
    | some .dir => .error ⟨"open", p, .isDir⟩
    | some (.file _ x) => .ok (fs.put q (.file content x))
    | some (.device .full) => .error ⟨"write", p, .noSpace⟩
    | some (.device _) => .ok fs
    | some (.program _) => .error ⟨"open", p, .access⟩

/-- **Making one directory**; its parent must be one. -/
def mkdir (fs : Files) (cwd p : String) : Except PathError Files :=
  match fs.entry cwd p with
  | .error e => .error ⟨"mkdir", p, e⟩
  | .ok (_, none) => .error ⟨"mkdir", p, .exists⟩
  | .ok (dir, some name) =>
    let q := pathOf ((Path.elements dir) ++ [name])
    match fs.find? q with
    | none => .ok (fs.put q .dir)
    | some _ => .error ⟨"mkdir", p, .exists⟩

/-- The part of a path before its last element, when that part is more than a lone slash. -/
def parentText? (p : String) : Option String :=
  let trimmed := p.toList.reverse.dropWhile (· == '/')
  let parentRev := trimmed.dropWhile (· != '/')
  if parentRev.length > 1 then some (String.ofList (parentRev.drop 1).reverse) else none

/-- **Making a directory and its parents**: nothing to do when it is one already, `notDir`
when something else is there; otherwise the parent first, then the directory itself. -/
def mkdirAll (fs : Files) (cwd p : String) : Except PathError Files :=
  let rec go (fuel : Nat) (fs : Files) (p : String) : Except PathError Files :=
    match fs.lookup cwd p with
    | .ok .dir => .ok fs
    | .ok _ => .error ⟨"mkdir", p, .notDir⟩
    | .error _ =>
      let made : Except PathError Files := match parentText? p, fuel with
        | some parent, k + 1 => go k fs parent
        | _, _ => .ok fs
      match made with
      | .error e => .error e
      | .ok fs' =>
        match fs'.mkdir cwd p with
        | .ok fs'' => .ok fs''
        | .error e =>
          match fs'.lookup cwd p with
          | .ok .dir => .ok fs'
          | _ => .error e
  go p.length fs p

end Files

end Inventory
