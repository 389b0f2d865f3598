import Inventory.Shell.Builtin.Basic
/-!
# Finding commands

A command name is, in this order: a function, a built-in command, or a program found on the
search path `PATH`. A name with a slash is a program at that path. Programs found on the path
are remembered by name until `PATH` changes: `type` then calls them tracked aliases.

On the path, the first directory holding a regular file of the name wins, whether it may be
executed or not; when none does, the failure is a missing entry, or a permission failure when
some directory held something of the name that is not a regular file.

`type` describes each name (`is a shell keyword`, `is a shell function`, `is a shell builtin`,
`is a special shell builtin`, `is /path`, `: not found`), and `command -v` writes the path or
name it would run.
-/

set_option autoImplicit false

namespace Inventory.Shell

/-- The regular built-in commands (the special ones are `specialBuiltins`). -/
def regularBuiltins : List String :=
  ["[", "alias", "bg", "cd", "chdir", "command", "echo", "false", "fg", "getopts", "hash",
    "jobs", "kill", "local", "printf", "pwd", "read", "test", "true", "type", "ulimit", "umask",
    "unalias", "wait"]

/-- The search path the shell starts with when its environment has none. -/
def defaultPath : String := "/usr/local/sbin:/usr/local/bin:/usr/sbin:/usr/bin:/sbin:/bin"

/-- **What a command name leads to.** -/
inductive Found where
  | function (body : Cmd)
  | builtin (special : Bool)
  /-- A program, found earlier (`tracked`) or now. -/
  | program (path : String) (tracked : Bool)
  | missing (e : Errno)

/-- The name leads to a built-in command. -/
def Found.isBuiltin : Found → Bool
  | .builtin _ => true
  | _ => false

/-- Look for a name in the directories of a search path: the first regular file. -/
def findOnPath (fs : Files) (cwd name : String) : List String → Errno → Except Errno String
  | [], e => .error e
  | d :: ds, e =>
    let full := if d.isEmpty then name else d ++ "/" ++ name
    match fs.lookup cwd full with
    | .ok (.file _ _) | .ok (.program _) => .ok full
    | .ok _ => findOnPath fs cwd name ds .access
    | .error .noEntry | .error .notDir => findOnPath fs cwd name ds e
    | .error e' => findOnPath fs cwd name ds e'

/-- The search path in force. -/
def State.searchPath (st : State) : String := ((st.value? "PATH").map Utf8.decode).getD ""

/-- **Finding a command** by name: functions unless `noFunctions`; a given search path instead
of `PATH` neither uses nor records what was found earlier; `checkPath` makes a name with a
slash exist. -/
def State.findCommand (st : State) (name : String) (noFunctions : Bool) (path : Option String)
    (checkPath : Bool) : State × Found :=
  if name.any (· == '/') then
    if checkPath then
      match st.ctx.files.lookup st.ctx.cwd name with
      | .ok _ => (st, .program name false)
      | .error e => (st, .missing e)
    else (st, .program name false)
  else
    match (if noFunctions then none else st.funcs.find? (·.1 == name)) with
    | some (_, body) => (st, .function body)
    | none =>
      match (if path.isNone then st.hashed.find? (·.1 == name) else none) with
      | some (_, p) => (st, .program p true)
      | none =>
        if specialBuiltins.contains name then (st, .builtin true)
        else if regularBuiltins.contains name then (st, .builtin false)
        else
          let dirs := (path.getD st.searchPath).splitOn ":"
          match findOnPath st.ctx.files st.ctx.cwd name dirs .noEntry with
          | .ok p =>
            ((if path.isNone then { st with hashed := st.hashed ++ [(name, p)] } else st),
              .program p false)
          | .error e => (st, .missing e)

/-- **Describing a command** as `type` (verbose) or `command -v` does: the text and the
status. -/
def State.describe (st : State) (name : Bytes) (verbose : Bool) (path : Option String) :
    State × Bytes × Nat :=
  let n := Utf8.decode name
  let line (s : String) : Bytes := Utf8.ofString s ++ [0x0A]
  if keywords.contains n then (st, line (if verbose then n ++ " is a shell keyword" else n), 0)
  else
    let (st, found) := st.findCommand n false path true
    match found with
    | .program p tracked =>
      (st, line (if verbose then n ++ " is" ++ (if tracked then " a tracked alias for" else "") ++ " " ++ p
        else p), 0)
    | .function _ => (st, line (if verbose then n ++ " is a shell function" else n), 0)
    | .builtin special =>
      (st, line (if verbose then n ++ " is a " ++ (if special then "special " else "") ++ "shell builtin"
        else n), 0)
    | .missing _ => (st, if verbose then line (n ++ ": not found") else [], 127)

/-- **type.** -/
def typeCmd : Builtin := fun st args =>
  let (st, out, status) := args.foldl (fun (acc : State × Bytes × Nat) a =>
    let (st, out, status) := acc
    let (st, text, s) := st.describe a true none
    (st, out ++ text, if s != 0 then s else status)) (st, [], 0)
  (st, { out, status })

/-- **command -v**, **-V**: describe the first name; `-p` searches the default path. -/
def commandDescribe (st : State) (verbose : Bool) (defaultSearch : Bool) (names : List Bytes) :
    State × Reply :=
  match names with
  | [] => (st, {})
  | a :: _ =>
    let (st, out, status) := st.describe a verbose (if defaultSearch then some defaultPath else none)
    (st, { out, status })

/-- **hash**: without names, the programs found so far; `-r` forgets them; names are looked
up and remembered. -/
def hashCmd : Builtin := fun st args =>
  match options [(0x72, false)] args with
  | .error m => (st, st.raise "hash" m)
  | .ok (opts, rest) =>
    if !opts.isEmpty then ({ st with hashed := [] }, {})
    else if rest.isEmpty then
      (st, { out := (st.hashed.map fun (_, p) => Utf8.ofString p ++ [0x0A]).flatten })
    else
      rest.foldl (fun (acc : State × Reply) a =>
        let (st, r) := acc
        let name := Utf8.decode a
        let st := { st with hashed := st.hashed.filter (·.1 != name) }
        match st.findCommand name false none false with
        | (st, .missing e) =>
          let msg := if e == .noEntry || e == .notDir then "not found" else e.sentence
          (st, { r with err := r.err ++ st.note "hash" (name ++ ": " ++ msg), status := 1 })
        | (st, _) => (st, r)) (st, {})

end Inventory.Shell
