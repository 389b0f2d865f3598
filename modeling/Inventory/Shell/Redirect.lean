import Inventory.Shell.Expand
/-!
# Redirections

A command's redirections are performed in two steps. First their targets are expanded, in
order: a file name to one text, a descriptor word to one digit or `-` (anything else is the
syntax error `Bad fd number`, which ends the shell). Then they are applied, in order: a file
is opened on its descriptor, a descriptor is made a copy of another or closed, a
here-document's body (expanded now) is made readable. The first failure is reported
(`cannot open`, `cannot create`, `Bad file descriptor`) and stops the rest; the command then
fails with status 2.

After the command, each descriptor a redirection touched gets back what it led to before.
-/

set_option autoImplicit false

namespace Inventory.Shell

open Program

/-- **A redirection with its target expanded.** -/
inductive Ready where
  | file (fd : Nat) (mode : OpenMode) (path : Bytes)
  | copy (fd : Nat) (source : Nat)
  | close (fd : Nat)
  /-- A here-document, expanded when it is applied. -/
  | here (fd : Nat) (body : Word)

/-- The descriptor a redirection sets. -/
def Ready.fd : Ready → Nat
  | .file fd _ _ => fd
  | .copy fd _ => fd
  | .close fd => fd
  | .here fd _ => fd

/-- How a failure to open is worded: a missing entry on the way is `No such file` for reading
and `Directory nonexistent` for creating. -/
def openFailure (create : Bool) (e : Errno) : String :=
  if e == .noEntry || e == .notDir then (if create then "Directory nonexistent" else "No such file")
  else e.sentence

namespace State

/-- **Opening a file** on a descriptor: what it reads, or where it writes. -/
def openFile (st : State) (fd : Nat) (mode : OpenMode) (path : Bytes) : Except String State :=
  let p := Utf8.decode path
  let fs := st.ctx.files
  let cwd := st.ctx.cwd
  let created (fs : Files) : Except String State :=
    match fs.locate cwd p with
    | .ok abs => .ok ({ st with ctx := { st.ctx with files := fs } }.setFd fd (.file abs))
    | .error e => .error ("cannot create " ++ p ++ ": " ++ openFailure true e)
  match mode with
  | .read =>
    match fs.lookup cwd p with
    | .ok (.file c _) =>
      let (st, id) := st.newStream c
      .ok (st.setFd fd (.stream id))
    | .ok _ => .ok (st.setFd fd .null)
    | .error e => .error ("cannot open " ++ p ++ ": " ++ openFailure false e)
  | _ =>
    match fs.lookup cwd p with
    | .ok (.device .full) => .ok (st.setFd fd .full)
    | .ok (.device _) => .ok (st.setFd fd .null)
    | .ok .dir => .error ("cannot create " ++ p ++ ": " ++ Errno.isDir.sentence)
    | .ok node =>
      if mode == .write && st.opts.noclobber then
        .error ("cannot create " ++ p ++ ": " ++ Errno.exists.sentence)
      else
        match fs.locate cwd p with
        | .ok abs =>
          let keep := mode == .append || mode == .readWrite
          let x := match node with
            | .file _ x => x
            | _ => false
          created (if keep then fs else fs.put abs (.file [] x))
        | .error e => .error ("cannot create " ++ p ++ ": " ++ openFailure true e)
    | .error _ =>
      match fs.write cwd p [] with
      | .ok fs => created fs
      | .error e => .error ("cannot create " ++ p ++ ": " ++ openFailure true e.errno)

/-- **Applying redirections** in order: the state, and whether all worked. The first failure is
reported on the error stream as it stands then. -/
def applyReady (body : State → Word → State × Bytes) : List Ready → State → State × Bool
  | [], st => (st, true)
  | r :: rest, st =>
    match r with
    | .file fd mode path =>
      match st.openFile fd mode path with
      | .ok st => applyReady body rest st
      | .error m => (st.complain m, false)
    | .copy fd source =>
      match st.channel? source with
      | some c => applyReady body rest (st.setFd fd c)
      | none => (st.complain (toString source ++ ": Bad file descriptor"), false)
    | .close fd => applyReady body rest (st.closeFd fd)
    | .here fd w =>
      let (st, text) := body st w
      if st.ended.isSome then (st, false)
      else
        let (st, id) := st.newStream text
        applyReady body rest (st.setFd fd (.stream id))

/-- **Giving descriptors back** what they led to before. -/
def restoreFds (st : State) (saved : List (Nat × Channel)) (fds : List Nat) : State :=
  fds.foldl (fun st fd =>
    match saved.find? (·.1 == fd) with
    | some (_, c) => st.setFd fd c
    | none => st.closeFd fd) st

end State

/-- **Expanding redirection targets**, in order; an error ends the shell. -/
def expandRedirs (run : Runner) : State → List Redir → State × List Ready
  | st, [] => (st, [])
  | st, r :: rest =>
    let next (st : State) (ready : Ready) : State × List Ready :=
      let (st, more) := expandRedirs run st rest
      (st, ready :: more)
    match r with
    | .file fd mode w =>
      let (st, text) := expandText run st w
      if st.ended.isSome then (st, []) else next st (.file fd mode text)
    | .copy fd _ source => next st (.copy fd source)
    | .close fd _ => next st (.close fd)
    | .copyWord fd _ w =>
      let (st, text) := expandText run st w
      if st.ended.isSome then (st, [])
      else
        match text with
        | [d] =>
          if isDigitByte d then next st (.copy fd (d.toNat - 48))
          else if d == 0x2D then next st (.close fd)
          else (st.fail "Syntax error: Bad fd number", [])
        | _ => (st.fail "Syntax error: Bad fd number", [])
    | .here fd _ body => next st (.here fd body)
    | .pending fd _ => next st (.here fd [])

end Inventory.Shell
