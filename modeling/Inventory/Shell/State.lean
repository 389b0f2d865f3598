import Inventory.Shell.Syntax
import Inventory.Program.Basic
/-!
# The state of a running shell

What a shell holds while it runs a script:

* **Variables**, each with a value or none (declared but unset), and two marks: exported
  (passed to the programs it starts) and read-only (assigning or unsetting it fails with
  `name: is read only`). Assignments in a shell with `allexport` export.
* **Parameters**: the shell's name `$0`, the positional parameters, and the status of the last
  command `$?`.
* **Functions** by name, **options** (`set -e` and the others) and **traps** by signal number,
  0 standing for the shell's exit.
* **Descriptors.** Each open descriptor leads to a channel: a stream the shell holds (its own
  output and error streams, its input, pipes between commands, captured command output, the
  text of here-documents and of files opened for reading), a regular file written at its end,
  or a device. Writing to a stream appends to it; reading takes from its front.
* **Control**: the line of the command running (for messages), how deep loops and function
  calls are nested, a pending `break`, `continue` or `return`, and whether the shell has ended
  and how.

Messages go to descriptor 2 as `name: line: message`.
-/

set_option autoImplicit false

namespace Inventory.Shell

open Program

/-- A shell variable. -/
structure Var where
  /-- The value; none when the variable is declared but unset. -/
  value : Option Bytes := none
  exported : Bool := false
  readonly : Bool := false
  deriving Repr

/-- The options of the shell set by `set` or on its command line. -/
structure Options where
  /-- `-e`: a failing command ends the shell. -/
  errexit : Bool := false
  /-- `-f`: no pathname expansion. -/
  noglob : Bool := false
  /-- `-n`: read commands without running them. -/
  noexec : Bool := false
  /-- `-u`: expanding an unset parameter is an error. -/
  nounset : Bool := false
  /-- `-x`: each simple command is written to the error stream before it runs. -/
  xtrace : Bool := false
  /-- `-v`: lines are written to the error stream as they are read. -/
  verbose : Bool := false
  /-- `-a`: every assignment exports. -/
  allexport : Bool := false
  /-- `-C`: `>` does not overwrite an existing file. -/
  noclobber : Bool := false
  /-- `-s`: commands are read from the standard input. -/
  stdin : Bool := false
  deriving Repr

/-- The letters of the options, in the order `$-` lists them: the reverse of the order of
`set -o`. -/
def optionTable : List Char := ['u', 'a', 'C', 'v', 'x', 's', 'n', 'f', 'e']

/-- Whether an option, by letter, is set. -/
def Options.get (o : Options) (c : Char) : Bool :=
  match c with
  | 'e' => o.errexit
  | 'f' => o.noglob
  | 'n' => o.noexec
  | 'x' => o.xtrace
  | 'v' => o.verbose
  | 'C' => o.noclobber
  | 'a' => o.allexport
  | 'u' => o.nounset
  | 's' => o.stdin
  | _ => false

/-- Set or clear an option by letter; unknown letters are refused. -/
def Options.set? (o : Options) (c : Char) (on : Bool) : Option Options :=
  match c with
  | 'e' => some { o with errexit := on }
  | 'f' => some { o with noglob := on }
  | 'n' => some { o with noexec := on }
  | 'x' => some { o with xtrace := on }
  | 'v' => some { o with verbose := on }
  | 'C' => some { o with noclobber := on }
  | 'a' => some { o with allexport := on }
  | 'u' => some { o with nounset := on }
  | 's' => some { o with stdin := on }
  | _ => none

/-- Where a descriptor leads. -/
inductive Channel where
  /-- A stream held by the shell. -/
  | stream (id : Nat)
  /-- A regular file, written at its end. -/
  | file (path : String)
  /-- The null device: writes vanish, reads find nothing. -/
  | null
  /-- The full device: writes fail. -/
  | full
  deriving DecidableEq, Repr

/-- A pending change of the flow of control. -/
inductive Flow where
  | normal
  /-- Leave this many enclosing loops. -/
  | breaking (n : Nat)
  /-- Go on with the next round of the `n`th enclosing loop. -/
  | continuing (n : Nat)
  /-- Leave the running function or sourced file. -/
  | returning
  deriving DecidableEq, Repr

/-- The streams the shell starts with. -/
def stdoutStream : Nat := 0
def stderrStream : Nat := 1
def stdinStream : Nat := 2

/-- **The state of a running shell.** -/
structure State where
  ctx : Context
  /-- `$0`, also the name that starts every message. -/
  arg0 : Bytes
  params : List Bytes := []
  vars : List (String × Var) := []
  funcs : List (String × Cmd) := []
  /-- `$?`. -/
  status : Nat := 0
  opts : Options := {}
  fds : List (Nat × Channel) :=
    [(0, .stream stdinStream), (1, .stream stdoutStream), (2, .stream stderrStream)]
  streams : List (Nat × Bytes) := [(stdoutStream, []), (stderrStream, []), (stdinStream, [])]
  nextStream : Nat := 3
  flow : Flow := .normal
  /-- How the shell has ended, once it has. -/
  ended : Option Status := none
  /-- Trap actions by signal number, 0 for the exit. -/
  traps : List (Nat × Bytes) := []
  /-- Enclosing loops. -/
  loops : Nat := 0
  /-- Enclosing function calls. -/
  calls : Nat := 0
  /-- The line the running function was defined on. -/
  funcLine : Nat := 0
  /-- The line of the running command. -/
  line : Nat := 1
  /-- Variables saved by `local` in each enclosing function call, innermost first. -/
  frames : List (List (String × Option Var)) := []
  /-- The status of the last command substitution. -/
  substStatus : Nat := 0
  /-- The argument `getopts` reads next, counted from 1. -/
  optInd : Nat := 1
  /-- Where `getopts` is inside a cluster of option letters; 0 when it is not in one. -/
  optOffset : Nat := 0
  /-- The file creation mask. -/
  mask : Nat := 18
  /-- Background jobs started, by process number, with their exit codes. -/
  jobs : List (Nat × Nat) := []
  /-- The process number of the last background job, `$!`. -/
  lastJob : Option Nat := none
  /-- The built-in command running, which names the messages of commands it runs. -/
  cmdName : Option String := none
  /-- Programs found on the search path, by name. -/
  hashed : List (String × String) := []

namespace State

/-! ## Variables -/

/-- A variable by name. -/
def getVar? (st : State) (name : String) : Option Var := (st.vars.find? (·.1 == name)).map (·.2)

/-- The value of a variable, if it is set. -/
def value? (st : State) (name : String) : Option Bytes := (st.getVar? name).bind (·.value)

/-- Replace or add a variable. -/
def putVar (st : State) (name : String) (v : Var) : State :=
  if st.vars.any (·.1 == name) then
    { st with vars := st.vars.map fun (k, w) => if k == name then (k, v) else (k, w) }
  else { st with vars := st.vars ++ [(name, v)] }

/-- The decimal value of a text of digits, if it is one. -/
def digitsValue? (s : Bytes) : Option Nat :=
  if !s.isEmpty && s.all isDigitByte then some (s.foldl (fun n d => n * 10 + (d.toNat - 48)) 0)
  else none

/-- What assigning some variables resets: `OPTIND` restarts `getopts` at the argument it
names (the first for 0 or a text that is no number), `PATH` forgets where programs were
found. -/
def touched (st : State) (name : String) (value : Bytes) : State :=
  if name == "OPTIND" then
    let n := (digitsValue? value).getD 0
    { st with optInd := if n == 0 then 1 else n, optOffset := 0 }
  else if name == "PATH" then { st with hashed := [] }
  else st

/-- **Assigning a variable**; a read-only one refuses. -/
def assign (st : State) (name : String) (value : Bytes) : Except String State :=
  match st.getVar? name with
  | some v =>
    if v.readonly then .error (name ++ ": is read only")
    else
      let st := st.putVar name { v with value := some value, exported := v.exported || st.opts.allexport }
      .ok (st.touched name value)
  | none => .ok ((st.putVar name { value := some value, exported := st.opts.allexport }).touched name value)

/-- **Unsetting a variable**; a read-only one refuses. -/
def unsetVar (st : State) (name : String) : Except String State :=
  match st.getVar? name with
  | some v =>
    if v.readonly then .error (name ++ ": is read only")
    else .ok { st with vars := st.vars.filter (·.1 != name) }
  | none => .ok st

/-- Mark a variable exported (or read-only), giving it a value when one is given. -/
def mark (st : State) (name : String) (value : Option Bytes) (readonly : Bool) :
    Except String State :=
  let v := (st.getVar? name).getD {}
  if value.isSome && v.readonly then .error (name ++ ": is read only")
  else
    let v := { v with value := value.orElse (fun _ => v.value) }
    .ok (st.putVar name (if readonly then { v with readonly := true } else { v with exported := true }))

/-- The slot of a name in the shell's table of variables: its first letter times sixteen plus
all its letters, modulo 39. -/
def nameSlot (name : String) : Nat :=
  match name.toList with
  | [] => 0
  | c :: _ => name.toList.foldl (fun n d => n + d.toNat) (c.toNat * 16) % 39

/-- The variables the table holds before any other, in the order they are entered. -/
def fixedNames : List String :=
  ["IFS", "MAIL", "MAILPATH", "PATH", "PS1", "PS2", "PS4", "OPTIND", "LINENO"]

/-- The environment passed to programs: the exported variables that are set, in the order of
the table: slot by slot, and in a slot the variable entered last first. -/
def environment (st : State) : List (String × String) :=
  let ranked := st.vars.zipIdx.filterMap fun ((k, v), i) =>
    if v.exported then
      v.value.map fun x => ((nameSlot k, (fixedNames.idxOf? k).getD (fixedNames.length + i)), (k, Utf8.decode x))
    else none
  let sorted := ranked.mergeSort fun a b => a.1.1 < b.1.1 || (a.1.1 == b.1.1 && b.1.2 ≤ a.1.2)
  sorted.map (·.2)

/-- The field separators: `IFS`, or blank, tab and line end when it is unset. -/
def ifs (st : State) : Bytes := (st.value? "IFS").getD [0x20, 0x09, 0x0A]

/-- The letters of the options that are set, as `$-` gives them. -/
def optionLetters (st : State) : Bytes :=
  (optionTable.filter st.opts.get).map fun c => c.toNat.toUInt8

/-! ## Streams and descriptors -/

/-- The channel of a descriptor, if it is open. -/
def channel? (st : State) (fd : Nat) : Option Channel := (st.fds.find? (·.1 == fd)).map (·.2)

/-- Open or replace a descriptor. -/
def setFd (st : State) (fd : Nat) (c : Channel) : State :=
  { st with fds := (st.fds.filter (·.1 != fd)) ++ [(fd, c)] }

/-- Close a descriptor. -/
def closeFd (st : State) (fd : Nat) : State := { st with fds := st.fds.filter (·.1 != fd) }

/-- The content of a stream. -/
def streamText (st : State) (id : Nat) : Bytes := ((st.streams.find? (·.1 == id)).map (·.2)).getD []

/-- Replace the content of a stream. -/
def setStream (st : State) (id : Nat) (bs : Bytes) : State :=
  if st.streams.any (·.1 == id) then
    { st with streams := st.streams.map fun (k, v) => if k == id then (k, bs) else (k, v) }
  else { st with streams := st.streams ++ [(id, bs)] }

/-- A new stream holding some text: its number. -/
def newStream (st : State) (bs : Bytes) : State × Nat :=
  ({ st with streams := st.streams ++ [(st.nextStream, bs)], nextStream := st.nextStream + 1 },
    st.nextStream)

/-- Drop a stream no longer used. -/
def dropStream (st : State) (id : Nat) : State := { st with streams := st.streams.filter (·.1 != id) }

/-- **Writing** to a descriptor: the state after, and whether the write worked. -/
def write (st : State) (fd : Nat) (bs : Bytes) : State × Bool :=
  if bs.isEmpty then (st, true)
  else
    match st.channel? fd with
    | none => (st, false)
    | some (.stream id) => (st.setStream id (st.streamText id ++ bs), true)
    | some .null => (st, true)
    | some .full => (st, false)
    | some (.file path) =>
      match st.ctx.files.find? path with
      | some (.file c x) => ({ st with ctx := { st.ctx with files := st.ctx.files.put path (.file (c ++ bs) x) } }, true)
      | some (.device .null) => (st, true)
      | _ => (st, false)

/-- Write to a descriptor, ignoring failure. -/
def emit (st : State) (fd : Nat) (bs : Bytes) : State := (st.write fd bs).1

/-- What can be read from a descriptor. -/
def readable (st : State) (fd : Nat) : Bytes :=
  match st.channel? fd with
  | some (.stream id) => st.streamText id
  | some (.file path) =>
    match st.ctx.files.find? path with
    | some (.file c _) => c
    | _ => []
  | _ => []

/-- Take `n` bytes from what a descriptor reads. -/
def consume (st : State) (fd : Nat) (n : Nat) : State :=
  match st.channel? fd with
  | some (.stream id) => st.setStream id ((st.streamText id).drop n)
  | _ => st

/-- **A message** on the error stream: the shell's name, the line, the text. -/
def complain (st : State) (msg : String) : State :=
  let name := match st.cmdName with
    | some c => c ++ ": "
    | none => ""
  st.emit 2 (st.arg0 ++ Utf8.ofString (": " ++ toString st.line ++ ": " ++ name ++ msg ++ "\n"))

/-- **An error that ends the shell** with status 2, after its message. -/
def fail (st : State) (msg : String) : State :=
  { st.complain msg with ended := some (.exited 2), status := 2 }

/-- The shell is still running and no `break`, `continue` or `return` is pending. -/
def running (st : State) : Bool := st.ended.isNone && st.flow == .normal

/-! ## Subshells -/

/-- **Back from a subshell**: the parent keeps its own variables, parameters, descriptors and
working directory, and takes the streams, the files and the clock the subshell left. A
signal or the deadline that ended the subshell ends the parent too; otherwise the parent's
status is the subshell's exit code. -/
def rejoin (parent child : State) : State :=
  let st := { parent with
    ctx := { parent.ctx with files := child.ctx.files, clock := child.ctx.clock }
    streams := child.streams
    nextStream := child.nextStream }
  match child.ended with
  | some (.exited c) => { st with status := c }
  | some e => { st with ended := some e, status := e.shellCode }
  | none => { st with status := child.status }

end State

end Inventory.Shell
