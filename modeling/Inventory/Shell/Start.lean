import Inventory.Shell.Eval
/-!
# Starting a shell

A shell is started with options (`-e`, `-x`, `-n`, `-u`, `-v`, `-f`, `-a`, `-C`, with `-o name`
and `+` to clear), then one of: `-c` and a script text (optionally followed by `$0` and the
positional parameters), a script file (then the positional parameters), or nothing, when the
script is its input.

It starts with the valid names of its environment as exported variables, `IFS` (blank, tab,
line end) and `OPTIND` (1) set afresh, `PATH` set to a default when the environment has none,
`PS2` and `PS4` defaulted, and `PWD` exported as the working directory. Errors before any
script runs are reported at line 0 and end the shell with status 2.

Messages of a shell started on a script name the script twice: as `$0` and as the command
running.
-/

set_option autoImplicit false

namespace Inventory.Shell

open Program

/-- **The state a shell starts in.** -/
def State.initial (ctx : Context) (argv0 : Bytes) (opts : Options) : State :=
  let st : State := { ctx, arg0 := argv0, opts }
  let st := ctx.env.foldl (fun (st : State) (k, v) =>
    if isName (Utf8.ofString k) then st.putVar k { value := some (Utf8.ofString v), exported := true }
    else st) st
  let exported (name : String) : Bool := ((st.getVar? name).map (·.exported)).getD false
  let orDefault (st : State) (name : String) (v : String) : State :=
    if (st.getVar? name).isSome then st else st.putVar name { value := some (Utf8.ofString v) }
  let st := st.putVar "IFS" { value := some [0x20, 0x09, 0x0A], exported := exported "IFS" }
  let st := st.putVar "OPTIND" { value := some [0x31], exported := exported "OPTIND" }
  let st := orDefault st "PATH" defaultPath
  let st := orDefault st "PS2" "> "
  let st := orDefault st "PS4" "+ "
  let pwd := match st.value? "PWD" with
    | some p =>
      match ctx.files.locate ctx.cwd (Utf8.decode p) with
      | .ok place => if place == ctx.cwd && Path.isAbs (Utf8.decode p) then p else Utf8.ofString ctx.cwd
      | .error _ => Utf8.ofString ctx.cwd
    | none => Utf8.ofString ctx.cwd
  st.putVar "PWD" { value := some pwd, exported := true }

/-- **The outcome of a finished shell**, which was given `inputLen` bytes of input. -/
def State.outcome (st : State) (inputLen : Nat) : Outcome :=
  let status : Status := match st.ended with
    | some (.exited c) => .exited (c % 256)
    | some e => e
    | none => .exited (st.status % 256)
  { stdout := st.streamText stdoutStream
    stderr := st.streamText stderrStream
    status
    files := st.ctx.files
    clock := st.ctx.clock
    inputUsed := inputLen - (st.streamText stdinStream).length }

/-- **Starting a shell** with its arguments (after its own name) and its input. -/
def start (launch : Launch) (ctx : Context) (argv0 : Bytes) (args : List Bytes) (input : Bytes) :
    Outcome :=
  let early (msg : String) : Outcome :=
    { stderr := argv0 ++ Utf8.ofString (": 0: " ++ msg ++ "\n"), status := .exited 2,
      files := ctx.files, clock := ctx.clock }
  match readShellOptions true (args.length + 1) { opts := {}, rest := args } with
  | .error m => early m
  | .ok r =>
    let st := (State.initial ctx argv0 r.opts).setStream stdinStream input
    if r.command then
      match r.rest with
      | [] => early "-c requires an argument"
      | script :: more =>
        let st := match more with
          | name :: params => { st with arg0 := name, cmdName := some (Utf8.decode name), params }
          | [] => st
        (runScript launch st script).outcome input.length
    else if r.opts.stdin || r.rest.isEmpty then
      let st := { st with opts := { st.opts with stdin := true }, params := r.rest }
      (runScript launch (st.setStream stdinStream []) input).outcome input.length
    else
      match r.rest with
      | file :: params =>
        let path := Utf8.decode file
        match ctx.files.read ctx.cwd path with
        | .ok text =>
          (runScript launch { st with arg0 := file, cmdName := some path, params } text).outcome input.length
        | .error e => early ("cannot open " ++ path ++ ": " ++ openFailure false e.errno)
      | [] => early "-c requires an argument"

end Inventory.Shell
