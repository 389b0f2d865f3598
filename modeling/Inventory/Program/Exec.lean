import Inventory.Shell.Start
import Inventory.Tools.Echo
import Inventory.Tools.Cat
import Inventory.Tools.Od
import Inventory.Tools.Sleep
import Inventory.Tools.Env
/-!
# Starting programs

How a program named by a caller comes to run:

* **Resolving.** A bare name (one without a directory part) is looked up in the directories
  of the search path, in order, for an executable file; a name with a directory part is
  used as given. Looking up a name that contains a slash checks that very path: a directory
  there is `isDir`, a file without the execute right is `access`.
* **Starting.** The file at the path must exist (`noEntry`, `notDir`), must not be a
  directory or a device (`access`), and must be executable (`access`). A file starting with
  `#!` names its interpreter, which is started with the optional argument of that line, the
  script's path and the original arguments; a missing interpreter is `noEntry`. Any other
  file is `noExec`. The host's own programs run as they are.

Nested starts (a shell running a shell) are bounded by fuel.
-/

set_option autoImplicit false

namespace Inventory.Program

/-- The path holds something that may be executed. -/
def executable (ctx : Context) (path : String) : Except Errno Unit :=
  match ctx.files.lookup ctx.cwd path with
  | .error e => .error e
  | .ok .dir => .error .isDir
  | .ok (.file _ true) => .ok ()
  | .ok (.program _) => .ok ()
  | .ok _ => .error .access

/-- The directories of a search path; an empty entry is the working directory. -/
def searchDirs (searchPath : String) : List String :=
  (searchPath.splitOn ":").map fun d => if d.isEmpty then "." else d

/-- **Looking a program up.** -/
def lookPath (ctx : Context) (searchPath name : String) : Except StartError String :=
  if name.any (· == '/') then
    match executable ctx name with
    | .ok () => .ok name
    | .error e => .error (.unusable name e)
  else
    match (searchDirs searchPath).find? (fun d => (executable ctx (Path.join [d, name])).toBool) with
    | some d => .ok (Path.join [d, name])
    | none => .error (.notFound name)

/-- **Resolving a program name**: bare names are looked up, others used as given. -/
def resolve (ctx : Context) (searchPath name : String) : Except StartError String :=
  if Path.base name == name then lookPath ctx searchPath name else .ok name

/-- **Searching a path for a program** as the C library's `execvp` does: the first directory
holding an executable entry; an entry that may not be executed makes the failure `access`. -/
def execSearch (ctx : Context) (searchPath name : String) : Except Errno String :=
  if name.any (· == '/') then .ok name
  else
    let rec go : List String → Errno → Except Errno String
      | [], e => .error e
      | d :: ds, e =>
        let candidate := if d.isEmpty then name else d ++ "/" ++ name
        match executable ctx candidate with
        | .ok () => .ok candidate
        | .error .access => go ds .access
        | .error _ => go ds e
    go (searchPath.splitOn ":") .noEntry

/-- The tool a program name stands for, given how to start programs; the shells are not
among them. -/
def tool? (launch : Launch) (name : String) : Option Tools.Tool :=
  match name with
  | "echo" => some Tools.echo
  | "cat" => some Tools.cat
  | "sleep" => some Tools.sleep
  | "printf" => some Tools.printf
  | "true" => some Tools.succeed
  | "false" => some Tools.fail
  | "od" => some Tools.od
  | "env" => some (Tools.env launch execSearch)
  | _ => none

/-- The interpreter line of a script: the interpreter and its optional argument. -/
def interpreter? (content : Bytes) : Option (String × Option Bytes) :=
  match content with
  | 0x23 :: 0x21 :: rest =>
    let line := rest.takeWhile (· != 0x0A)
    let line := line.dropWhile fun c => c == 0x20 || c == 0x09
    let interp := line.takeWhile fun c => c != 0x20 && c != 0x09
    let arg := (line.drop interp.length).dropWhile fun c => c == 0x20 || c == 0x09
    let arg := (arg.reverse.dropWhile fun c => c == 0x20 || c == 0x09 || c == 0x0D).reverse
    if interp.isEmpty then none else some (Utf8.decode interp, if arg.isEmpty then none else some arg)
  | _ => none

/-- **Running the program at a path**, with its arguments (its own name first) and input. -/
def run : Nat → Launch
  | 0 => fun _ path _ _ => .error (.refused path .noExec)
  | fuel + 1 => fun ctx path argv input =>
    match ctx.files.lookup ctx.cwd path with
    | .error e => .error (.refused path e)
    | .ok .dir => .error (.refused path .access)
    | .ok (.device _) => .error (.refused path .access)
    | .ok (.file content true) =>
      match interpreter? content with
      | none => .error (.refused path .noExec)
      | some (interp, arg) =>
        match executable ctx interp with
        | .ok () =>
          let argv' := Utf8.ofString interp :: (arg.toList ++ [Utf8.ofString path] ++ argv.drop 1)
          match run fuel ctx interp argv' input with
          | .error (.refused _ e) => .error (.refused path e)
          | r => r
        | .error .access => .error (.refused path .access)
        | .error _ => .error (.refused path .noEntry)
    | .ok (.file _ false) => .error (.refused path .access)
    | .ok (.program name) =>
      if name == "sh" || name == "dash" then
        .ok (Shell.start (run fuel) ctx (argv.headD (Utf8.ofString name)) (argv.drop 1) input)
      else
        match tool? (run fuel) name with
        | some tool => .ok (tool ctx (argv.drop 1) input)
        | none => .error (.refused path .noExec)

/-- How deep programs may start programs. -/
def maxNesting : Nat := 16

/-- **Starting a program by name**: resolve it, then run it. The caller's name for the
program is its first argument. -/
def start (ctx : Context) (searchPath name : String) (args : List String) (input : Bytes) :
    Except StartError Outcome := do
  let path ← resolve ctx searchPath name
  run maxNesting ctx path (Utf8.ofString name :: args.map Utf8.ofString) input

end Inventory.Program
