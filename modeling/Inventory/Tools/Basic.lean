import Inventory.Program.Basic
/-!
# The command-line tools: what they share

The small programs of the host are functions of their context, their arguments (after the
program name) and their input, giving an `Outcome`.

Their options are read as the GNU tools read them: `-abc` is three letters, a letter that
takes a value takes the rest of its word or the next word, `--name` (or any prefix naming one
option only) and `--name=value` are long options, `--` ends the options, and operands may
stand between options unless the tool stops at the first operand. Usage errors are reported
as `invalid option -- 'c'`, `option requires an argument -- 'c'` and `unrecognized option
'--name'`, followed by a hint to ask for help.
-/

set_option autoImplicit false

namespace Inventory.Tools

open Program

/-- A tool: context, arguments after the program name, input; its outcome. -/
abbrev Tool := Context → List Bytes → Bytes → Outcome

/-- A finished outcome in a context. -/
def finish (ctx : Context) (out err : Bytes) (code : Nat) (inputUsed : Nat := 0) : Outcome :=
  { stdout := out, stderr := err, status := .exited code, files := ctx.files, clock := ctx.clock,
    inputUsed }

/-- The hint the tools print after a usage error. -/
def tryHelp (name : String) : String := "Try '" ++ name ++ " --help' for more information.\n"

/-- A name quoted in a message. -/
def quoted (s : String) : String := "'" ++ s ++ "'"

/-- An argument as a GNU tool reads it. -/
inductive Arg where
  | short (c : UInt8) (value : Bytes)
  | long (name : String) (value : Bytes)
  | operand (a : Bytes)
  deriving DecidableEq, Repr

/-- The options a tool knows: letters and long names, each with whether it takes a value, and
whether options may follow operands. -/
structure OptionSpec where
  shorts : List (UInt8 × Bool) := []
  longs : List (String × Bool) := []
  permute : Bool := true

/-- The long option a name stands for: itself, or the only option it begins. -/
def OptionSpec.longNamed (spec : OptionSpec) (name : String) : Option (String × Bool) :=
  match spec.longs.find? (·.1 == name) with
  | some o => some o
  | none =>
    match spec.longs.filter (·.1.startsWith name) with
    | [o] => some o
    | _ => none

/-- One cluster of option letters. -/
def shortCluster (spec : OptionSpec) : Nat → Bytes → List Bytes → Except String (List Arg × List Bytes)
  | 0, _, rest => .ok ([], rest)
  | _, [], rest => .ok ([], rest)
  | k + 1, c :: cs, rest =>
    match spec.shorts.find? (·.1 == c) with
    | none => .error ("invalid option -- '" ++ Utf8.decode [c] ++ "'")
    | some (_, false) => do
      let (args, rest) ← shortCluster spec k cs rest
      .ok (.short c [] :: args, rest)
    | some (_, true) =>
      if !cs.isEmpty then .ok ([.short c cs], rest)
      else
        match rest with
        | v :: more => .ok ([.short c v], more)
        | [] => .error ("option requires an argument -- '" ++ Utf8.decode [c] ++ "'")

/-- **Reading the arguments** of a tool into options and operands, in order. -/
def scanArgs (spec : OptionSpec) : Nat → List Bytes → Except String (List Arg)
  | 0, args => .ok (args.map .operand)
  | _, [] => .ok []
  | k + 1, a :: rest =>
    match a with
    | [0x2D, 0x2D] => .ok (rest.map .operand)
    | 0x2D :: 0x2D :: body =>
      let name := Utf8.decode (body.takeWhile (· != 0x3D))
      let given := body.drop (name.length + 1)
      let hasValue := body.contains 0x3D
      match spec.longNamed name with
      | none => .error ("unrecognized option '--" ++ name ++ "'")
      | some (full, takes) =>
        if hasValue && !takes then .error ("option '--" ++ full ++ "' doesn't allow an argument")
        else if takes && !hasValue then
          match rest with
          | v :: more => do
            let args ← scanArgs spec k more
            .ok (.long full v :: args)
          | [] => .error ("option '--" ++ full ++ "' requires an argument")
        else do
          let args ← scanArgs spec k rest
          .ok (.long full given :: args)
    | 0x2D :: c :: cs => do
      let (opts, rest) ← shortCluster spec (cs.length + 2) (c :: cs) rest
      let args ← scanArgs spec k rest
      .ok (opts ++ args)
    | _ =>
      if spec.permute then do
        let args ← scanArgs spec k rest
        .ok (.operand a :: args)
      else .ok ((a :: rest).map .operand)

/-- Read a tool's arguments. -/
def OptionSpec.scan (spec : OptionSpec) (args : List Bytes) : Except String (List Arg) :=
  scanArgs spec (args.length + 1) args

/-- The operands among scanned arguments. -/
def operands (args : List Arg) : List Bytes :=
  args.filterMap fun
    | .operand a => some a
    | _ => none

/-- A letter (or its long name) was given. -/
def given (args : List Arg) (c : UInt8) (long : String) : Bool :=
  args.any fun
    | .short d _ => d == c
    | .long n _ => n == long
    | _ => false

/-- A usage error: the message, the hint, and the exit code. -/
def usageError (ctx : Context) (name msg : String) (code : Nat) : Outcome :=
  finish ctx [] (Utf8.ofString (name ++ ": " ++ msg ++ "\n" ++ tryHelp name)) code

end Inventory.Tools
