import Inventory.Shell.Builtin.Basic
import Inventory.Shell.Test
import Inventory.Tools.Printf
import Inventory.Host.Path
/-!
# Built-in commands that write or test

* `echo` writes its arguments separated by spaces and ended by a line end; only a first `-n`
  is an option (no line end); escapes are always on, `\c` stops all output.
* `printf` formats its arguments in the shell's dialect; its warnings precede its output.
* `test` and `[` evaluate a condition.
* `pwd` writes the working directory; `cd` changes it, textually resolving `..` against the
  working directory, and sets `PWD` and `OLDPWD`; `cd -` goes back and writes where to.
* `umask` writes or sets the file creation mask; `times` writes the times used, which are
  nil here; `true`, `false` and `:` only give a status.
-/

set_option autoImplicit false

namespace Inventory.Shell

/-- The text of an `echo` argument with its escapes replaced, and whether `\c` stopped it. -/
def echoText (w : Bytes) : Bytes × Bool :=
  match Tools.escapedString .shell (w.length + 1) w with
  | .ok r => r
  | .error _ => (w, false)

/-- The words of `echo`, each followed by a space, the last by the line end when wanted. -/
def echoWords (newline : Bool) : List Bytes → Bytes
  | [] => if newline then [0x0A] else []
  | [w] =>
    let (txt, stop) := echoText w
    if stop then txt else txt ++ (if newline then [0x0A] else [])
  | w :: ws =>
    let (txt, stop) := echoText w
    if stop then txt else txt ++ [0x20] ++ echoWords newline ws

/-- **echo.** -/
def echoCmd : Builtin := fun st args =>
  match args with
  | [0x2D, 0x6E] :: rest => (st, { out := echoWords false rest })
  | _ => (st, { out := echoWords true args })

/-- Formatting for `printf`, after its options. -/
def printfRun (st : State) : List Bytes → State × Reply
  | [] => (st, st.raise "printf" "usage: printf format [arg ...]")
  | fmt :: rest =>
    let r := Tools.runFormat .shell fmt rest
    let err := (r.messages.map (st.note "printf")).flatten
    (st, { out := r.out, err, status := r.status, raised := r.failed })

/-- **printf.** -/
def printfCmd : Builtin := fun st args =>
  match args with
  | (0x2D :: c :: cs) :: rest =>
    if c == 0x2D && cs.isEmpty then printfRun st rest
    else (st, st.raise "printf" ("Illegal option -" ++ byteText c))
  | _ => printfRun st args

/-- **test** and **[**. -/
def testCmd (bracket : Bool) : Builtin := fun st args =>
  match runTest st.ctx.files st.ctx.cwd bracket args with
  | .ok b => (st, { status := if b then 0 else 1 })
  | .error msg => (st, st.raise (if bracket then "[" else "test") msg)

/-- **pwd.** -/
def pwdCmd : Builtin := fun st args =>
  match options [(0x4C, false), (0x50, false)] args with
  | .error m => (st, st.raise "pwd" m)
  | .ok _ => (st, { out := Utf8.ofString st.ctx.cwd ++ [0x0A] })

/-- **cd**: the directory is the argument, `$HOME` without one, `$OLDPWD` for `-`; an empty
one is the working directory. -/
def cdCmd : Builtin := fun st args =>
  match options [(0x4C, false), (0x50, false)] args with
  | .error m => (st, st.raise "cd" m)
  | .ok (_, rest) =>
    let (dest, print) : Bytes × Bool := match rest.head? with
      | none => ((st.value? "HOME").getD [], false)
      | some [0x2D] => ((st.value? "OLDPWD").getD [], true)
      | some d => (d, false)
    let target := if dest.isEmpty then "." else Utf8.decode dest
    let place := Path.abs st.ctx.cwd target
    match st.ctx.files.find? place with
    | some .dir =>
      let old := st.ctx.cwd
      let st := { st with ctx := { st.ctx with cwd := place } }
      match st.mark "OLDPWD" (some (Utf8.ofString old)) false with
      | .error m => (st, st.raise "cd" m)
      | .ok st =>
        match st.mark "PWD" (some (Utf8.ofString place)) false with
        | .error m => (st, st.raise "cd" m)
        | .ok st => (st, { out := if print then Utf8.ofString place ++ [0x0A] else [] })
    | _ => (st, st.raise "cd" ("can't cd to " ++ Utf8.decode dest))

/-- The octal text of a mask, four digits. -/
def maskText (m : Nat) : Bytes :=
  [0x30, (0x30 + (m / 64) % 8).toUInt8, (0x30 + (m / 8) % 8).toUInt8, (0x30 + m % 8).toUInt8]

/-- The permissions a mask leaves to one class of users, as letters. -/
def maskLetters (bits : Nat) : String :=
  (if bits / 4 % 2 == 0 then "r" else "") ++ (if bits / 2 % 2 == 0 then "w" else "") ++
    (if bits % 2 == 0 then "x" else "")

/-- **umask**: write the mask (in octal, or with `-S` as letters), or set it from octal
digits. -/
def umaskCmd : Builtin := fun st args =>
  match options [(0x53, false)] args with
  | .error m => (st, st.raise "umask" m)
  | .ok (opts, rest) =>
    match rest with
    | [] =>
      if opts.isEmpty then (st, { out := maskText st.mask ++ [0x0A] })
      else
        let m := st.mask
        (st, { out := Utf8.ofString ("u=" ++ maskLetters (m / 64 % 8) ++ ",g=" ++
          maskLetters (m / 8 % 8) ++ ",o=" ++ maskLetters (m % 8) ++ "\n") })
    | a :: _ =>
      if a.head?.map isDigitByte == some true then
        if a.all fun c => 0x30 ≤ c && c ≤ 0x37 then
          ({ st with mask := a.foldl (fun n d => n * 8 + (d.toNat - 48)) 0 % 512 }, {})
        else (st, st.raise "umask" (illegalNumber a))
      else (st, {})

/-- **times**: the user and system times of the shell and of its children. -/
def timesCmd : Builtin := fun st _ =>
  (st, { out := Utf8.ofString "0m0.000000s 0m0.000000s\n0m0.000000s 0m0.000000s\n" })

/-- A command that only gives a status. -/
def statusCmd (code : Nat) : Builtin := fun st _ => (st, { status := code })

end Inventory.Shell
