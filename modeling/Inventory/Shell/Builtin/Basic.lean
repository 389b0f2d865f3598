import Inventory.Shell.State
import Inventory.Number.Reading
/-!
# Built-in commands: what they share

A built-in command runs inside the shell: it reads and changes the shell's state and answers
with a `Reply`, its output, its messages and its status. An error in it (`raised`) has status
2; the shell goes on after an error in a regular built-in and ends after one in a special
built-in.

Here are what the built-ins share: their messages (`name: line: command: text`), the reading
of counts (`Illegal number`), of option letters (`Illegal option -x`, `No arg for -x option`),
the quoting of values they list, and the shell options set by `set` and on the command line.
-/

set_option autoImplicit false

namespace Inventory.Shell

open Number

/-- **What a built-in command gives back** besides the shell's new state. -/
structure Reply where
  /-- Written to the standard output, after the messages. -/
  out : Bytes := []
  /-- Written to the error stream. -/
  err : Bytes := []
  status : Nat := 0
  /-- The command failed with an error: a special built-in ends the shell. -/
  raised : Bool := false
  deriving Inhabited

/-- A built-in command: the shell's state and the arguments after the command name. -/
abbrev Builtin := State → List Bytes → State × Reply

/-- The character of a byte in a message. -/
def byteText (c : UInt8) : String := Utf8.decode [c]

/-- A message line of a built-in command: shell name, line, command name, text. -/
def State.note (st : State) (cmd msg : String) : Bytes :=
  st.arg0 ++ Utf8.ofString (": " ++ toString st.line ++ ": " ++ cmd ++ ": " ++ msg ++ "\n")

/-- **An error of a built-in command**: its message and status 2. -/
def State.raise (st : State) (cmd msg : String) : Reply :=
  { err := st.note cmd msg, status := 2, raised := true }

/-- **A count** as the built-ins read it: optional space and `+`, decimal digits, trailing space,
and a value from 0 to `2^31 - 1`. -/
def count? (s : Bytes) : Option Nat :=
  let rd := readSigned 10 s
  if rd.used == 0 || rd.outOfRange || !(s.drop rd.used).all isSpace then none
  else if rd.value < 0 || rd.value > 2147483647 then none
  else some rd.value.toNat

/-- The message for a text that is not a count. -/
def illegalNumber (s : Bytes) : String := "Illegal number: " ++ Utf8.decode s

/-- **Option letters** at the front of the arguments: each known letter with its argument
(empty for a letter that takes none), and the operands. A lone `-` is an operand, `--` ends
the options. `spec` lists the letters, each with whether it takes an argument. -/
def readOptions (spec : List (UInt8 × Bool)) :
    Nat → Bytes → List Bytes → Except String (List (UInt8 × Bytes) × List Bytes)
  | 0, _, args => .ok ([], args)
  | k + 1, [], args =>
    match args with
    | (0x2D :: c :: cs) :: rest =>
      if c == 0x2D && cs.isEmpty then .ok ([], rest) else readOptions spec k (c :: cs) rest
    | _ => .ok ([], args)
  | k + 1, c :: cs, args =>
    match spec.find? (·.1 == c) with
    | none => .error ("Illegal option -" ++ byteText c)
    | some (_, false) => do
      let (opts, rest) ← readOptions spec k cs args
      .ok ((c, []) :: opts, rest)
    | some (_, true) =>
      if !cs.isEmpty then do
        let (opts, rest) ← readOptions spec k [] args
        .ok ((c, cs) :: opts, rest)
      else
        match args with
        | a :: more => do
          let (opts, rest) ← readOptions spec k [] more
          .ok ((c, a) :: opts, rest)
        | [] => .error ("No arg for -" ++ byteText c ++ " option")

/-- Read the option letters of a built-in's arguments. -/
def options (spec : List (UInt8 × Bool)) (args : List Bytes) :
    Except String (List (UInt8 × Bytes) × List Bytes) :=
  readOptions spec (args.foldl (fun n a => n + a.length + 1) 1) [] args

/-- **Quoting a value** for the shell to read back: runs of single quotes inside double quotes,
everything else inside single quotes. -/
def singleQuote (s : Bytes) : Bytes :=
  let rec go (fuel : Nat) (s : Bytes) : Bytes :=
    match fuel, s with
    | 0, _ => []
    | _, [] => []
    | k + 1, 0x27 :: _ =>
      let run := s.takeWhile (· == 0x27)
      [0x22] ++ run ++ [0x22] ++ go k (s.drop run.length)
    | k + 1, _ =>
      let run := s.takeWhile (· != 0x27)
      [0x27] ++ run ++ [0x27] ++ go k (s.drop run.length)
  if s.isEmpty then [0x27, 0x27] else go s.length s

/-! ## Shell options -/

/-- The long names of the options, with their letters, in the order `set -o` lists them. -/
def optionNames : List (String × Option Char) :=
  [("errexit", some 'e'), ("noglob", some 'f'), ("ignoreeof", some 'I'),
    ("interactive", some 'i'), ("monitor", some 'm'), ("noexec", some 'n'), ("stdin", some 's'),
    ("xtrace", some 'x'), ("verbose", some 'v'), ("vi", some 'V'), ("emacs", some 'E'),
    ("noclobber", some 'C'), ("allexport", some 'a'), ("notify", some 'b'),
    ("nounset", some 'u'), ("nolog", none), ("debug", none)]

/-- Set or clear an option by letter; letters the shell knows but does not act on are
accepted. -/
def Options.setLetter (o : Options) (c : Char) (on : Bool) : Option Options :=
  match o.set? c on with
  | some o => some o
  | none => if "IimVEb".toList.contains c then some o else none

/-- The listing of `set -o`. -/
def Options.listing (o : Options) : Bytes :=
  Utf8.ofString ("Current option settings\n" ++ String.join (optionNames.map fun (n, c) =>
    let on := match c with
      | some c => o.get c
      | none => false
    n ++ String.ofList (List.replicate (16 - n.length) ' ') ++ (if on then "on" else "off") ++ "\n"))

/-- The listing of `set +o`: commands that restore the options. -/
def Options.commands (o : Options) : Bytes :=
  Utf8.ofString (String.join (optionNames.map fun (n, c) =>
    let on := match c with
      | some c => o.get c
      | none => false
    "set " ++ (if on then "-" else "+") ++ "o " ++ n ++ "\n"))

/-- What reading the option arguments of `set` or of the shell's command line gives: the
options, the `-c` flag, whether `--` (or a lone `-`) ended them, what to list for a bare
`-o`/`+o`, and the arguments after them. -/
structure OptionRead where
  opts : Options
  command : Bool := false
  /-- `--` ended the options: the positional parameters are replaced even by none. -/
  ended : Bool := false
  /-- A bare `-o` (true) or `+o` (false) asks for a listing. -/
  listing : Option Bool := none
  rest : List Bytes := []

/-- One cluster of option letters, `on` for `-` and off for `+`. -/
def optionCluster (cmdline on : Bool) : Nat → OptionRead → Bytes → Except String OptionRead
  | 0, r, _ => .ok r
  | _, r, [] => .ok r
  | k + 1, r, c :: cs =>
    let ch := Char.ofNat c.toNat
    if ch == 'c' && cmdline then optionCluster cmdline on k { r with command := true } cs
    else if ch == 'o' then
      match r.rest with
      | name :: more =>
        match optionNames.find? (·.1 == Utf8.decode name) with
        | some (_, some letter) =>
          match r.opts.setLetter letter on with
          | some o => optionCluster cmdline on k { r with opts := o, rest := more } cs
          | none => .error ("Illegal option -o " ++ Utf8.decode name)
        | some (_, none) => optionCluster cmdline on k { r with rest := more } cs
        | none => .error ("Illegal option -o " ++ Utf8.decode name)
      | [] => optionCluster cmdline on k { r with listing := some on } cs
    else if ch == 'l' && cmdline then optionCluster cmdline on k r cs
    else
      match r.opts.setLetter ch on with
      | some o => optionCluster cmdline on k { r with opts := o } cs
      | none => .error ("Illegal option " ++ (if on then "-" else "+") ++ byteText c)

/-- **Reading option arguments** of `set` (or of the command line when `cmdline`). -/
def readShellOptions (cmdline : Bool) : Nat → OptionRead → Except String OptionRead
  | 0, r => .ok r
  | k + 1, r =>
    match r.rest with
    | (0x2D :: cs) :: more =>
      if cs.isEmpty then
        let o := if cmdline then r.opts else { r.opts with xtrace := false, verbose := false }
        .ok { r with opts := o, rest := more }
      else if cs == [0x2D] then .ok { r with rest := more, ended := true }
      else do
        let r ← optionCluster cmdline true (cs.length + 1) { r with rest := more } cs
        readShellOptions cmdline k r
    | (0x2B :: cs) :: more => do
      let r ← optionCluster cmdline false (cs.length + 1) { r with rest := more } cs
      readShellOptions cmdline k r
    | _ => .ok r

end Inventory.Shell
