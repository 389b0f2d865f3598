import Inventory.Tools.Basic
import Inventory.Tools.Printf
/-!
# echo, printf, true and false

* `echo` writes its arguments separated by spaces and ended by a line end. Leading arguments
  made only of the letters `n`, `e`, `E` after a dash are options: `-n` drops the line end,
  `-e` turns escapes on and `-E` off (the default). The escapes are `\a \b \e \f \n \r \t \v
  \\`, `\xHH` (one or two hex digits), `\0NNN` and `\NNN` (octal), and `\c`, which ends all
  output; any other backslash stays.
* `printf` formats its arguments in the GNU dialect; a first `--` is skipped.
* `true` and `false` exit with 0 and 1.
-/

set_option autoImplicit false

namespace Inventory.Tools

open Program

/-- An option argument of `echo`: a dash and only the letters `n`, `e`, `E`. -/
def echoOption (a : Bytes) : Bool :=
  match a with
  | 0x2D :: rest => !rest.isEmpty && rest.all fun c => c == 0x6E || c == 0x65 || c == 0x45
  | _ => false

/-- The octal digits at the front, at most `n`: their value and how many. -/
def octalPrefix (n : Nat) (s : Bytes) : Nat × Nat :=
  let ds := (s.take n).takeWhile isOctal
  (ds.foldl (fun v d => v * 8 + (d.toNat - 48)) 0, ds.length)

/-- The value of a hex digit. -/
def hexValue (c : UInt8) : Nat := (Number.digitValue? c).getD 0

/-- **The escapes of `echo -e`** in a text: the output, and whether `\c` stopped it. -/
def echoEscapes : Nat → Bytes → Bytes × Bool
  | 0, _ => ([], false)
  | _, [] => ([], false)
  | k + 1, 0x5C :: c :: rest =>
    let go (out : Bytes) (rest : Bytes) : Bytes × Bool :=
      let (more, stop) := echoEscapes k rest
      (out ++ more, stop)
    match c with
    | 0x61 => go [7] rest
    | 0x62 => go [8] rest
    | 0x63 => ([], true)
    | 0x65 => go [0x1B] rest
    | 0x66 => go [12] rest
    | 0x6E => go [10] rest
    | 0x72 => go [13] rest
    | 0x74 => go [9] rest
    | 0x76 => go [11] rest
    | 0x5C => go [0x5C] rest
    | 0x78 =>
      match rest with
      | h :: more =>
        if isHexByte h then
          match more with
          | l :: more' =>
            if isHexByte l then go [(hexValue h * 16 + hexValue l).toUInt8] more'
            else go [(hexValue h).toUInt8] more
          | [] => go [(hexValue h).toUInt8] more
        else go [0x5C, 0x78] rest
      | [] => go [0x5C, 0x78] rest
    | 0x30 =>
      let (v, n) := octalPrefix 3 rest
      go [(v % 256).toUInt8] (rest.drop n)
    | _ =>
      if isOctal c then
        let (v, n) := octalPrefix 2 rest
        go [((c.toNat - 48) * Nat.pow 8 n + v) % 256 |>.toUInt8] (rest.drop n)
      else go [0x5C, c] rest
  | k + 1, c :: rest =>
    let (more, stop) := echoEscapes k rest
    (c :: more, stop)

/-- The words of `echo`, separated by spaces; with escapes, `\c` stops everything. -/
def echoBody (escapes : Bool) : List Bytes → Bytes × Bool
  | [] => ([], false)
  | w :: ws =>
    let (txt, stop) := if escapes then echoEscapes (w.length + 1) w else (w, false)
    if stop then (txt, true)
    else
      let (more, stop) := echoBody escapes ws
      (txt ++ (if ws.isEmpty then [] else [0x20]) ++ more, stop)

/-- **echo.** -/
def echo : Tool := fun ctx args _ =>
  let opts := args.takeWhile echoOption
  let words := args.drop opts.length
  let letters := opts.flatMap (·.drop 1)
  let newline := !letters.contains 0x6E
  let escapes := letters.foldl (fun e c => if c == 0x65 then true else if c == 0x45 then false else e) false
  let (body, stopped) := echoBody escapes words
  finish ctx (if newline && !stopped then body ++ [0x0A] else body) [] 0

/-- **printf.** -/
def printf : Tool := fun ctx args _ =>
  let args := match args with
    | [0x2D, 0x2D] :: rest => rest
    | _ => args
  match args with
  | [] => usageError ctx "printf" "missing operand" 1
  | fmt :: rest =>
    let r := runFormat .gnu fmt rest
    finish ctx r.out (Utf8.ofString (String.join (r.messages.map fun m => "printf: " ++ m ++ "\n"))) r.status

/-- **true.** -/
def succeed : Tool := fun ctx _ _ => finish ctx [] [] 0

/-- **false.** -/
def fail : Tool := fun ctx _ _ => finish ctx [] [] 1

end Inventory.Tools
