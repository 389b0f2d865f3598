import Inventory.Text.Conversion
/-!
# printf

`printf FORMAT ARG…` writes its format with escapes replaced and conversions filled from the
arguments, and applies the format again while arguments remain, as long as the last pass took
any. Missing arguments read as empty text, zero or the character zero.

Two dialects share the machine and differ in the details:

* the **shell's** built-in reads escapes `\\ \a \b \e \f \n \r \t \v` and one to three octal
  digits; any other backslash stands for itself. A conversion is flags `#-+ 0`, a width and a
  precision (digits or `*`), and one of `b c s d i o u x X a A e E f F g G`; anything else
  is an invalid directive, and a `%` at the end misses its letter. Both end the command with
  status 2. Reals are read in double precision;
* the **GNU** program also reads `\"`, `\c` (stop), `\xHH`, `\uHHHH` and `\UHHHHHHHH`, allows
  length letters `h l L j z t` and the flags `'` and `I`, refuses flags that do not fit the
  letter, takes `%b` and `%q` only without flags, and reads reals in extended precision. Its
  errors end the program with status 1.

A numeric argument is read as by the C library: `0x` hexadecimal, leading-zero octal, or a
quote and a character whose first byte is the value. An argument that is not a number, is
not read completely, or is out of range is reported, its value still used, and the status
becomes 1.
-/

set_option autoImplicit false

namespace Inventory.Tools

open Number Conversion

/-- Which printf a format is run by. -/
inductive Dialect where
  /-- The shell's built-in. -/
  | shell
  /-- The GNU program. -/
  | gnu
  deriving DecidableEq, Repr

/-- An octal digit byte. -/
def isOctal (c : UInt8) : Bool := 0x30 ≤ c && c ≤ 0x37

/-- A decimal digit byte. -/
def isDecimal (c : UInt8) : Bool := 0x30 ≤ c && c ≤ 0x39

/-- A hexadecimal digit byte. -/
def isHexByte (c : UInt8) : Bool := isDigitIn 16 c

/-- The byte a letter after a backslash stands for in the shell's escapes. -/
def letterEscape (c : UInt8) : Option UInt8 :=
  match c with
  | 0x5C => some 0x5C
  | 0x61 => some 0x07
  | 0x62 => some 0x08
  | 0x65 => some 0x1B
  | 0x66 => some 0x0C
  | 0x6E => some 0x0A
  | 0x72 => some 0x0D
  | 0x74 => some 0x09
  | 0x76 => some 0x0B
  | _ => none

/-- Up to `n` octal digits at the front: their value and how many there were. -/
def octalRun (n : Nat) (s : Bytes) : Nat × Nat :=
  let ds := (s.takeWhile isOctal).take n
  (ds.foldl (fun acc d => acc * 8 + (d.toNat - 48)) 0, ds.length)

/-- The UTF-8 bytes of a code point. -/
def utf8Of (cp : Nat) : Bytes := Utf8.ofString (String.singleton (Char.ofNat cp))

/-- What an escape after a backslash gives. -/
inductive Escape where
  /-- Bytes to write, and how many bytes after the backslash the escape took. -/
  | bytes (out : Bytes) (len : Nat)
  /-- `\c`: stop all output. -/
  | stop
  /-- A malformed escape, with its message. -/
  | fault (message : String)

/-- The characters that name themselves in a message: a code point as `\uHHHH`. -/
def hexWidth (width n : Nat) : String :=
  let ds := (Nat.toDigits 16 n).map Char.toLower
  String.ofList (List.replicate (width - ds.length) '0' ++ ds)

/-- **An escape** of a format (or, with `inString`, of a `%b` argument) after its backslash. -/
def escape (d : Dialect) (inString : Bool) (s : Bytes) : Escape :=
  match d, s with
  | _, [] => .bytes [0x5C] 0
  | .shell, c :: rest =>
    if inString && c == 0x63 then .stop
    else if inString && c == 0x30 && (rest.head?.map isOctal).getD false then
      let (v, n) := octalRun 3 rest
      .bytes [v.toUInt8] (1 + n)
    else if isOctal c then
      let (v, n) := octalRun 3 s
      .bytes [v.toUInt8] n
    else
      match letterEscape c with
      | some b => .bytes [b] 1
      | none => .bytes [0x5C] 0
  | .gnu, c :: rest =>
    if c == 0x78 then
      let ds := (rest.takeWhile isHexByte).take 2
      if ds.isEmpty then .fault "missing hexadecimal number in escape"
      else .bytes [(digitsValue 16 ds).toUInt8] (1 + ds.length)
    else if isOctal c then
      let skip := if inString && c == 0x30 then 1 else 0
      let (v, n) := octalRun 3 (s.drop skip)
      .bytes [v.toUInt8] (skip + n)
    else if c == 0x63 then .stop
    else if c == 0x22 then .bytes [0x22] 1
    else if c == 0x75 || c == 0x55 then
      let width := if c == 0x75 then 4 else 8
      let ds := rest.take width
      if ds.length < width || !ds.all isHexByte then .fault "missing hexadecimal number in escape"
      else
        let v := digitsValue 16 ds
        if (v ≤ 0x9F && v != 0x24 && v != 0x40 && v != 0x60) || (0xD800 ≤ v && v ≤ 0xDFFF) then
          .fault ("invalid universal character name \\" ++ String.singleton (Char.ofNat c.toNat) ++
            hexWidth width v)
        else .bytes (utf8Of v) (1 + width)
    else
      match letterEscape c with
      | some b => .bytes [b] 1
      | none => .bytes [0x5C, c] 1

/-- **A `%b` argument** with its escapes replaced, and whether `\c` stopped the output. -/
def escapedString (d : Dialect) (fuel : Nat) (s : Bytes) : Except String (Bytes × Bool) :=
  match fuel, s with
  | 0, _ => .ok ([], false)
  | _, [] => .ok ([], false)
  | k + 1, 0x5C :: rest =>
    match escape d true rest with
    | .stop => .ok ([], true)
    | .fault m => .error m
    | .bytes out n => do
      let (more, stop) ← escapedString d k (rest.drop n)
      .ok (out ++ more, stop)
  | k + 1, c :: rest => do
    let (more, stop) ← escapedString d k rest
    .ok (c :: more, stop)

/-! ## The machine -/

/-- The state of a run: arguments left, whether this pass took any, output, messages in order,
the status so far, and whether output has stopped. -/
structure Run where
  args : List Bytes
  took : Bool := false
  out : Bytes := []
  messages : List String := []
  status : Nat := 0
  stopped : Bool := false
  /-- A fatal error ended the run. -/
  failed : Bool := false

/-- Write bytes. -/
def Run.write (r : Run) (bs : Bytes) : Run := { r with out := r.out ++ bs }

/-- Report a message. -/
def Run.warn (r : Run) (m : String) : Run := { r with messages := r.messages ++ [m] }

/-- End the run with a fatal error. -/
def Run.fail (d : Dialect) (r : Run) (m : String) : Run :=
  { r.warn m with failed := true, status := if d == .shell then 2 else 1 }

/-- Take the next argument, if any. -/
def Run.next (r : Run) : Option Bytes × Run :=
  match r.args with
  | a :: rest => (some a, { r with args := rest, took := true })
  | [] => (none, r)

/-- How an argument is named in a message. -/
def argName (d : Dialect) (a : Bytes) : String :=
  match d with
  | .shell => Utf8.decode a
  | .gnu => "‘" ++ Utf8.decode a ++ "’"

/-- Check that an argument was read completely and in range. -/
def Run.verify (d : Dialect) (r : Run) (a : Bytes) (used : Nat) (outOfRange : Bool) : Run :=
  if used < a.length then
    let what := if used == 0 then
        (if d == .shell then "expected numeric value" else "expected a numeric value")
      else (if d == .shell then "not completely converted" else "value not completely converted")
    { r.warn (argName d a ++ ": " ++ what) with status := max r.status 1 }
  else if outOfRange then
    { r.warn (argName d a ++ ": Numerical result out of range") with status := max r.status 1 }
  else r

/-- A quoted character argument: its first byte's value, and the bytes after it. -/
def charConstant (a : Bytes) : Option (Nat × Bytes) :=
  match a with
  | 0x27 :: rest | 0x22 :: rest => some ((rest.head?.map UInt8.toNat).getD 0, rest.drop 1)
  | _ => none

/-- Warn about characters after a character constant (the GNU program does). -/
def Run.constantTail (d : Dialect) (r : Run) (tail : Bytes) : Run :=
  if d == .gnu && !tail.isEmpty then
    r.warn ("warning: " ++ Utf8.decode tail ++ ": character(s) following character constant have been ignored")
  else r

/-- The next argument as a signed integer. -/
def Run.nextSigned (d : Dialect) (r : Run) : Int × Run :=
  match r.next with
  | (none, r) => (0, r)
  | (some a, r) =>
    match charConstant a with
    | some (v, tail) => (v, r.constantTail d tail)
    | none =>
      let rd := readSigned 0 a
      (rd.value, r.verify d a rd.used rd.outOfRange)

/-- The next argument as an unsigned integer. -/
def Run.nextUnsigned (d : Dialect) (r : Run) : Nat × Run :=
  match r.next with
  | (none, r) => (0, r)
  | (some a, r) =>
    match charConstant a with
    | some (v, tail) => (v, r.constantTail d tail)
    | none =>
      let rd := readUnsigned 0 a
      (rd.value, r.verify d a rd.used rd.outOfRange)

/-- The binary format reals are read in. -/
def Dialect.realFormat : Dialect → BinaryFormat
  | .shell => double
  | .gnu => extended

/-- The next argument as a real. -/
def Run.nextReal (d : Dialect) (r : Run) : BinaryFloat × Run :=
  match r.next with
  | (none, r) => (.finite false 0 0, r)
  | (some a, r) =>
    match charConstant a with
    | some (v, tail) => (.finite false v 0, r.constantTail d tail)
    | none =>
      let rd := readReal d.realFormat a
      -- an underflow to a tiny value is not reported by the GNU program
      let flagged := rd.outOfRange && (d == .shell || match rd.value with
        | .infinite _ => true
        | _ => false)
      (rd.value, r.verify d a rd.used flagged)

/-- A signed value as a C `int`: the low 32 bits, read as signed. -/
def toCInt (v : Int) : Int :=
  let m := v % 4294967296
  if m ≥ 2147483648 then m - 4294967296 else m

/-- A width or precision argument of the GNU program, checked against the `int` range. -/
def Run.nextCount (d : Dialect) (r : Run) (precision : Bool) : Option Int × Run :=
  match r.next with
  | (none, r) => (some 0, r)
  | (some a, r) =>
    let (v, r) := match charConstant a with
      | some (v, tail) => ((v : Int), r.constantTail d tail)
      | none =>
        let rd := readSigned 0 a
        (rd.value, r.verify d a rd.used rd.outOfRange)
    match d with
    | .shell => (some (toCInt v), r)
    | .gnu =>
      if precision then
        if v < 0 then (some (-1), r)
        else if v > 2147483647 then (none, r.fail d ("invalid precision: " ++ argName d a))
        else (some v, r)
      else if v < -2147483648 || v > 2147483647 then
        (none, r.fail d ("invalid field width: " ++ argName d a))
      else (some v, r)

/-- The flag bytes of a dialect. -/
def isFlag (d : Dialect) (c : UInt8) : Bool :=
  c == 0x23 || c == 0x2D || c == 0x2B || c == 0x20 || c == 0x30 ||
    (d == .gnu && (c == 0x27 || c == 0x49))

/-- Apply flag bytes to a specification. -/
def withFlags (flags : Bytes) : Spec :=
  flags.foldl (fun sp c =>
    match c with
    | 0x2D => { sp with left := true }
    | 0x2B => { sp with plus := true }
    | 0x20 => { sp with space := true }
    | 0x23 => { sp with alt := true }
    | 0x30 => { sp with zero := true }
    | _ => sp) {}

/-- Whether the GNU program accepts a conversion letter after the flags given. -/
def gnuAccepts (flags : Bytes) (hasPrecision : Bool) (c : Char) : Bool :=
  let grouped := flags.contains 0x27 || flags.contains 0x49
  "aAcdeEfFgGiosuxX".toList.contains c &&
    !(grouped && "aAceEosxX".toList.contains c) &&
    !(flags.contains 0x23 && "cdisu".toList.contains c) &&
    !(flags.contains 0x30 && "cs".toList.contains c) &&
    !(hasPrecision && c == 'c')

/-- Digits at the front. -/
def digitRun (s : Bytes) : Bytes := s.takeWhile isDecimal

/-- Text of bytes for a message. -/
def bytesText (bs : Bytes) : String := Utf8.decode bs

/-- **One directive**, the text after its `%` given: the run after it and the rest of the
format. -/
def directive (d : Dialect) (r : Run) (s : Bytes) : Run × Bytes :=
  let start := 0x25 :: s
  let flags := s.takeWhile (isFlag d)
  let s1 := s.drop flags.length
  -- the width
  let (width, r, s2) : Option Int × Run × Bytes := match s1 with
    | 0x2A :: rest => let (w, r) := r.nextCount d false; (w, r, rest)
    | _ => let ds := digitRun s1; (if ds.isEmpty then some 0 else some (digitsValue 10 ds), r, s1.drop ds.length)
  if r.failed then (r, []) else
  -- the precision
  let (precision, hasPrecision, r, s3) : Option Int × Bool × Run × Bytes := match s2 with
    | 0x2E :: 0x2A :: rest => let (p, r) := r.nextCount d true; (p, true, r, rest)
    | 0x2E :: rest => let ds := digitRun rest; (some (digitsValue 10 ds), true, r, rest.drop ds.length)
    | _ => (some (-1), false, r, s2)
  if r.failed then (r, []) else
  let s4 := if d == .gnu then s3.dropWhile (fun c => c == 0x68 || c == 0x6C || c == 0x4C || c == 0x6A || c == 0x7A || c == 0x74) else s3
  let specText := start.take (start.length - s4.length + 1)
  match s4 with
  | [] =>
    match d with
    | .shell => (r.fail d "missing format character", [])
    | .gnu => (r.fail d (bytesText specText ++ ": invalid conversion specification"), [])
  | c :: rest =>
    let letter := Char.ofNat c.toNat
    let valid := match d with
      | .shell => "bcsdiouxXaAeEfFgG".toList.contains letter
      | .gnu => gnuAccepts flags hasPrecision letter
    if !valid then
      match d with
      | .shell => (r.fail d (bytesText specText ++ ": invalid directive"), [])
      | .gnu => (r.fail d (bytesText specText ++ ": invalid conversion specification"), [])
    else
      let base := withFlags flags
      let w := (width.getD 0)
      let sp : Spec := { base with
        left := base.left || w < 0
        width := w.natAbs
        precision := match precision with
          | some p => if p < 0 then none else some p.toNat
          | none => none }
      match letter with
      | 'b' =>
        let (a, r) := r.next
        match escapedString d ((a.getD []).length + 1) (a.getD []) with
        | .error m => (r.fail d m, [])
        | .ok (txt, stop) =>
          let r := r.write (Conversion.string sp txt)
          if stop then ({ r with stopped := true }, []) else (r, rest)
      | 'c' =>
        let (a, r) := r.next
        (r.write (Conversion.char sp ((a.bind List.head?).getD 0)), rest)
      | 's' =>
        let (a, r) := r.next
        (r.write (Conversion.string sp (a.getD [])), rest)
      | 'd' | 'i' =>
        let (v, r) := r.nextSigned d
        (r.write (Conversion.signed sp v), rest)
      | 'o' | 'u' | 'x' | 'X' =>
        let (v, r) := r.nextUnsigned d
        (r.write (Conversion.unsigned sp letter v), rest)
      | _ =>
        let (v, r) := r.nextReal d
        (r.write (Conversion.real sp letter d.realFormat.bits v), rest)

/-- The GNU program's `%q`: the argument quoted for the shell, in single quotes unless it is
made of safe characters only. -/
def shellQuoted (a : Bytes) : Bytes :=
  let safe (c : UInt8) : Bool :=
    (0x30 ≤ c && c ≤ 0x39) || (0x41 ≤ c && c ≤ 0x5A) || (0x61 ≤ c && c ≤ 0x7A) ||
      "%+,-./:=@_^".toList.any (·.toNat == c.toNat)
  if a.isEmpty then Conversion.ascii "''"
  else if a.all safe then a
  else
    [0x27] ++ a.flatMap (fun c => if c == 0x27 then Conversion.ascii "'\\''" else [c]) ++ [0x27]

/-- **One pass** of the format; `fuel` bounds its steps. -/
def pass (d : Dialect) : Nat → Run → Bytes → Run
  | 0, r, _ => r
  | _, r, [] => r
  | fuel + 1, r, 0x5C :: rest =>
    match escape d false rest with
    | .stop => { r with stopped := true }
    | .fault m => r.fail d m
    | .bytes out n => pass d fuel (r.write out) (rest.drop n)
  | fuel + 1, r, 0x25 :: rest =>
    match d, rest with
    | _, 0x25 :: more => pass d fuel (r.write [0x25]) more
    | .gnu, 0x62 :: more =>
      let (a, r) := r.next
      match a with
      | none => pass d fuel r more
      | some a =>
        match escapedString d (a.length + 1) a with
        | .error m => r.fail d m
        | .ok (txt, stop) => if stop then { r.write txt with stopped := true } else pass d fuel (r.write txt) more
    | .gnu, 0x71 :: more =>
      let (a, r) := r.next
      pass d fuel (r.write ((a.map shellQuoted).getD [])) more
    | _, _ =>
      let (r, more) := directive d r rest
      if r.failed || r.stopped then r else pass d fuel r more
  | fuel + 1, r, c :: rest => pass d fuel (r.write [c]) rest

/-- **Running a format** over the arguments: passes while arguments remain and the last pass
took one. -/
def runFormat (d : Dialect) (fmt : Bytes) (args : List Bytes) : Run :=
  let rec go (rounds : Nat) (r : Run) : Run :=
    let r := pass d (fmt.length + 1) { r with took := false } fmt
    match rounds with
    | 0 => r
    | k + 1 => if r.failed || r.stopped || r.args.isEmpty || !r.took then r else go k r
  let r := go args.length { args }
  if d == .gnu && !r.failed && !r.stopped && !r.args.isEmpty then
    r.warn ("warning: ignoring excess arguments, starting with " ++ argName d (r.args.headD []))
  else r

end Inventory.Tools
