import Inventory.Tools.Basic
/-!
# od

`od` dumps its files (or its input) in lines of 16 bytes: each line starts with the offset
(`-A o`, the default, in seven octal digits; `-A d` decimal; `-A x` in six hex digits; `-A n`
none) and holds the bytes in each format asked for (`-c`, `-b`, `-o`, `-x`, `-d`, `-s`, or `-t`
with `c`, `o`, `x`, `u`, `d` and a size of 1, 2 or 4; two-byte octal words by default). A line
equal to the one before is written as `*`, unless `-v`. After the last line comes the total
offset. `-j` skips bytes first, `-N` reads at most so many.

With `-c`, printable bytes stand as themselves, the usual control bytes as `\0 \a \b \f \n \r
\t \v`, and the rest in three octal digits, each right-aligned in four columns.
-/

set_option autoImplicit false

namespace Inventory.Tools

open Program

/-- How `od` shows values. -/
inductive DumpFormat where
  | chars
  | octal (size : Nat)
  | hex (size : Nat)
  | unsigned (size : Nat)
  | signed (size : Nat)
  deriving DecidableEq, Repr

/-- How many bytes a value of a format takes. -/
def DumpFormat.size : DumpFormat → Nat
  | .chars => 1
  | .octal n | .hex n | .unsigned n | .signed n => n

/-- The width of a field, its separating space included. -/
def DumpFormat.width : DumpFormat → Nat
  | .chars => 4
  | .octal n => (if n == 1 then 3 else if n == 2 then 6 else 11) + 1
  | .hex n => 2 * n + 1
  | .unsigned n => (if n == 1 then 3 else if n == 2 then 5 else 10) + 1
  | .signed n => (if n == 1 then 4 else if n == 2 then 6 else 11) + 1

/-- Digits of a number in a base, at least `width` of them. -/
def digitsPadded (base width n : Nat) : String :=
  let ds := Nat.toDigits base n
  String.ofList (List.replicate (width - ds.length) '0' ++ ds)

/-- Right-align a text in a width. -/
def alignRight (width : Nat) (s : String) : String :=
  String.ofList (List.replicate (width - s.length) ' ') ++ s

/-- One byte as `-c` shows it. -/
def charField (c : UInt8) : String :=
  match c with
  | 0 => "\\0"
  | 7 => "\\a"
  | 8 => "\\b"
  | 12 => "\\f"
  | 10 => "\\n"
  | 13 => "\\r"
  | 9 => "\\t"
  | 11 => "\\v"
  | _ => if 32 ≤ c && c < 127 then String.singleton (Char.ofNat c.toNat) else digitsPadded 8 3 c.toNat

/-- The little-endian value of bytes. -/
def littleEndian (bs : Bytes) : Nat := bs.foldr (fun b acc => acc * 256 + b.toNat) 0

/-- One value as a format shows it, without its alignment. -/
def valueText (f : DumpFormat) (bs : Bytes) : String :=
  let v := littleEndian bs
  match f with
  | .chars => charField (bs.headD 0)
  | .octal n => digitsPadded 8 (if n == 1 then 3 else if n == 2 then 6 else 11) v
  | .hex n => digitsPadded 16 (2 * n) v
  | .unsigned _ => toString v
  | .signed n =>
    let half := Nat.pow 2 (8 * n - 1)
    if v ≥ half then "-" ++ toString (2 * half - v) else toString v

/-- The pieces of a block for a format, zero-padded to whole values. -/
def valuesOf (f : DumpFormat) (block : Bytes) : List Bytes :=
  let n := f.size
  let count := (block.length + n - 1) / n
  (List.range count).map fun i =>
    let piece := (block.drop (i * n)).take n
    piece ++ List.replicate (n - piece.length) 0

/-- A line of one format. -/
def formatLine (f : DumpFormat) (block : Bytes) : String :=
  String.join ((valuesOf f block).map fun v => alignRight f.width (valueText f v))

/-- An offset in a radix, or nothing for `n`. -/
def offsetText (radix : Char) (n : Nat) : String :=
  match radix with
  | 'd' => digitsPadded 10 7 n
  | 'x' => digitsPadded 16 6 n
  | 'n' => ""
  | _ => digitsPadded 8 7 n

/-- **The lines of a dump**, from an offset, the block before (for `*`) and whether a `*` was
just written. -/
def dumpLines (formats : List DumpFormat) (radix : Char) (verbose : Bool) :
    Nat → Bytes → Nat → Option Bytes → Bool → String
  | 0, _, _, _, _ => ""
  | k + 1, data, offset, prev, starred =>
    if data.isEmpty then ""
    else
      let block := data.take 16
      let rest := data.drop 16
      let next := offset + block.length
      if !verbose && block.length == 16 && prev == some block then
        (if starred then "" else "*\n") ++ dumpLines formats radix verbose k rest next (some block) true
      else
        let pad := (offsetText radix offset).length
        let lines := formats.zipIdx.map fun (f, i) =>
          (if i == 0 then offsetText radix offset else String.ofList (List.replicate pad ' ')) ++
            formatLine f block ++ "\n"
        String.join lines ++ dumpLines formats radix verbose k rest next (some block) false

/-- A format of a letter and a size. -/
def sizedFormat (c : UInt8) (n : Nat) : Option DumpFormat :=
  if n != 1 && n != 2 && n != 4 then none
  else
    match c with
    | 0x6F => some (.octal n)
    | 0x78 => some (.hex n)
    | 0x75 => some (.unsigned n)
    | 0x64 => some (.signed n)
    | _ => none

/-- A format named by `-t`: `c`, or a letter and an optional size (that of an `int` without
one). -/
def typeFormat (spec : Bytes) : Option DumpFormat :=
  match spec with
  | [0x63] => some .chars
  | [c] => sizedFormat c 4
  | [c, d] => sizedFormat c (d.toNat - 48)
  | _ => none

/-- The options of `od`. -/
def odOptions : OptionSpec :=
  { shorts := [(0x41, true), (0x6A, true), (0x4E, true), (0x74, true), (0x76, false),
      (0x63, false), (0x62, false), (0x6F, false), (0x78, false), (0x64, false), (0x73, false)]
    longs := [("address-radix", true), ("skip-bytes", true), ("read-bytes", true),
      ("format", true), ("output-duplicates", false), ("help", false), ("version", false)] }

/-- **od.** -/
def od : Tool := fun ctx args input =>
  match odOptions.scan args with
  | .error m => usageError ctx "od" m 1
  | .ok parsed =>
    let formats := parsed.filterMap fun
      | .short 0x63 _ => some (some DumpFormat.chars)
      | .short 0x62 _ => some (some (.octal 1))
      | .short 0x6F _ => some (some (.octal 2))
      | .short 0x78 _ => some (some (.hex 2))
      | .short 0x64 _ => some (some (.unsigned 2))
      | .short 0x73 _ => some (some (.signed 2))
      | .short 0x74 v => some (typeFormat v)
      | .long "format" v => some (typeFormat v)
      | _ => none
    let bad := parsed.findSome? fun
      | .short 0x74 v | .long "format" v => if (typeFormat v).isNone then some v else none
      | _ => none
    match bad with
    | some v =>
      finish ctx [] (Utf8.ofString ("od: invalid type string '" ++ Utf8.decode v ++ "'\n" ++ tryHelp "od")) 1
    | none =>
      let formats := formats.filterMap id
      let formats := if formats.isEmpty then [DumpFormat.octal 2] else formats
      let radix := (parsed.findSome? fun
        | .short 0x41 v | .long "address-radix" v => (v.head?.map fun c => Char.ofNat c.toNat)
        | _ => none).getD 'o'
      let number (c : UInt8) (long : String) : Option Nat := parsed.findSome? fun
        | .short d v => if d == c then (Utf8.decode v).toNat? else none
        | .long n v => if n == long then (Utf8.decode v).toNat? else none
        | _ => none
      let names := operands parsed
      let names := if names.isEmpty then [[0x2D]] else names
      let (data, err, code, used) := names.foldl (fun (acc : Bytes × Bytes × Nat × Bool) n =>
        let (out, err, code, used) := acc
        if n == [0x2D] then (out ++ (if used then [] else input), err, code, true)
        else
          match ctx.files.read ctx.cwd (Utf8.decode n) with
          | .ok c => (out ++ c, err, code, used)
          | .error e =>
            (out, err ++ Utf8.ofString ("od: " ++ Utf8.decode n ++ ": " ++ e.errno.sentence ++ "\n"), 1, used))
        ([], [], 0, false)
      let skip := (number 0x6A "skip-bytes").getD 0
      let data := data.drop skip
      let data := match number 0x4E "read-bytes" with
        | some n => data.take n
        | none => data
      let verbose := given parsed 0x76 "output-duplicates"
      let body := dumpLines formats radix verbose (data.length + 1) data skip none false
      let tail := if radix == 'n' then "" else offsetText radix (skip + data.length) ++ "\n"
      finish ctx (Utf8.ofString (body ++ tail)) err code (if used then input.length else 0)

end Inventory.Tools
