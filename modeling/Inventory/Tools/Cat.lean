import Inventory.Tools.Basic
/-!
# cat

`cat` writes its files one after the other, `-` or no file meaning its input. A file it
cannot read is named on the error stream (`cat: name: reason`), makes the exit code 1, and
the others are still written.

Options may stand anywhere among the files: `-n` numbers every line and `-b` the lines that
are not empty (as `%6d` and a tab), `-s` squeezes runs of empty lines into one, `-E` marks
line ends with `$`, `-T` shows tabs as `^I`, `-v` shows other control bytes as `^X` and bytes
above 127 as `M-` and their low part; `-A` is `-vET`, `-e` is `-vE`, `-t` is `-vT`, `-u` does
nothing. Numbering and squeezing run on across files.
-/

set_option autoImplicit false

namespace Inventory.Tools

open Program

/-- The options of `cat`. -/
def catOptions : OptionSpec :=
  { shorts := ([0x62, 0x65, 0x6E, 0x73, 0x74, 0x75, 0x76, 0x41, 0x45, 0x54] : List UInt8).map (·, false)
    longs := [("number-nonblank", false), ("number", false), ("squeeze-blank", false),
      ("show-nonprinting", false), ("show-ends", false), ("show-tabs", false), ("show-all", false),
      ("help", false), ("version", false)] }

/-- How `cat` shows what it copies. -/
structure CatStyle where
  number : Bool := false
  nonblank : Bool := false
  squeeze : Bool := false
  ends : Bool := false
  tabs : Bool := false
  nonprinting : Bool := false

/-- The style the options ask for. -/
def catStyle (args : List Arg) : CatStyle :=
  let has (c : UInt8) (long : String) := given args c long
  let all := has 0x41 "show-all"
  let e := has 0x65 ""
  let t := has 0x74 ""
  { number := has 0x6E "number" || has 0x62 "number-nonblank"
    nonblank := has 0x62 "number-nonblank"
    squeeze := has 0x73 "squeeze-blank"
    ends := all || e || has 0x45 "show-ends"
    tabs := all || t || has 0x54 "show-tabs"
    nonprinting := all || e || t || has 0x76 "show-nonprinting" }

/-- A byte as `-v` shows it. -/
def visible (tabs : Bool) (c : UInt8) : Bytes :=
  if c == 9 then (if tabs then [0x5E, 0x49] else [9])
  else if c < 32 then [0x5E, c + 64]
  else if c < 127 then [c]
  else if c == 127 then [0x5E, 0x3F]
  else
    let low := c - 128
    [0x4D, 0x2D] ++ (if low < 32 then [0x5E, low + 64] else if low < 127 then [low] else [0x5E, 0x3F])

/-- A line number as `cat` writes it. -/
def lineNumber (n : Nat) : Bytes :=
  let s := toString n
  Utf8.ofString (String.ofList (List.replicate (6 - s.length) ' ') ++ s ++ "\t")

/-- **Showing lines** in a style: the pieces between line ends (the last one ends without
one), the next line number, and whether the line before was empty. -/
def catLines (style : CatStyle) : List Bytes → Nat → Bool → Bytes
  | [], _, _ => []
  | line :: rest, n, prevBlank =>
    let ended := !rest.isEmpty
    if !ended && line.isEmpty then []
    else
      let blank := line.isEmpty
      if style.squeeze && blank && prevBlank then catLines style rest n true
      else
        let numbered := style.number && !(style.nonblank && blank)
        let body := if style.nonprinting then line.flatMap (visible style.tabs)
          else if style.tabs then line.flatMap fun c => if c == 9 then [0x5E, 0x49] else [c]
          else line
        (if numbered then lineNumber n else []) ++ body ++
          (if ended then (if style.ends then [0x24, 0x0A] else [0x0A]) else []) ++
          catLines style rest (if numbered then n + 1 else n) blank

/-- Show a text in a style. -/
def catShow (style : CatStyle) (text : Bytes) : Bytes :=
  if !(style.number || style.squeeze || style.ends || style.tabs || style.nonprinting) then text
  else catLines style (text.splitOn 0x0A) 1 false

/-- **cat.** -/
def cat : Tool := fun ctx args input =>
  match catOptions.scan args with
  | .error m => usageError ctx "cat" m 1
  | .ok parsed =>
    let names := operands parsed
    let names := if names.isEmpty then [[0x2D]] else names
    let step := fun (acc : Bytes × Bytes × Nat × Bool) (n : Bytes) =>
      let (out, err, code, usedInput) := acc
      if n == [0x2D] then (out ++ (if usedInput then [] else input), err, code, true)
      else
        let name := Utf8.decode n
        match ctx.files.read ctx.cwd name with
        | .ok c => (out ++ c, err, code, usedInput)
        | .error e =>
          (out, err ++ Utf8.ofString ("cat: " ++ name ++ ": " ++ e.errno.sentence ++ "\n"), 1, usedInput)
    let (out, err, code, usedInput) := names.foldl step ([], [], 0, false)
    finish ctx (catShow (catStyle parsed) out) err code (if usedInput then input.length else 0)

end Inventory.Tools
