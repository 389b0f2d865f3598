import Inventory.Shell.State
import Inventory.Shell.Pattern
import Inventory.Shell.Arith
/-!
# Word expansion

A word becomes text in four steps:

1. **Tilde expansion**: a `~` at the start of a word (and, in an assignment, after the `=` and
   after each `:`) followed by a user name, up to a `/`, is that user's home directory; `~`
   alone is `$HOME`. A quoted character in the name leaves the tilde alone.
2. **Parameter, command and arithmetic expansion**, left to right. What each gives is marked:
   text written in the script is *plain*, what an unquoted expansion gives is *split*, and
   quoted text is *quoted*. `"$@"` gives one field per positional parameter, none when there
   are none; elsewhere the parameters are joined by the first character of `IFS`.
3. **Field splitting** of the split text at the bytes of `IFS`: white space separates and is
   dropped at both ends; any other `IFS` byte ends a field, empty or not, together with the
   white space around it. A word that gives nothing at all and held no quotes is no field.
4. **Pathname expansion** of each field with an unquoted `*`, `?` or `[` (unless `set -f`):
   the matching paths, or the field itself when none matches. Then the quotes are gone.

Assignments, redirection targets, here-documents and the word of `case` take only the first
two steps. Expansion errors (`Bad substitution`, `parameter not set`, arithmetic errors,
assigning a read-only variable) end the shell.
-/

set_option autoImplicit false

namespace Inventory.Shell

open Program

/-- How an expanded byte is treated by field splitting and pathname expansion. -/
inductive Mark where
  /-- Written unquoted in the script: a pattern character, never split. -/
  | plain
  /-- Given by an unquoted expansion: split at `IFS`, a pattern character. -/
  | split
  /-- Quoted: never split, never a pattern character. -/
  | quoted
  deriving DecidableEq, Repr

/-- A piece of an expanded word. -/
inductive Bit where
  | char (b : UInt8) (m : Mark)
  /-- A quote stood here: the field exists even if it is empty. -/
  | quoteMark
  /-- The boundary between two positional parameters: always a field boundary when `hard`,
  otherwise separating like white space. -/
  | gap (hard : Bool)
  deriving DecidableEq, Repr

/-- Running a command substitution: the state after it and what it wrote. -/
abbrev Runner := State → Cmd → State × Bytes

/-- Where an expansion takes place. -/
structure Flags where
  /-- Inside double quotes or a here-document. -/
  quoted : Bool := false
  /-- The word will be split into fields. -/
  fields : Bool := false
  /-- The word of `${name op word}` outside quotes: its plain text is split too. -/
  opWord : Bool := false

/-- Bytes with one mark. -/
def marked (m : Mark) (bs : Bytes) : List Bit := bs.map fun b => .char b m

/-- The decimal text of a number. -/
def decimal (n : Nat) : Bytes := Utf8.ofString (toString n)

/-- The decimal text of a signed number. -/
def signedText (v : Int) : Bytes := Utf8.ofString (toString v)

/-- The bytes of expanded bits, without marks. -/
def bitsText (bits : List Bit) : Bytes :=
  bits.filterMap fun
    | .char b _ => some b
    | _ => none

/-- Expanded bits as a pattern: what is not quoted may act. -/
def bitsPattern (bits : List Bit) : List PatChar :=
  bits.filterMap fun
    | .char b m => some (b, m != .quoted)
    | _ => none

/-! ## Tilde expansion -/

/-- The home directory of a user, from the account database. -/
def homeOf (st : State) (user : Bytes) : Option Bytes :=
  if user.isEmpty then st.value? "HOME"
  else
    match st.ctx.files.read "/" "/etc/passwd" with
    | .ok text =>
      (text.splitOn 0x0A).findSome? fun line =>
        let fields := line.splitOn 0x3A
        if fields.head? == some user then fields[5]? else none
    | .error _ => none

/-- A tilde prefix at the front of plain text, ended by `/` (or `:` in an assignment) or by the
end of the word: its replacement and what follows. -/
def tildeAt (st : State) (assignment wordEnds : Bool) (bs : Bytes) : Option (Bytes × Bytes) :=
  match bs with
  | 0x7E :: rest =>
    let name := rest.takeWhile fun c => c != 0x2F && !(assignment && c == 0x3A)
    if name.length < rest.length || wordEnds then
      (homeOf st name).map fun home => (home, rest.drop name.length)
    else none
  | _ => none

/-- Tilde expansion in the plain text of an assignment: after the first `=` and after each
`:`. -/
def assignmentTildes (st : State) (wordEnds : Bool) : Nat → Bool → Bytes → Bytes → Word
  | 0, _, _, acc => [.lit acc.reverse]
  | _, _, [], acc => [.lit acc.reverse]
  | k + 1, seenEq, c :: rest, acc =>
    let opens := c == 0x3A || (c == 0x3D && !seenEq)
    let seenEq := seenEq || c == 0x3D
    if opens then
      match tildeAt st true wordEnds rest with
      | some (home, more) =>
        .lit (c :: acc).reverse :: .quote home :: assignmentTildes st wordEnds k seenEq more []
      | none => assignmentTildes st wordEnds k seenEq rest (c :: acc)
    else assignmentTildes st wordEnds k seenEq rest (c :: acc)

/-- **Tilde expansion** of a word, in an assignment or at the start of a word. -/
def tildeWord (st : State) (assignment : Bool) (w : Word) : Word :=
  let start : Word := match w with
    | .lit bs :: rest =>
      match tildeAt st assignment rest.isEmpty bs with
      | some (home, more) => .quote home :: (if more.isEmpty then rest else .lit more :: rest)
      | none => w
    | _ => w
  if !assignment then start
  else
    let n := start.length
    (start.zipIdx.map fun (p, i) =>
      match p with
      | .lit bs => (assignmentTildes st (i + 1 == n) (bs.length + 1) (i != 0) bs []).filter fun
          | .lit [] => false
          | _ => true
      | p => [p]).flatten

/-! ## Parameters -/

/-- The value of a parameter other than `@` and `*`, if it is set. -/
def paramValue (st : State) (name : String) : Option Bytes :=
  match name with
  | "#" => some (decimal st.params.length)
  | "?" => some (decimal st.status)
  | "-" => some st.optionLetters
  | "$" => some (decimal st.ctx.pid)
  | "!" => st.lastJob.map decimal
  | "0" => some st.arg0
  | _ =>
    if !name.isEmpty && name.all Char.isDigit then
      match name.toNat? with
      | some 0 => some st.arg0
      | some i => st.params[i - 1]?
      | none => none
    else if name == "LINENO" && (st.getVar? name).isNone then
      some (decimal (if st.calls > 0 then st.line + 1 - st.funcLine else st.line))
    else st.value? name

/-- The separator joining positional parameters outside `"$@"`: the first byte of `IFS`, a
space when it is unset, nothing when it is empty. -/
def joiner (st : State) : Bytes :=
  match st.value? "IFS" with
  | some v => v.take 1
  | none => [0x20]

/-- The positional parameters joined into one value. -/
def joinedParams (st : State) : Bytes := (st.params.intersperse (joiner st)).flatten

/-- **The bits of `$@` or `$*`.** -/
def paramsBits (st : State) (fl : Flags) (name : String) : List Bit :=
  if fl.quoted then
    if name == "@" && fl.fields then
      (st.params.map fun p => Bit.quoteMark :: marked .quoted p).intersperse [.gap true] |>.flatten
    else marked .quoted (joinedParams st)
  else if fl.fields then
    (st.params.map (marked .split)).intersperse [.gap false] |>.flatten
  else marked .split (joinedParams st)

/-- The value a parameter operator works on: `$@` and `$*` count as set when there are
positional parameters. -/
def opValue (st : State) (name : String) : Option Bytes :=
  if name == "@" || name == "*" then
    if st.params.isEmpty then none else some (joinedParams st)
  else paramValue st name

/-- Strip trailing line ends. -/
def stripNewlines (bs : Bytes) : Bytes := (bs.reverse.dropWhile (· == 0x0A)).reverse

/-- Arithmetic results assigned back to the shell's variables. -/
def assignAll (st : State) : List (String × Int64) → State
  | [] => st
  | (k, v) :: rest =>
    match st.assign k (signedText v.toInt) with
    | .ok st => assignAll st rest
    | .error msg => st.fail msg

mutual

/-- **Expanding a word** into bits. -/
def expandWord (run : Runner) : Nat → State → Flags → Word → State × List Bit
  | 0, st, _, _ => (st, [])
  | _, st, _, [] => (st, [])
  | k + 1, st, fl, p :: ps =>
    let (st, bits) := expandPart run k st fl p
    if st.ended.isSome then (st, bits)
    else
      let (st, more) := expandWord run k st fl ps
      (st, bits ++ more)

/-- **Expanding a part** into bits. -/
def expandPart (run : Runner) : Nat → State → Flags → Part → State × List Bit
  | 0, st, _, _ => (st, [])
  | k + 1, st, fl, p =>
    match p with
    | .lit bs => (st, marked (if fl.quoted then .quoted else if fl.opWord then .split else .plain) bs)
    | .quote bs => (st, .quoteMark :: marked .quoted bs)
    | .dquote ps =>
      let inner := { fl with quoted := true, opWord := false }
      match ps with
      | [.param "@" .plain] => expandPart run k st inner (.param "@" .plain)
      | _ =>
        let (st, bits) := expandWord run k st inner ps
        (st, .quoteMark :: bits)
    | .param name op => expandParam run k st fl name op
    | .subst c =>
      let (st, out) := run st c
      (st, marked (if fl.quoted then .quoted else .split) (stripNewlines out))
    | .arith ps =>
      let (st, bits) := expandWord run k st { quoted := true } ps
      if st.ended.isSome then (st, [])
      else
        let expr := bitsText bits
        match evalArith (paramValue st) expr with
        | .error e => (st.fail (e.message expr), [])
        | .ok (v, assigned) =>
          let st := assignAll st assigned
          (st, marked (if fl.quoted then .quoted else .split) (signedText v.toInt))

/-- **Expanding a parameter** with its operator. -/
def expandParam (run : Runner) : Nat → State → Flags → String → Expansion → State × List Bit
  | 0, st, _, _, _ => (st, [])
  | k + 1, st, fl, name, op =>
    let value := opValue st name
    let isSet (colon : Bool) : Bool :=
      match value with
      | some v => !(colon && v.isEmpty)
      | none => false
    let valueBits (st : State) : List Bit :=
      if name == "@" || name == "*" then paramsBits st fl name
      else marked (if fl.quoted then .quoted else .split) ((paramValue st name).getD [])
    let unsetError := st.opts.nounset && value.isNone && name != "@" && name != "*"
    let wordFlags : Flags := { fl with opWord := !fl.quoted }
    match op with
    | .plain =>
      if unsetError then (st.fail (name ++ ": parameter not set"), []) else (st, valueBits st)
    | .length =>
      if unsetError then (st.fail (name ++ ": parameter not set"), [])
      else
        let len := if name == "@" || name == "*" then (joinedParams st).length else (value.getD []).length
        (st, marked (if fl.quoted then .quoted else .split) (decimal len))
    | .bad => (st.fail "Bad substitution", [])
    | .useDefault colon w =>
      if isSet colon then (st, valueBits st) else expandWord run k st wordFlags (tildeWord st false w)
    | .useAlternative colon w =>
      if isSet colon then expandWord run k st wordFlags (tildeWord st false w) else (st, [])
    | .assignDefault colon w =>
      if isSet colon then (st, valueBits st)
      else
        let (st, bits) := expandWord run k st { quoted := fl.quoted } (tildeWord st false w)
        if st.ended.isSome then (st, [])
        else if name.all Char.isDigit || !isName (Utf8.ofString name) then
          (st.fail (name ++ ": bad variable name"), [])
        else
          match st.assign name (bitsText bits) with
          | .ok st => (st, valueBits st)
          | .error msg => (st.fail msg, [])
    | .errorIfUnset colon w =>
      if isSet colon then (st, valueBits st)
      else
        let (st, bits) := expandWord run k st { quoted := fl.quoted } (tildeWord st false w)
        if st.ended.isSome then (st, [])
        else
          let text := bitsText bits
          let msg := if !w.isEmpty then Utf8.decode text
            else if colon then "parameter null or not set" else "parameter not set"
          (st.fail (name ++ ": " ++ msg), [])
    | .removePrefix longest w | .removeSuffix longest w =>
      if unsetError then (st.fail (name ++ ": parameter not set"), [])
      else
        let (st, bits) := expandWord run k st {} (tildeWord st false w)
        if st.ended.isSome then (st, [])
        else
          let pat := bitsPattern bits
          let v := value.getD []
          let result := match op with
            | .removePrefix _ _ =>
              match matchingPrefix pat v longest with
              | some n => v.drop n
              | none => v
            | _ =>
              match matchingSuffix pat v longest with
              | some n => v.take (v.length - n)
              | none => v
          (st, marked (if fl.quoted then .quoted else .split) result)

end

/-- How many steps an expansion may take. -/
def expansionFuel : Nat := 1048576

/-! ## Field splitting -/

/-- Field splitting in progress. -/
structure Splitter where
  /-- Fields done, newest first. -/
  done : List (List (UInt8 × Mark)) := []
  /-- The current field, reversed. -/
  cur : List (UInt8 × Mark) := []
  /-- A quote was in the current field. -/
  quoted : Bool := false
  /-- Just after a separator: whether it was white space. -/
  after : Option Bool := none

/-- End the current field. -/
def Splitter.emit (s : Splitter) : Splitter :=
  { s with done := s.cur.reverse :: s.done, cur := [], quoted := false }

/-- A separator, white space or not. -/
def Splitter.separate (s : Splitter) (white : Bool) : Splitter :=
  match s.after with
  | some wasWhite =>
    if white then s
    else if wasWhite then { s with after := some false }
    else { s.emit with after := some false }
  | none =>
    if white && s.cur.isEmpty && !s.quoted then s
    else { s.emit with after := some white }

/-- IFS white space. -/
def isIfsWhite (b : UInt8) : Bool := b == 0x20 || b == 0x09 || b == 0x0A

/-- One bit through the splitter. -/
def Splitter.step (ifs : Bytes) (s : Splitter) : Bit → Splitter
  | .char b .split =>
    if ifs.contains b then s.separate (isIfsWhite b)
    else { s with cur := (b, .split) :: s.cur, after := none }
  | .char b m => { s with cur := (b, m) :: s.cur, after := none }
  | .quoteMark => { s with quoted := true, after := none }
  | .gap false => s.separate true
  | .gap true => { s.emit with after := none }

/-- **Field splitting** of expanded bits. -/
def splitFields (ifs : Bytes) (bits : List Bit) : List (List (UInt8 × Mark)) :=
  let s := bits.foldl (Splitter.step ifs) {}
  let s := if !s.cur.isEmpty || s.quoted then s.emit else s
  s.done.reverse

/-- **Pathname expansion** of a field, or the field itself. -/
def globField (st : State) (field : List (UInt8 × Mark)) : List Bytes :=
  let pat : List PatChar := field.map fun (b, m) => (b, m != .quoted)
  let text := field.map (·.1)
  if st.opts.noglob || !hasMeta pat then [text]
  else
    match glob st.ctx.files st.ctx.cwd pat with
    | [] => [text]
    | paths => paths

/-! ## Entry points -/

/-- **The fields of words** (command words, `for` lists). -/
def expandFields (run : Runner) (st : State) (ws : List Word) : State × List Bytes :=
  ws.foldl (fun (acc : State × List Bytes) w =>
    let (st, out) := acc
    if st.ended.isSome then acc
    else
      let (st, bits) := expandWord run expansionFuel st { fields := true } (tildeWord st false w)
      if st.ended.isSome then (st, out)
      else (st, out ++ (splitFields st.ifs bits).flatMap (globField st))) (st, [])

/-- **A word as one text**: redirection targets and the word of `case`. -/
def expandText (run : Runner) (st : State) (w : Word) : State × Bytes :=
  let (st, bits) := expandWord run expansionFuel st {} (tildeWord st false w)
  (st, bitsText bits)

/-- **An assignment word** as one text, tildes expanded after `=` and `:`. -/
def expandAssignment (run : Runner) (st : State) (w : Word) : State × Bytes :=
  let (st, bits) := expandWord run expansionFuel st {} (tildeWord st true w)
  (st, bitsText bits)

/-- **A pattern word** of `case`. -/
def expandPattern (run : Runner) (st : State) (w : Word) : State × List PatChar :=
  let (st, bits) := expandWord run expansionFuel st {} (tildeWord st false w)
  (st, bitsPattern bits)

/-- **A here-document body**, expanded as double-quoted text. -/
def expandBody (run : Runner) (st : State) (w : Word) : State × Bytes :=
  let (st, bits) := expandWord run expansionFuel st { quoted := true } w
  (st, bitsText bits)

end Inventory.Shell
