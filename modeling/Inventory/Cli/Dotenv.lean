import Inventory.Text.Utf8
/-!
# Environment files

A `.env` file in the working directory sets environment variables that are not set already.
Each statement is `NAME=value` (or `NAME: value`), optionally after `export`; blank lines and
lines starting with `#` are skipped. A name holds letters, digits, `_` and `.`.

* An unquoted value runs to the end of the line, blanks trimmed; a `#` after a blank starts
  a comment.
* A value in single quotes is taken as it stands.
* A value in double quotes has `\n` and `\r` turned into line breaks and other backslashes
  dropped.
* Unquoted and double-quoted values expand `$NAME`, `${NAME}` and `$(NAME`: the value of a
  name set earlier in the same file, else nothing (the process environment is not consulted);
  `\$` keeps the dollar sign.

A file that breaks these rules sets nothing at all.
-/

set_option autoImplicit false

namespace Inventory.Cli.Dotenv

/-- The blanks of a line: not line breaks. -/
def isBlank (c : Char) : Bool :=
  c == '\t' || c == '\x0B' || c == '\x0C' || c == '\r' || c == ' ' || c.toNat == 0x85 || c.toNat == 0xA0

/-- White space, line breaks included. -/
def isWhite (c : Char) : Bool :=
  let v := c.toNat
  (0x09 ≤ v && v ≤ 0x0D) || v = 0x20 || v = 0x85 || v = 0xA0 || v = 0x1680 ||
    (0x2000 ≤ v && v ≤ 0x200A) || v = 0x2028 || v = 0x2029 || v = 0x202F || v = 0x205F ||
    v = 0x3000

/-- A byte of a name, read as the character of the same number: a letter, a digit, `_`, `.`,
or a blank, which is skipped. -/
def nameByteOk (b : UInt8) : Bool :=
  let v := b.toNat
  ('A'.toNat ≤ v && v ≤ 'Z'.toNat) || ('a'.toNat ≤ v && v ≤ 'z'.toNat) ||
    ('0'.toNat ≤ v && v ≤ '9'.toNat) || v == '_'.toNat || v == '.'.toNat ||
    isBlank (Char.ofNat v) ||
    v == 0xAA || v == 0xB5 || v == 0xBA || (0xC0 ≤ v && v ≤ 0xFF && v != 0xD7 && v != 0xF7) ||
    v == 0xB2 || v == 0xB3 || v == 0xB9 || (0xBC ≤ v && v ≤ 0xBE)

/-- Variables read so far, the latest of a repeated name last. -/
abbrev Vars := List (String × String)

/-- The value of a variable set earlier in the file; empty when it was not. -/
def lookupVar (file : Vars) (n : String) : String :=
  match (file.reverse.find? (·.1 == n)) with
  | some (_, v) => v
  | none => ""

/-- A character that may stand in an expanded name. -/
def isNameChar (c : Char) : Bool := ('A' ≤ c && c ≤ 'Z') || ('0' ≤ c && c ≤ '9') || c == '_'

/-- **Expanding variables**: `$NAME`, `${NAME}`, `$(NAME`, each replaced by its value; with a
backslash before the dollar sign, the text as it stands without the backslash. -/
def expandFor (file : Vars) : Nat → List Char → List Char
  | 0, cs => cs
  | _, [] => []
  | fuel + 1, c :: rest =>
    let escaped := c == '\\' && rest.head? == some '$'
    if c == '$' || escaped then
      let afterDollar := if escaped then rest.drop 1 else rest
      let (paren, s1) := match afterDollar with
        | '(' :: r => (['('], r)
        | r => ([], r)
      let (brace, s2) := match s1 with
        | '{' :: r => (['{'], r)
        | r => ([], r)
      let name := s2.takeWhile isNameChar
      let s3 := s2.drop name.length
      let (close, s4) := match s3 with
        | '}' :: r => (['}'], r)
        | r => ([], r)
      let whole := '$' :: paren ++ brace ++ name ++ close
      let replaced :=
        if escaped then whole
        else if name.isEmpty then whole
        else (lookupVar file (String.ofList name)).toList
      replaced ++ expandFor file fuel s4
    else c :: expandFor file fuel rest

/-- Expanding variables in a whole value. -/
def expand (file : Vars) (cs : List Char) : List Char :=
  expandFor file (cs.length + 1) cs

/-- Backslash escapes of a double-quoted value: `\n` and `\r` become line breaks, every other
backslash before a character other than `$` is dropped. -/
def unescape : List Char → List Char
  | [] => []
  | '\\' :: 'n' :: rest => '\n' :: unescape rest
  | '\\' :: 'r' :: rest => '\r' :: unescape rest
  | '\\' :: c :: rest => if c == '$' then '\\' :: '$' :: unescape rest else c :: unescape rest
  | c :: rest => c :: unescape rest

/-! ## Statements -/

/-- The text from the next statement on: blank lines and comment lines skipped. -/
def statementStart : Nat → List Char → Option (List Char)
  | 0, _ => none
  | fuel + 1, cs =>
    match cs.dropWhile isWhite with
    | [] => none
    | '#' :: rest =>
      match rest.dropWhile (· != '\n') with
      | [] => none
      | more => statementStart fuel more
    | more => some more

/-- Drop `export` and the blanks after it. -/
def dropExport (cs : List Char) : List Char :=
  let cs := cs.dropWhile isBlank
  match cs with
  | 'e' :: 'x' :: 'p' :: 'o' :: 'r' :: 't' :: rest =>
    match rest with
    | c :: _ => if isBlank c then rest.dropWhile isBlank else cs
    | [] => cs
  | _ => cs

/-- **The name of a statement** and the text after its `=` or `:`; `none` when a character
that may not stand in a name comes first. Without a separator the name is empty. -/
def readName (cs : List Char) : Option (String × List Char) :=
  let cs := dropExport cs
  let name := cs.takeWhile (fun c => c != '=' && c != ':')
  let rest := cs.drop name.length
  if !(name.all fun c => (Utf8.encodeChar c).all nameByteOk) then none
  else
    match rest with
    | _ :: after =>
      some (String.ofList (name.reverse.dropWhile isWhite).reverse, after.dropWhile isBlank)
    | [] => some ("", cs.dropWhile isBlank)

/-- The position of a comment in an unquoted value: the last `#` after a blank. -/
def commentAt (text : List Char) : Option Nat :=
  let marks := (List.range text.length).filter fun i =>
    i > 0 && text[i]? == some '#' && (text[i - 1]?.map isBlank).getD false
  marks.getLast?

/-- Blanks trimmed from both ends. -/
def trimBlanks (cs : List Char) : List Char :=
  ((cs.dropWhile isBlank).reverse.dropWhile isBlank).reverse

/-- The closing quote of a quoted value: the first quote character not after a backslash. -/
def closingQuote (q : Char) (cs : List Char) : Option Nat :=
  (List.range cs.length).find? fun i =>
    i ≥ 1 && cs[i]? == some q && cs[i - 1]? != some '\\'

/-- **The value of a statement** and the text after it; `none` for an unterminated quote. -/
def readValue (file : Vars) (cs : List Char) :
    Option (String × List Char) :=
  match cs with
  | q :: _ =>
    if q == '"' || q == '\'' then
      match closingQuote q cs with
      | none => none
      | some i =>
        let inner := ((cs.take i).dropWhile (· == q)).reverse.dropWhile (· == q) |>.reverse
        let value := if q == '"' then expand file (unescape inner) else inner
        some (String.ofList value, cs.drop (i + 1))
    else
      let line := cs.takeWhile (fun c => c != '\n' && c != '\r')
      let rest := cs.drop line.length
      let body := match commentAt line with
        | some i => line.take i
        | none => line
      some (String.ofList (expand file (trimBlanks body)), rest)
  | [] => some ("", [])

/-- **Reading a file**: its variables in order, or `none` when it breaks the rules. -/
def readVars : Nat → List Char → Vars → Option Vars
  | 0, _, vars => some vars
  | fuel + 1, cs, vars =>
    match statementStart (cs.length + 1) cs with
    | none => some vars
    | some st => do
      let (name, after) ← readName st
      let (value, rest) ← readValue vars after
      readVars fuel rest (vars ++ [(name, value)])

/-- **The environment after loading a file**: its variables added where not already set, the
last value of a repeated name winning. -/
def load (env : List (String × String)) (content : Bytes) : List (String × String) :=
  let text := (Utf8.decode content).replace "\r\n" "\n"
  let lookup := fun (k : String) => (env.find? (·.1 == k)).map (·.2)
  match readVars (text.length + 1) text.toList [] with
  | none => env
  | some vars =>
    let names := (vars.map (·.1)).eraseDups.filter fun k => !k.isEmpty && (lookup k).isNone
    env ++ names.map fun k => (k, lookupVar vars k)

end Inventory.Cli.Dotenv
