import Inventory.Shell.Syntax
import Inventory.Host.Files
/-!
# Shell patterns

The patterns of `case`, of `${name#pattern}` and its kin, and of pathname expansion. A pattern
is a list of bytes, each marked active or not: a quoted byte only ever matches itself.

* `*` matches any text, `?` any one byte;
* `[...]` matches one byte of a set: single bytes, ranges `a-z` and classes `[:alpha:]`; a `!`
  first negates it, and a `]` first is a member. A `[` without its `]` matches itself;
* a backslash makes the next byte match itself;
* any other byte matches itself.

Pathname expansion matches each part of a path between slashes against the names in a
directory; a name starting with a dot matches only a part that starts with one. What matches
is listed in byte order.
-/

set_option autoImplicit false

namespace Inventory.Shell

/-- A byte of a pattern and whether it may act as a pattern character. -/
abbrev PatChar := UInt8 × Bool

/-- The byte is a character of a class named in a bracket expression. -/
def inClass (name : Bytes) (c : UInt8) : Option Bool :=
  let upper := 0x41 ≤ c && c ≤ 0x5A
  let lower := 0x61 ≤ c && c ≤ 0x7A
  let digit := isDigitByte c
  let alpha := upper || lower
  let space := c == 0x20 || (0x09 ≤ c && c ≤ 0x0D)
  let print := 0x20 ≤ c && c ≤ 0x7E
  match ascii name with
  | "alpha" => some alpha
  | "digit" => some digit
  | "alnum" => some (alpha || digit)
  | "upper" => some upper
  | "lower" => some lower
  | "space" => some space
  | "blank" => some (c == 0x20 || c == 0x09)
  | "punct" => some (print && c != 0x20 && !alpha && !digit)
  | "print" => some print
  | "graph" => some (print && c != 0x20)
  | "cntrl" => some (c < 0x20 || c == 0x7F)
  | "xdigit" => some (digit || (0x41 ≤ c && c ≤ 0x46) || (0x61 ≤ c && c ≤ 0x66))
  | _ => none

/-- A class name `[:name:]` at the front of a bracket's text: the name and what follows. -/
def className? (s : List PatChar) : Option (Bytes × List PatChar) :=
  match s with
  | (0x3A, _) :: rest =>
    let name := rest.takeWhile (·.1 != 0x3A)
    match rest.drop name.length with
    | (0x3A, _) :: (0x5D, _) :: more => some (name.map (·.1), more)
    | _ => none
  | _ => none

/-- The members of a bracket expression after its `[` (and `!`), tested against a byte:
whether it matched, and what follows the closing `]`; nothing when there is no `]`. -/
def bracketMembers (c : UInt8) : Nat → Bool → List PatChar → Bool → Option (Bool × List PatChar)
  | 0, _, _, _ => none
  | _, _, [], _ => none
  | k + 1, first, (b, active) :: rest, found =>
    if b == 0x5D && active && !first then some (found, rest)
    else if b == 0x5B && active then
      match className? rest with
      | some (name, more) =>
        match inClass name c with
        | some hit => bracketMembers c k false more (found || hit)
        | none => bracketMembers c k false rest (found || c == b)
      | none => bracketMembers c k false rest (found || c == b)
    else
      match rest with
      | (0x2D, true) :: (hi, hiActive) :: more =>
        if hi == 0x5D && hiActive then bracketMembers c k false rest (found || c == b)
        else bracketMembers c k false more (found || (b ≤ c && c ≤ hi))
      | _ => bracketMembers c k false rest (found || c == b)

/-- A bracket expression after its `[`, tested against a byte. -/
def bracket (c : UInt8) (s : List PatChar) : Option (Bool × List PatChar) :=
  match s with
  | (0x21, true) :: rest =>
    (bracketMembers c (rest.length + 1) true rest false).map fun (hit, more) => (!hit, more)
  | _ => bracketMembers c (s.length + 1) true s false

/-- **Matching** a pattern against a whole text; `fuel` bounds the steps. -/
def matchesFrom : Nat → List PatChar → Bytes → Bool
  | 0, _, _ => false
  | _, [], s => s.isEmpty
  | k + 1, (0x2A, true) :: ps, s =>
    (List.range (s.length + 1)).any fun i => matchesFrom k ps (s.drop i)
  | k + 1, (0x3F, true) :: ps, s =>
    match s with
    | _ :: rest => matchesFrom k ps rest
    | [] => false
  | k + 1, (0x5B, true) :: ps, s =>
    match s with
    | c :: rest =>
      match bracket c ps with
      | some (hit, more) => hit && matchesFrom k more rest
      | none => c == 0x5B && matchesFrom k ps rest
    | [] => false
  | k + 1, (0x5C, true) :: (b, _) :: ps, s =>
    match s with
    | c :: rest => c == b && matchesFrom k ps rest
    | [] => false
  | k + 1, (b, _) :: ps, s =>
    match s with
    | c :: rest => c == b && matchesFrom k ps rest
    | [] => false

/-- **A pattern matches a text.** -/
def patternMatches (p : List PatChar) (s : Bytes) : Bool := matchesFrom (p.length + 1) p s

/-- The pattern has an active `*`, `?` or `[`. -/
def hasMeta (p : List PatChar) : Bool :=
  p.any fun (b, active) => active && (b == 0x2A || b == 0x3F || b == 0x5B)

/-- The shortest or longest prefix of a text that the pattern matches, by length. -/
def matchingPrefix (p : List PatChar) (s : Bytes) (longest : Bool) : Option Nat :=
  let lengths := List.range (s.length + 1)
  let lengths := if longest then lengths.reverse else lengths
  lengths.find? fun n => patternMatches p (s.take n)

/-- The shortest or longest suffix of a text that the pattern matches, by length. -/
def matchingSuffix (p : List PatChar) (s : Bytes) (longest : Bool) : Option Nat :=
  let lengths := List.range (s.length + 1)
  let lengths := if longest then lengths.reverse else lengths
  lengths.find? fun n => patternMatches p (s.drop (s.length - n))

/-! ## Pathname expansion -/

/-- The names in a directory, with `.` and `..`. -/
def dirNames (fs : Files) (dir : String) : List String :=
  let prefix' := if dir == "/" then "/" else dir ++ "/"
  let children := fs.nodes.filterMap fun (p, _) =>
    if p.startsWith prefix' && p != dir then
      let rest := p.toList.drop prefix'.length
      if rest.isEmpty || rest.contains '/' then none else some (String.ofList rest)
    else none
  [".", ".."] ++ children

/-- Split a pattern at its slashes, quoted or not. -/
def splitSlashes : List PatChar → List (List PatChar)
  | [] => [[]]
  | (b, m) :: rest =>
    match splitSlashes rest with
    | part :: more => if b == 0x2F then [] :: part :: more else ((b, m) :: part) :: more
    | [] => [[(b, m)]]

/-- The text of pattern bytes with backslash escapes of active backslashes removed. -/
def literalText : List PatChar → Bytes
  | [] => []
  | (0x5C, true) :: (b, _) :: rest => b :: literalText rest
  | (b, _) :: rest => b :: literalText rest

/-- **The paths a pattern matches** under a directory prefix, one part at a time. -/
def globParts (fs : Files) (cwd : String) : Nat → Bytes → List (List PatChar) → List Bytes
  | 0, _, _ => []
  | _, pre, [] => if pre.isEmpty then [] else [pre]
  | k + 1, pre, part :: rest =>
    let last := rest.isEmpty
    if !hasMeta part then
      let name := pre ++ literalText part
      if last then
        match fs.lookup cwd (Utf8.decode name) with
        | .ok _ => [name]
        | .error _ => []
      else globParts fs cwd k (name ++ [0x2F]) rest
    else
      let dir := if pre.isEmpty then "." else Utf8.decode pre
      match fs.lookup cwd dir, fs.locate cwd dir with
      | .ok .dir, .ok abs =>
        let dotted := match part with
          | (0x2E, _) :: _ => true
          | (0x5C, true) :: (0x2E, _) :: _ => true
          | _ => false
        let names := (dirNames fs abs).filter fun nm =>
          (dotted || !nm.startsWith ".") && patternMatches part (Utf8.ofString nm)
        names.flatMap fun nm =>
          let path := pre ++ Utf8.ofString nm
          if last then [path] else globParts fs cwd k (path ++ [0x2F]) rest
      | _, _ => []

/-- Byte order on texts. -/
def bytesLe : Bytes → Bytes → Bool
  | [], _ => true
  | _ :: _, [] => false
  | a :: as, b :: bs => if a == b then bytesLe as bs else a < b

/-- **Pathname expansion** of a pattern: the matching paths in byte order. -/
def glob (fs : Files) (cwd : String) (p : List PatChar) : List Bytes :=
  let parts := splitSlashes p
  let (pre, parts) : Bytes × List (List PatChar) := match p with
    | (0x2F, _) :: _ => ([0x2F], parts.drop 1)
    | _ => ([], parts)
  (globParts fs cwd (parts.length + 1) pre parts).mergeSort bytesLe

end Inventory.Shell
