import Inventory.Unicode.Property
import Inventory.Unicode.Fold
/-!
# Regular expression syntax

Patterns in schemas are regular expressions in the RE2 dialect with Perl extensions: literal
characters, `.`, bracketed classes with ranges, negation and POSIX names (`[[:alpha:]]`), the
escapes `\d \s \w` and their negations, Unicode classes `\pL`, `\p{Greek}` and `\p{^Lu}`, the
anchors `^ $ \A \z` and word boundaries `\b \B`, groups (capturing, named with `(?P<name>…)`
or `(?<name>…)`, and non-capturing `(?:…)`), flag groups `(?i)`, `(?m)`, `(?s)`, `(?U)` (also
scoped as `(?i:…)` and negated as `(?-i)`), alternation `|`, and the repetitions `* + ?
{n} {n,} {n,m}`, each optionally lazy with a trailing `?`. `\Q…\E` quotes text literally.

Reading refuses what the dialect refuses: unbalanced parentheses or brackets, a reversed or
malformed class range, an unknown escape (backreferences included) or property name, a
repetition with nothing to repeat or directly after another repetition, a count above 1000 or
with `min > max`, an unknown Perl group, and a malformed capture name. A `{` that does not
start a well-formed count stands for itself.

Two limits bound the size of what a pattern builds. Counted repetitions nested in one another
may multiply to at most 1000 copies of what they repeat, and the tree of a pattern may be at
most 1000 levels high, where a run of literal characters is one node, a concatenation or
alternation holds its parts side by side, and each capture and repetition adds a level.

A pattern reads to a `Node`: sets of characters, assertions, concatenation, alternation and
counted repetition. Laziness and capture do not change whether a text contains a match, so
they are not kept. A case-insensitive set holds every code point equivalent under simple case
folding to one of its members; a negated class is the complement of the folded set.
-/

set_option autoImplicit false

namespace Inventory.Regex

open Unicode

/-- What a zero-width assertion checks at a position. -/
inductive Assertion where
  | textStart
  | textEnd
  | lineStart
  | lineEnd
  | wordBoundary
  | notWordBoundary
  deriving DecidableEq, Repr

/-- A pattern. -/
inductive Node where
  | empty
  | chars (rs : Ranges)
  | assert (a : Assertion)
  | cat (a b : Node)
  | alt (a b : Node)
  /-- At least `min` and at most `max` (unbounded when `none`) repetitions. -/
  | rep (a : Node) (min : Nat) (max : Option Nat)
  deriving Repr

/-- Why a pattern is refused. -/
inductive SyntaxError where
  | missingParen
  | unexpectedParen
  | missingBracket
  | badCharRange
  | badEscape
  | nestedRepeat
  | missingRepeatArgument
  | badRepeatSize
  | badPerlSyntax
  | badNamedCapture
  | tooDeep
  | tooLong
  deriving DecidableEq, Repr

/-- The flags in effect while reading. -/
structure Flags where
  fold : Bool := false
  multiline : Bool := false
  dotNewline : Bool := false
  deriving DecidableEq, Repr

/-- A reading result. -/
abbrev Read := Except SyntaxError

/-! ## Character sets -/

/-- ASCII letters and digits. -/
def isAlnum (c : Char) : Bool := c.toNat < 0x80 && (c.isAlpha || c.isDigit)

/-- An octal digit. -/
def isOctal (c : Char) : Bool := '0' ≤ c && c ≤ '7'

/-- The value of a hexadecimal digit. -/
def hexValue? (c : Char) : Option Nat :=
  if '0' ≤ c && c ≤ '9' then some (c.toNat - 48)
  else if 'a' ≤ c && c ≤ 'f' then some (c.toNat - 87)
  else if 'A' ≤ c && c ≤ 'F' then some (c.toNat - 55)
  else none

/-- Digits. -/
def digitRanges : Ranges := [(0x30, 0x39)]

/-- White space: tab, line feed, form feed, carriage return, space. -/
def spaceRanges : Ranges := [(9, 10), (12, 13), (32, 32)]

/-- Word characters: ASCII letters, digits and the underscore. -/
def wordRanges : Ranges := [(0x30, 0x39), (0x41, 0x5A), (0x5F, 0x5F), (0x61, 0x7A)]

/-- The Perl class a letter after a backslash names, if any, and whether it is negated. -/
def perlClass? (c : Char) : Option (Ranges × Bool) :=
  match c with
  | 'd' => some (digitRanges, false)
  | 'D' => some (digitRanges, true)
  | 's' => some (spaceRanges, false)
  | 'S' => some (spaceRanges, true)
  | 'w' => some (wordRanges, false)
  | 'W' => some (wordRanges, true)
  | _ => none

/-- The POSIX class of a name, if any. -/
def posixClass? (name : String) : Option Ranges :=
  match name with
  | "alnum" => some [(0x30, 0x39), (0x41, 0x5A), (0x61, 0x7A)]
  | "alpha" => some [(0x41, 0x5A), (0x61, 0x7A)]
  | "ascii" => some [(0, 0x7F)]
  | "blank" => some [(9, 9), (32, 32)]
  | "cntrl" => some [(0, 0x1F), (0x7F, 0x7F)]
  | "digit" => some digitRanges
  | "graph" => some [(0x21, 0x7E)]
  | "lower" => some [(0x61, 0x7A)]
  | "print" => some [(0x20, 0x7E)]
  | "punct" => some [(0x21, 0x2F), (0x3A, 0x40), (0x5B, 0x60), (0x7B, 0x7E)]
  | "space" => some [(9, 13), (32, 32)]
  | "upper" => some [(0x41, 0x5A)]
  | "word" => some wordRanges
  | "xdigit" => some [(0x30, 0x39), (0x41, 0x46), (0x61, 0x66)]
  | _ => none

/-- A named set under the flags: folded when case is ignored, then complemented if negated. -/
def groupRanges (flags : Flags) (rs : Ranges) (negated : Bool) : Ranges :=
  let rs := if flags.fold then Ranges.foldClose rs else Ranges.normalize rs
  if negated then Ranges.complement rs else rs

/-- A range of a class under the flags. -/
def rangeUnder (flags : Flags) (rs : Ranges) : Ranges :=
  if flags.fold then Ranges.foldClose rs else rs

/-! ## Shapes

The limits on a pattern look at the tree it builds, which is not the `Node` kept for matching:
there a run of literal characters is one node, a concatenation or alternation inside another
of its kind is merged into it, and an alternation of single characters and classes is one
class. -/

/-- What a piece of a pattern is, as far as merging goes. -/
inductive Kind where
  /-- Literal characters, all read with case ignored or all not; `single` for one. -/
  | literal (fold single : Bool)
  | charClass
  | empty
  | concat
  | alternate
  | other
  deriving DecidableEq, Repr

/-- The shape of a piece: the height of its tree, the greatest product of the counts of nested
counted repetitions along one path, and its kind. -/
structure Shape where
  height : Nat := 1
  product : Nat := 1
  kind : Kind := .other
  deriving DecidableEq, Repr

/-- A piece stands for one character. -/
def Shape.isCharLike (s : Shape) : Bool :=
  match s.kind with
  | .literal _ true | .charClass => true
  | _ => false

/-- The shape of a set of code points: a single code point, or a code point and its one case
partner, is a literal; anything else a class. -/
def Shape.ofRanges (rs : Ranges) : Shape :=
  match rs with
  | [(a, b)] =>
    if a = b then { kind := .literal false true }
    else if b = a + 1 && foldClass a == [a, b] then { kind := .literal true true }
    else { kind := .charClass }
  | [(a, b), (c, d)] =>
    if a = b && c = d && foldClass a == [a, c] then { kind := .literal true true }
    else { kind := .charClass }
  | _ => { kind := .charClass }

/-- The shape of pieces read one after another: runs of literals under the same case rule
merge, a concatenation among them is merged into theirs, and one part alone stands for the
whole. -/
def Shape.concat (ss : List Shape) : Shape :=
  let product := ss.foldl (fun m s => max m s.product) 1
  let step (acc : Nat × Nat × Option Bool) (s : Shape) : Nat × Nat × Option Bool :=
    let (count, high, run) := acc
    match s.kind with
    | .literal f _ => if run == some f then (count, high, run) else (count + 1, max high 1, some f)
    | .concat => (count + 2, max high (s.height - 1), none)
    | _ => (count + 1, max high s.height, none)
  let (count, high, _) := ss.foldl step (0, 0, none)
  match count, ss with
  | 0, _ => { kind := .empty }
  | 1, [s] => s
  | 1, s :: _ =>
    match s.kind with
    | .literal f _ => { product, kind := .literal f false }
    | _ => s
  | _, _ => { height := high + 1, product, kind := .concat }

/-- The shape of alternatives: an alternation among them is merged into theirs, and
alternatives that are all single characters or classes make one class. -/
def Shape.alternate (ss : List Shape) : Shape :=
  match ss with
  | [s] => s
  | _ =>
    let product := ss.foldl (fun m s => max m s.product) 1
    if ss.all Shape.isCharLike then { kind := .charClass }
    else if ss.all (·.kind == .empty) then { kind := .empty }
    else
      let high := ss.foldl (fun m s => max m (if s.kind == .alternate then s.height - 1 else s.height)) 0
      { height := high + 1, product, kind := .alternate }

/-- The shape of a capture. -/
def Shape.capture (s : Shape) : Shape := { height := s.height + 1, product := s.product }

/-- The factor a counted repetition multiplies by: its greatest count, or its least when it
has none; a repetition at most zero times holds nothing that counts. -/
def repeatFactor (lo : Nat) (hi : Option Nat) (inner : Nat) : Nat :=
  match hi with
  | some 0 => 1
  | some h => h * inner
  | none => if lo = 0 then inner else lo * inner

/-- The shape of a repetition; `counted` for one written with braces. -/
def Shape.repeat (s : Shape) (counted : Bool) (lo : Nat) (hi : Option Nat) : Shape :=
  { height := s.height + 1, product := if counted then repeatFactor lo hi s.product else s.product }

/-- The greatest height a pattern's tree may have. -/
def maxHeight : Nat := 1000

/-- The greatest product of nested counts. -/
def maxCopies : Nat := 1000

/-- A piece read: its node and its shape. -/
structure Piece where
  node : Node
  shape : Shape

/-- A set under the flags as a piece. -/
def setPiece (rs : Ranges) : Piece :=
  let rs := Ranges.normalize rs
  ⟨.chars rs, Shape.ofRanges rs⟩

/-- One literal code point under the flags. -/
def literal (flags : Flags) (c : Nat) : Piece :=
  ⟨.chars (rangeUnder flags [(c, c)]), { kind := .literal flags.fold true }⟩

/-- A zero-width piece. -/
def assertPiece (a : Assertion) : Piece := ⟨.assert a, {}⟩

/-- The concatenation of nodes in order. -/
def catAll : List Node → Node
  | [] => .empty
  | [n] => n
  | n :: rest => .cat n (catAll rest)

/-- The alternation of nodes in order. -/
def altAll : List Node → Node
  | [] => .empty
  | [n] => n
  | n :: rest => .alt n (altAll rest)

/-! ## Escapes -/

/-- Up to two more octal digits after a first one. -/
def octalEscape (first : Char) (t : List Char) : Nat × List Char :=
  let v0 := first.toNat - 48
  match t with
  | d1 :: t1 =>
    if isOctal d1 then
      let v1 := v0 * 8 + (d1.toNat - 48)
      match t1 with
      | d2 :: t2 => if isOctal d2 then (v1 * 8 + (d2.toNat - 48), t2) else (v1, t1)
      | [] => (v1, t1)
    else (v0, t)
  | [] => (v0, [])

/-- Hexadecimal digits up to `}`: at least one, the value a code point. -/
def bracedHex : List Char → Nat → Nat → Read (Nat × List Char)
  | [], _, _ => .error .badEscape
  | c :: t, v, n =>
    if c = '}' then (if n = 0 then .error .badEscape else .ok (v, t))
    else
      match hexValue? c with
      | some d => if v * 16 + d > maxCode then .error .badEscape else bracedHex t (v * 16 + d) (n + 1)
      | none => .error .badEscape

/-- **A single-character escape**, the text after the backslash given. -/
def escapeChar : List Char → Read (Nat × List Char)
  | [] => .error .badEscape
  | c :: t =>
    if c.toNat < 0x80 && !isAlnum c then .ok (c.toNat, t)
    else if '1' ≤ c && c ≤ '7' then
      match t with
      | d :: _ => if isOctal d then .ok (octalEscape c t) else .error .badEscape
      | [] => .error .badEscape
    else if c = '0' then .ok (octalEscape c t)
    else if c = 'x' then
      match t with
      | '{' :: r => bracedHex r 0 0
      | a :: b :: r =>
        match hexValue? a, hexValue? b with
        | some x, some y => .ok (x * 16 + y, r)
        | _, _ => .error .badEscape
      | _ => .error .badEscape
    else
      match c with
      | 'a' => .ok (7, t)
      | 'f' => .ok (12, t)
      | 'n' => .ok (10, t)
      | 'r' => .ok (13, t)
      | 't' => .ok (9, t)
      | 'v' => .ok (11, t)
      | _ => .error .badEscape

/-- **A Unicode class** after `\p` or `\P` (`negated`): a one-letter name or a braced name,
optionally negated again by a leading `^`; the set is folded under the flags before it is
complemented. -/
def unicodeEscape (flags : Flags) (negated : Bool) (t : List Char) : Read (Ranges × List Char) :=
  let (name, rest) : Option (List Char) × List Char := match t with
    | '{' :: r =>
      match r.idxOf? '}' with
      | some i => if i < r.length then (some (r.take i), r.drop (i + 1)) else (none, [])
      | none => (none, [])
    | c :: r => (some [c], r)
    | [] => (some [], [])
  match name with
  | none => .error .badCharRange
  | some n =>
    let (neg, n) := match n with
      | '^' :: m => (!negated, m)
      | m => (negated, m)
    match property? (String.ofList n) with
    | some rs => .ok (groupRanges flags rs neg, rest)
    | none => .error .badCharRange

/-! ## Bracketed classes -/

/-- One character of a class: an escape or the character itself. -/
def classChar : List Char → Read (Nat × List Char)
  | [] => .error .missingBracket
  | '\\' :: t => escapeChar t
  | c :: t => .ok (c.toNat, t)

/-- A POSIX class `[:name:]` or `[:^name:]` at the start, if the text has `:]` later; a name
that is not a class is refused. -/
def posixAt (flags : Flags) (t : List Char) : Read (Option (Ranges × List Char)) :=
  match t with
  | '[' :: ':' :: r =>
    let rec find (pre : List Char) : List Char → Option (List Char × List Char)
      | ':' :: ']' :: rest => some (pre.reverse, rest)
      | c :: rest => find (c :: pre) rest
      | [] => none
    match find [] r with
    | none => .ok none
    | some (name, rest) =>
      let (neg, name) := match name with
        | '^' :: n => (true, n)
        | n => (false, n)
      match posixClass? (String.ofList name) with
      | some rs => .ok (some (groupRanges flags rs neg, rest))
      | none => .error .badCharRange
  | _ => .ok none

/-- One character or a range `lo-hi` of a class; a `-` before the closing `]` is left to
stand for itself. -/
def classRange (flags : Flags) (t : List Char) : Read (Ranges × List Char) := do
  let (lo, rest) ← classChar t
  match rest with
  | '-' :: c :: more =>
    if c = ']' then .ok (rangeUnder flags [(lo, lo)], rest)
    else do
      let (hi, rest) ← classChar (c :: more)
      if hi < lo then .error .badCharRange else .ok (rangeUnder flags [(lo, hi)], rest)
  | _ => .ok (rangeUnder flags [(lo, lo)], rest)

/-- One item of a class: a POSIX class, a Unicode class, a Perl class, or a character or
range. -/
def classItem (flags : Flags) (t : List Char) : Read (Ranges × List Char) := do
  match ← posixAt flags t with
  | some r => .ok r
  | none =>
    match t with
    | '\\' :: c :: rest =>
      if c = 'p' || c = 'P' then unicodeEscape flags (c = 'P') rest
      else
        match perlClass? c with
        | some (rs, neg) => .ok (groupRanges flags rs neg, rest)
        | none => classRange flags t
    | _ => classRange flags t

/-- **The items of a bracketed class** up to its `]`; a `]` right after the opening stands
for itself. -/
def classItems (flags : Flags) (fuel : Nat) (first : Bool) (acc : Ranges) (t : List Char) :
    Read (Ranges × List Char) :=
  match fuel with
  | 0 => .error .tooLong
  | fuel + 1 =>
    match t with
    | ']' :: rest => if first then next fuel else .ok (acc, rest)
    | _ => next fuel
where
  /-- Read one item and go on. -/
  next (fuel : Nat) : Read (Ranges × List Char) := do
    let (rs, rest) ← classItem flags t
    classItems flags fuel false (acc ++ rs) rest

/-- **A bracketed class**, the text after `[` given: the union of its items, each folded
under the flags, complemented after a leading `^`. -/
def bracketClass (flags : Flags) (t : List Char) : Read (Ranges × List Char) := do
  let (neg, t) := match t with
    | '^' :: r => (true, r)
    | r => (false, r)
  let (rs, rest) ← classItems flags (2 * t.length + 2) true [] t
  .ok (if neg then Ranges.complement rs else Ranges.normalize rs, rest)

/-! ## Counts -/

/-- A decimal count without leading zeros; counts from `10^8` on read as `10^8`. -/
def count? (t : List Char) : Option (Nat × List Char) :=
  let ds := t.takeWhile Char.isDigit
  match ds with
  | [] => none
  | '0' :: _ :: _ => none
  | _ =>
    let v := ds.foldl (fun acc d => if acc ≥ 100000000 then acc else acc * 10 + (d.toNat - 48)) 0
    some (min v 100000000, t.drop ds.length)

/-- A count `{n}`, `{n,}` or `{n,m}`, the text after `{` given: least and greatest number of
repetitions. -/
def countSpec? (t : List Char) : Option (Nat × Option Nat × List Char) := do
  let (lo, r) ← count? t
  match r with
  | '}' :: rest => some (lo, some lo, rest)
  | ',' :: '}' :: rest => some (lo, none, rest)
  | ',' :: r => do
    let (hi, r) ← count? r
    match r with
    | '}' :: rest => some (lo, some hi, rest)
    | _ => none
  | _ => none

/-- Counts are at most 1000 and the least is at most the greatest. -/
def countValid (lo : Nat) (hi : Option Nat) : Bool :=
  lo ≤ 1000 && match hi with
    | some h => h ≤ 1000 && lo ≤ h
    | none => true

/-! ## Groups and flags -/

/-- A capture name: ASCII letters, digits and underscores, at least one. -/
def validName (n : List Char) : Bool := !n.isEmpty && n.all fun c => isAlnum c || c = '_'

/-- Flag letters after `(?` up to `)` or `:`; `true` with `:` for a scoped group. -/
def flagLetters (flags : Flags) (negated sawFlag : Bool) : List Char → Read (Flags × Bool × List Char)
  | [] => .error .badPerlSyntax
  | c :: t =>
    match c with
    | 'i' => flagLetters { flags with fold := !negated } negated true t
    | 'm' => flagLetters { flags with multiline := !negated } negated true t
    | 's' => flagLetters { flags with dotNewline := !negated } negated true t
    | 'U' => flagLetters flags negated true t
    | '-' => if negated then .error .badPerlSyntax else flagLetters flags true false t
    | ':' => if negated && !sawFlag then .error .badPerlSyntax else .ok (flags, true, t)
    | ')' => if negated && !sawFlag then .error .badPerlSyntax else .ok (flags, false, t)
    | _ => .error .badPerlSyntax

/-- How a group opens. -/
inductive Opening where
  /-- A capturing group. -/
  | capture
  /-- A group that only groups, with the flags inside it. -/
  | plain (flags : Flags)
  /-- No group: the flags change from here to the end of the enclosing group. -/
  | setFlags (flags : Flags)

/-- How a group opens, and the text after its opening. -/
def groupOpening (flags : Flags) (t : List Char) : Read (Opening × List Char) :=
  match t with
  | '?' :: 'P' :: '<' :: r | '?' :: '<' :: r =>
    match r.idxOf? '>' with
    | some i =>
      if i < r.length && validName (r.take i) then .ok (.capture, r.drop (i + 1))
      else .error .badNamedCapture
    | none => .error .badNamedCapture
  | '?' :: r => do
    let (inner, isScoped, rest) ← flagLetters flags false false r
    .ok (if isScoped then .plain inner else .setFlags inner, rest)
  | r => .ok (.capture, r)

/-! ## Patterns -/

/-- The text up to `\E` or the end, and what follows. -/
def quotedText (acc : List Char) : List Char → List Char × List Char
  | '\\' :: 'E' :: rest => (acc.reverse, rest)
  | c :: rest => quotedText (c :: acc) rest
  | [] => (acc.reverse, [])

/-- Drop the `?` that makes a repetition lazy. -/
def dropLazy : List Char → List Char
  | '?' :: r => r
  | r => r

/-- **A repetition** of the latest piece: refused right after another repetition or with no
piece before it, and, when counted with a count of two or more, when nested counts multiply
past `maxCopies`. -/
def repeatLatest (items : List Piece) (repeated counted : Bool) (lo : Nat) (hi : Option Nat) :
    Read (List Piece) :=
  if repeated then .error .nestedRepeat
  else
    match items with
    | [] => .error .missingRepeatArgument
    | x :: rest =>
      let shape := x.shape.repeat counted lo hi
      let checked := counted && (lo ≥ 2 || hi.any (· ≥ 2))
      if checked && shape.product > maxCopies then .error .badRepeatSize
      else .ok (⟨.rep x.node lo hi, shape⟩ :: rest)

/-- The pieces of a branch, the latest first, as one piece. -/
def branchPiece (items : List Piece) : Piece :=
  let items := items.reverse
  ⟨catAll (items.map Piece.node), Shape.concat (items.map Piece.shape)⟩

/-- The branches of an alternation, the latest first, as one piece. -/
def alternationPiece (branches : List Piece) : Piece :=
  let branches := branches.reverse
  ⟨altAll (branches.map Piece.node), Shape.alternate (branches.map Piece.shape)⟩

mutual

/-- **An alternation** up to a `)` or the end; `branches` holds the branches read so far, the
latest first. -/
def readAlt (fuel : Nat) (flags : Flags) (branches : List Piece) (t : List Char) :
    Read (Piece × List Char) :=
  match fuel with
  | 0 => .error .tooLong
  | fuel + 1 => do
    let (b, flags, rest) ← readSeq fuel flags [] false t
    match rest with
    | '|' :: more => readAlt fuel flags (b :: branches) more
    | _ => .ok (alternationPiece (b :: branches), rest)

/-- **A branch**: pieces up to `|`, `)` or the end, and the flags at its end, since a flag
change holds to the end of the enclosing group. `items` holds the pieces read so far, the
latest first; `repeated` tells whether the last token was a repetition. -/
def readSeq (fuel : Nat) (flags : Flags) (items : List Piece) (repeated : Bool) (t : List Char) :
    Read (Piece × Flags × List Char) :=
  match fuel with
  | 0 => .error .tooLong
  | fuel + 1 =>
    let done := Except.ok (branchPiece items, flags, t)
    match t with
    | [] => done
    | '|' :: _ => done
    | ')' :: _ => done
    | '*' :: r => do readSeq fuel flags (← repeatLatest items repeated false 0 none) true (dropLazy r)
    | '+' :: r => do readSeq fuel flags (← repeatLatest items repeated false 1 none) true (dropLazy r)
    | '?' :: r => do
      readSeq fuel flags (← repeatLatest items repeated false 0 (some 1)) true (dropLazy r)
    | '{' :: r =>
      match countSpec? r with
      | some (lo, hi, rest) =>
        if !countValid lo hi then .error .badRepeatSize
        else do readSeq fuel flags (← repeatLatest items repeated true lo hi) true (dropLazy rest)
      | none => readSeq fuel flags (literal flags 0x7B :: items) false r
    | '(' :: r => do
      let (opening, body) ← groupOpening flags r
      match opening with
      | .setFlags inner => readSeq fuel inner items false body
      | .plain inner => do
        let (p, rest) ← readAlt fuel inner [] body
        match rest with
        | ')' :: more => readSeq fuel flags (p :: items) false more
        | _ => .error .missingParen
      | .capture => do
        let (p, rest) ← readAlt fuel flags [] body
        match rest with
        | ')' :: more => readSeq fuel flags (⟨p.node, p.shape.capture⟩ :: items) false more
        | _ => .error .missingParen
    | '[' :: r => do
      let (rs, rest) ← bracketClass flags r
      readSeq fuel flags (setPiece rs :: items) false rest
    | '.' :: r =>
      let rs := if flags.dotNewline then [(0, maxCode)] else [(0, 9), (11, maxCode)]
      readSeq fuel flags (⟨.chars rs, {}⟩ :: items) false r
    | '^' :: r =>
      readSeq fuel flags (assertPiece (if flags.multiline then .lineStart else .textStart) :: items)
        false r
    | '$' :: r =>
      readSeq fuel flags (assertPiece (if flags.multiline then .lineEnd else .textEnd) :: items)
        false r
    | '\\' :: r =>
      match r with
      | 'A' :: rest => readSeq fuel flags (assertPiece .textStart :: items) false rest
      | 'z' :: rest => readSeq fuel flags (assertPiece .textEnd :: items) false rest
      | 'b' :: rest => readSeq fuel flags (assertPiece .wordBoundary :: items) false rest
      | 'B' :: rest => readSeq fuel flags (assertPiece .notWordBoundary :: items) false rest
      | 'C' :: _ => .error .badEscape
      | 'Q' :: rest =>
        let (quoted, after) := quotedText [] rest
        readSeq fuel flags ((quoted.map fun c => literal flags c.toNat).reverse ++ items) false after
      | 'p' :: rest | 'P' :: rest => do
        let (rs, rest) ← unicodeEscape flags (r.head? == some 'P') rest
        readSeq fuel flags (setPiece rs :: items) false rest
      | c :: rest =>
        match perlClass? c with
        | some (rs, neg) => readSeq fuel flags (setPiece (groupRanges flags rs neg) :: items) false rest
        | none => do
          let (v, rest) ← escapeChar r
          readSeq fuel flags (literal flags v :: items) false rest
      | [] => .error .badEscape
    | c :: r => readSeq fuel flags (literal flags c.toNat :: items) false r

end

/-- **Reading a pattern**, refused when its tree is higher than `maxHeight`. -/
def parse (pattern : String) : Read Node := do
  let t := pattern.toList
  let (p, rest) ← readAlt (4 * t.length + 4) {} [] t
  match rest with
  | [] => if p.shape.height > maxHeight then .error .tooDeep else .ok p.node
  | _ => .error .unexpectedParen

end Inventory.Regex
