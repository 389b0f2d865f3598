import Inventory.Mail.EncodedWord
import Inventory.Net.Addr
/-!
# Mail addresses

Whether a text is a single mail address in the syntax of RFC 5322, as mail readers accept it:

* a bare address `local@domain`, optionally followed by a comment in parentheses that serves as
  the display name; the local part is a dot-atom or a non-empty quoted string, the domain a
  dot-atom or a literal in brackets, which holds an IPv4 address, or `IPv6:` and an IP address;
* or a display name (a phrase of atoms and quoted strings, dots allowed anywhere, comments
  allowed between words) followed by `<local@domain>`;
* or a group `name: address;` holding exactly one address.

Space and tabs may stand before each part, and comments, which nest and may escape characters
with a backslash, may follow the address. Encoded words in the display name must be in a known
charset. Characters from U+0080 on count as printable.
-/

set_option autoImplicit false

namespace Inventory.Mail

/-- Text still to read. -/
abbrev Input := List Char

/-- A visible character: printable ASCII or anything from U+0080 on. -/
def isVchar (c : Char) : Bool := ('!' ≤ c && c ≤ '~') || c.toNat ≥ 0x80

/-- Space or tab. -/
def isWsp (c : Char) : Bool := c == ' ' || c == '\t'

/-- A character of an atom; the dot only when `dot` is set. -/
def isAtext (dot : Bool) (c : Char) : Bool :=
  if c == '.' then dot
  else if "()<>[]:;@\\,\"".toList.contains c then false
  else isVchar c

/-- A character that stands for itself in a quoted string. -/
def isQtext (c : Char) : Bool := c != '\\' && c != '"' && isVchar c

/-- A character of a domain literal. -/
def isDtext (c : Char) : Bool := c != '[' && c != ']' && c != '\\' && isVchar c

/-- Drop leading spaces and tabs. -/
def skipSpace (s : Input) : Input := s.dropWhile isWsp

/-- **A comment** after its opening parenthesis, `depth` parentheses open: its text and what
follows the closing one, or nothing when it is not closed. A backslash keeps the next
character as text. -/
def commentBody : Nat → List Char → Input → Option (List Char × Input)
  | 0, acc, s => some (acc.reverse, s)
  | _ + 1, _, [] => none
  | d + 1, acc, '\\' :: c :: rest => commentBody (d + 1) (c :: acc) rest
  | d + 1, acc, '(' :: rest => commentBody (d + 2) ('(' :: acc) rest
  | d + 1, acc, ')' :: rest => if d = 0 then commentBody 0 acc rest else commentBody d (')' :: acc) rest
  | d + 1, acc, c :: rest => commentBody (d + 1) (c :: acc) rest

/-- Skip space and comments; nothing when a comment is not closed. -/
def skipComments : Nat → Input → Option Input
  | 0, s => some s
  | fuel + 1, s =>
    match skipSpace s with
    | '(' :: rest =>
      match commentBody 1 [] rest with
      | some (_, after) => skipComments fuel after
      | none => none
    | s => some s

/-- Skip space and comments, as often as the text is long. -/
def skipCfws (s : Input) : Option Input := skipComments (s.length + 1) s

/-- **A quoted string** after its opening quote: its text and what follows the closing quote.
A backslash escapes a visible character or white space. -/
def quotedString (acc : List Char) (escaped : Bool) : Input → Option (List Char × Input)
  | [] => none
  | c :: rest =>
    if escaped then
      if isVchar c || isWsp c then quotedString (c :: acc) false rest else none
    else if isQtext c || isWsp c then quotedString (c :: acc) false rest
    else if c == '"' then some (acc.reverse, rest)
    else if c == '\\' then quotedString acc true rest
    else none

/-- Two dots in a row. -/
def hasDoubleDot : List Char → Bool
  | '.' :: '.' :: _ => true
  | _ :: rest => hasDoubleDot rest
  | [] => false

/-- **An atom** (a dot-atom when `dot` is set); unless `permissive`, dots may not lead, trail or
double. -/
def atom (dot permissive : Bool) (s : Input) : Option (List Char × Input) :=
  let a := s.takeWhile (isAtext dot)
  if a.isEmpty then none
  else if !permissive && (a.head? == some '.' || a.getLast? == some '.' || hasDoubleDot a) then none
  else some (a, s.drop a.length)

/-- An address a domain literal may hold: after `IPv6:` any IP address, else an IPv4
address, also written as IPv4 within IPv6. -/
def literalAddressOk (text : List Char) : Bool :=
  if text.take 5 == "IPv6:".toList then Net.isPlainIp (String.ofList (text.drop 5))
  else
    match Net.IpAddr.parse (String.ofList text) with
    | .ok (.v4 _) => true
    | .ok (.v6 octets zone) => zone.isEmpty && octets.take 12 == List.replicate 10 0 ++ [255, 255]
    | .error _ => false

/-- **A domain literal** after its `[`: what follows the `]`. -/
def domainLiteral (s : Input) : Option Input :=
  let text := s.takeWhile (· != ']')
  match s.drop text.length with
  | ']' :: rest => if text.all isDtext && literalAddressOk text then some rest else none
  | _ => none

/-- The part after a local part: `@` and a domain. -/
def domainPart (s : Input) : Option Input :=
  match s with
  | '@' :: r =>
    match skipSpace r with
    | [] => none
    | '[' :: lit => domainLiteral lit
    | d => (atom true false d).map Prod.snd
  | _ => none

/-- **An address proper**, `local@domain`: what follows it. -/
def addrSpec (s : Input) : Option Input :=
  match skipSpace s with
  | [] => none
  | '"' :: rest => do
    let (text, after) ← quotedString [] false rest
    if text.isEmpty then none else domainPart after
  | s => do
    let (_, after) ← atom true false s
    domainPart after

/-- The words of a comment, split at spaces and tabs. -/
def commentWords (text : List Char) : List (List Char) :=
  (text.splitOn ' ').flatMap (fun w => w.splitOn '\t') |>.filter (!·.isEmpty)

/-- **A comment as display name**, at its `(`: what follows it; its encoded words must be in
known charsets. -/
def displayNameComment (s : Input) : Option Input :=
  match s with
  | '(' :: r => do
    let (text, rest) ← commentBody 1 [] r
    if (commentWords text).any (fun w => readWord w == .unknownCharset) then none else some rest
  | _ => none

/-- One word of a phrase: whether it is an encoded word in an unknown charset, and what
follows it. -/
def phraseWord (s : Input) : Option (Bool × Input) :=
  match s with
  | '"' :: rest => (quotedString [] false rest).map fun (_, r) => (false, r)
  | _ => (atom true true s).map fun (w, r) => (readWord w == .unknownCharset, r)

/-- **A phrase**: words, with comments allowed after the first. Reading stops at the first
thing that is not a word; the phrase needs a word unless the text ends, and a comment that is
not closed refutes it. `count` is the number of words read. -/
def phrase : Nat → Nat → Input → Option Input
  | 0, _, s => some s
  | fuel + 1, count, s => do
    let s ← if count > 0 then skipCfws s else some s
    let s := skipSpace s
    if s.isEmpty then some s
    else
      match phraseWord s with
      | none => if count = 0 then none else some s
      | some (true, rest) => if count = 0 then none else some rest
      | some (false, rest) => phrase fuel (count + 1) rest

/-- What follows a display name: `<`, an address proper, and `>`. -/
def angleAddr (s : Input) : Option Input :=
  match s with
  | '<' :: r => do
    match ← addrSpec r with
    | '>' :: rest => some rest
    | _ => none
  | _ => none

mutual

/-- **An address** of a group or the whole text: how many mailboxes it names (a group may name
none or several), and what follows. Groups are read only when `handleGroup` is set. -/
def address (fuel : Nat) (handleGroup : Bool) (s : Input) : Option (Nat × Input) :=
  match fuel with
  | 0 => none
  | fuel + 1 =>
    let s := skipSpace s
    if s.isEmpty then none
    else
      match addrSpec s with
      | some r =>
        match skipSpace r with
        | r@('(' :: _) => (displayNameComment r).map fun rest => (1, rest)
        | r => some (1, r)
      | none => do
        let afterName ← if s.head? == some '<' then some s else phrase (s.length + 1) 0 s
        match skipSpace afterName with
        | ':' :: rest => if handleGroup then groupList fuel 0 rest else none
        | r => (angleAddr r).map fun rest => (1, rest)

/-- **The addresses of a group** after its `:`, up to `;`; `count` mailboxes read so far. -/
def groupList (fuel : Nat) (count : Nat) (s : Input) : Option (Nat × Input) :=
  match fuel with
  | 0 => none
  | fuel + 1 =>
    match count, skipSpace s with
    | 0, ';' :: rest => (skipCfws rest).map fun r => (0, r)
    | _, s => do
      let (n, rest) ← address fuel false s
      match ← skipCfws rest with
      | ';' :: r => (skipCfws r).map fun r => (count + n, r)
      | ',' :: r => groupList fuel (count + n) r
      | _ => none

end

/-- **A single mail address**: one mailbox, alone or as the only member of a group, with
nothing but space and comments after it. -/
def isAddress (text : String) : Bool :=
  let s := text.toList
  match address (2 * s.length + 2) true s with
  | some (1, rest) =>
    match skipCfws rest with
    | some [] => true
    | _ => false
  | _ => false

end Inventory.Mail
