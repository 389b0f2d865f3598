import Inventory.Text.Quote
import Inventory.Net.Addr
/-!
# URLs

Reading a URL reference into its parts and writing it back, with the rules of RFC 3986 as web
clients apply them:

* a scheme is letters, digits, `+`, `-` and `.`, starting with a letter, ended by `:`; it is
  kept in lower case. A text that starts with `:` has a missing scheme;
* after the scheme, a text that does not start with `/` is rootless (`mailto:a@b`);
* `//` starts an authority up to the next `/`: optional user information before the last `@`,
  then a host, which is a name or an IPv6 address in brackets (optionally with a zone after
  `%25`, and never an IPv4 address), and an optional `:port` of digits from the first colon;
* in a host, `%` escapes are allowed only for bytes from `0x80` up (and `%25`), and only
  letters, digits and `-._~!$&'()*+,;=:[]<>"` may stand unescaped among ASCII bytes;
* the path, query (after `?`) and fragment (after `#`) follow; escapes must be `%` and two
  hexadecimal digits everywhere;
* no byte below `0x20` nor DEL may appear anywhere.

`Url.parse` reports the first rule broken with the message a client shows;
`Url.requestTarget` is the path and query sent in an HTTP request line, and `Url.text` the URL
written back. `Url.resolve` reads a reference against a base URL, as a client reads the location
a redirect names against the URL it requested.
-/

set_option autoImplicit false

namespace Inventory

/-- A URL's parts; escaped parts hold the decoded bytes, `rawPath` keeps the path as written
when re-escaping would not give it back. -/
structure Url where
  scheme : Bytes := []
  rootless : Bytes := []
  user : Option (Bytes × Option Bytes) := none
  host : Bytes := []
  path : Bytes := []
  rawPath : Bytes := []
  omitHost : Bool := false
  forceQuery : Bool := false
  rawQuery : Bytes := []
  fragment : Bytes := []
  rawFragment : Bytes := []
  deriving Repr, Inhabited

namespace Url

/-! ## 1. Escaping -/

/-- The part of a URL a byte stands in, which decides what must be escaped there. -/
inductive Part where
  | path
  | host
  | zone
  | userPassword
  | fragment
  deriving DecidableEq, Repr

/-- An ASCII letter or digit. -/
def isAlnum (c : UInt8) : Bool :=
  (0x61 ≤ c && c ≤ 0x7A) || (0x41 ≤ c && c ≤ 0x5A) || (0x30 ≤ c && c ≤ 0x39)

/-- A byte among the given characters. -/
def oneOf (c : UInt8) (cs : String) : Bool := cs.toList.any (·.toNat == c.toNat)

/-- **Must this byte be escaped** in this part? -/
def shouldEscape (c : UInt8) (part : Part) : Bool :=
  if isAlnum c then false
  else if (part == .host || part == .zone) && oneOf c "!$&'()*+,;=:[]<>\"" then false
  else if oneOf c "-_.~" then false
  else if oneOf c "$&+,/:;=?@" then
    match part with
    | .path => c == 0x3F
    | .userPassword => c == 0x40 || c == 0x2F || c == 0x3F || c == 0x3A
    | .fragment => false
    | _ => true
  else if part == .fragment && oneOf c "!()*" then false
  else true

/-- Upper-case hexadecimal digit as a byte. -/
def upperHex (n : Nat) : UInt8 := if n < 10 then (48 + n).toUInt8 else (55 + n).toUInt8

/-- **Escaping**: each byte that must be escaped as `%XX`. -/
def escape (s : Bytes) (part : Part) : Bytes :=
  s.flatMap fun c =>
    if shouldEscape c part then [0x25, upperHex (c.toNat / 16), upperHex (c.toNat % 16)] else [c]

/-- A hexadecimal digit byte. -/
def isHexByte (c : UInt8) : Bool :=
  (0x30 ≤ c && c ≤ 0x39) || (0x61 ≤ c && c ≤ 0x66) || (0x41 ≤ c && c ≤ 0x46)

/-- The value of a hexadecimal digit byte. -/
def hexVal (c : UInt8) : Nat :=
  if c ≤ 0x39 then c.toNat - 48 else if c ≤ 0x46 then c.toNat - 55 else c.toNat - 87

/-- Why a URL was refused. -/
inductive ParseError where
  | badEscape (text : Bytes)
  | badHostChar (c : UInt8)
  | control
  | missingScheme
  | colonInFirstSegment
  | missingBracket
  | badPort (port : Bytes)
  | badHost (input : String) (e : Net.AddrError)
  | ipLiteral
  | badUserinfo
  | empty
  | notForRequest
  deriving DecidableEq, Repr

/-- The message of a refusal, without the URL. -/
def ParseError.text : ParseError → String
  | .badEscape t => "invalid URL escape " ++ Text.quote (Utf8.decode t)
  | .badHostChar c => "invalid character " ++ Text.quote (Utf8.decode [c]) ++ " in host name"
  | .control => "net/url: invalid control character in URL"
  | .missingScheme => "missing protocol scheme"
  | .colonInFirstSegment => "first path segment in URL cannot contain colon"
  | .missingBracket => "missing ']' in host"
  | .badPort p => "invalid port " ++ Text.quote (Utf8.decode p) ++ " after host"
  | .badHost input e => "invalid host: " ++ e.message input
  | .ipLiteral => "invalid IP-literal"
  | .badUserinfo => "net/url: invalid userinfo"
  | .empty => "empty url"
  | .notForRequest => "invalid URI for request"

/-- Check the escapes of a part, refusing what the part forbids. -/
def checkEscapes (part : Part) : Bytes → Except ParseError Unit
  | [] => .ok ()
  | 0x25 :: rest =>
    match rest with
    | a :: b :: more =>
      if !isHexByte a || !isHexByte b then .error (.badEscape (0x25 :: (rest.take 2)))
      else if part == .host && hexVal a < 8 && !(a == 0x32 && b == 0x35) then
        .error (.badEscape [0x25, a, b])
      else if part == .zone &&
          !(a == 0x32 && b == 0x35) && hexVal a * 16 + hexVal b != 0x20 &&
          shouldEscape (hexVal a * 16 + hexVal b).toUInt8 .host then
        .error (.badEscape [0x25, a, b])
      else checkEscapes part more
    | _ => .error (.badEscape (0x25 :: rest.take 2))
  | c :: rest =>
    if (part == .host || part == .zone) && c < 0x80 && shouldEscape c part then
      .error (.badHostChar c)
    else checkEscapes part rest

/-- Decode the escapes of a checked part. -/
def decodeEscapes : Bytes → Bytes
  | 0x25 :: a :: b :: rest => (hexVal a * 16 + hexVal b).toUInt8 :: decodeEscapes rest
  | c :: rest => c :: decodeEscapes rest
  | [] => []

/-- **Unescaping** a part: checked, then decoded. -/
def unescape (s : Bytes) (part : Part) : Except ParseError Bytes := do
  checkEscapes part s
  .ok (decodeEscapes s)

/-! ## 2. Reading -/

/-- Split at the first occurrence of a byte. -/
def cut (s : Bytes) (c : UInt8) : Bytes × Option Bytes :=
  match s.idxOf? c with
  | some i => (s.take i, some (s.drop (i + 1)))
  | none => (s, none)

/-- Split at the last occurrence of a byte. -/
def cutLast (s : Bytes) (c : UInt8) : Option (Bytes × Bytes) :=
  match s.reverse.idxOf? c with
  | some j => some (s.take (s.length - 1 - j), s.drop (s.length - j))
  | none => none

/-- The scheme and the rest, or no scheme. -/
def scheme? (s : Bytes) : Except ParseError (Bytes × Bytes) :=
  let rec go (i : Nat) : Bytes → Except ParseError (Bytes × Bytes)
    | [] => .ok ([], s)
    | c :: rest =>
      if (0x61 ≤ c && c ≤ 0x7A) || (0x41 ≤ c && c ≤ 0x5A) then go (i + 1) rest
      else if (0x30 ≤ c && c ≤ 0x39) || c == 0x2B || c == 0x2D || c == 0x2E then
        if i == 0 then .ok ([], s) else go (i + 1) rest
      else if c == 0x3A then
        if i == 0 then .error .missingScheme else .ok (s.take i, rest)
      else .ok ([], s)
  go 0 s

/-- A port part: empty, or `:` and digits. -/
def validPort (p : Bytes) : Bool :=
  match p with
  | [] => true
  | 0x3A :: ds => ds.all fun d => 0x30 ≤ d && d ≤ 0x39
  | _ => false

/-- The position of the first occurrence of `%25` in a byte string. -/
def findZone (s : Bytes) : Option Nat :=
  let rec go (i : Nat) : Bytes → Option Nat
    | 0x25 :: 0x32 :: 0x35 :: _ => some i
    | _ :: rest => go (i + 1) rest
    | [] => none
  go 0 s

/-- **A host**, optionally with a port. A bracketed host must be an IPv6 address, optionally
with a zone after `%25`; a bracket anywhere else is refused, and a port starts at the first
colon. -/
def parseHost (host : Bytes) : Except ParseError Bytes :=
  match host with
  | 0x5B :: _ =>
    match cutLast host 0x5D with
    | none => .error .missingBracket
    | some (inside, after) =>
      if !validPort after then .error (.badPort after)
      else do
        let port ← unescape after .host
        let name := inside.drop 1
        let unescaped ← match findZone name with
          | some z => do
            let h ← unescape (name.take z) .host
            let zone ← unescape (name.drop z) .zone
            .ok (h ++ zone)
          | none => unescape name .host
        let text := Utf8.decode unescaped
        match Net.IpAddr.parse text with
        | .error e => .error (.badHost text e)
        | .ok addr =>
          if addr.isV4 then .error .ipLiteral else .ok ([0x5B] ++ unescaped ++ [0x5D] ++ port)
  | _ =>
    if host.contains 0x5B then .error .ipLiteral
    else
      match cut host 0x3A with
      | (_, some after) =>
        if !validPort (0x3A :: after) then .error (.badPort (0x3A :: after)) else unescape host .host
      | (_, none) => unescape host .host

/-- Bytes allowed in user information. -/
def validUserinfo (s : Bytes) : Bool :=
  s.all fun c => isAlnum c || oneOf c "-._:~!$&'()*+,;=%@"

/-- **An authority**: user information and host. -/
def parseAuthority (auth : Bytes) : Except ParseError (Option (Bytes × Option Bytes) × Bytes) :=
  match cutLast auth 0x40 with
  | none => do
    let h ← parseHost auth
    .ok (none, h)
  | some (info, hostPart) => do
    let h ← parseHost hostPart
    if !validUserinfo info then .error .badUserinfo
    else
      match cut info 0x3A with
      | (name, none) => do
        let n ← unescape name .userPassword
        .ok (some (n, none), h)
      | (name, some pass) => do
        let n ← unescape name .userPassword
        let p ← unescape pass .userPassword
        .ok (some (n, some p), h)

/-- Set the path, keeping the written form when re-escaping would change it. -/
def withPath (u : Url) (p : Bytes) : Except ParseError Url := do
  let path ← unescape p .path
  .ok { u with path := path, rawPath := if escape path .path == p then [] else p }

/-- The text has a control byte. -/
def hasControl (s : Bytes) : Bool := s.any fun c => c < 0x20 || c == 0x7F

/-- Read a URL without its fragment; `forRequest` is the stricter request-target form. -/
def parseMain (raw : Bytes) (forRequest : Bool) : Except ParseError Url := do
  if hasControl raw then .error .control
  else if raw.isEmpty && forRequest then .error .empty
  else if raw == [0x2A] then .ok { path := [0x2A] }
  else
    let (sch, rest) ← scheme? raw
    let sch := sch.map fun c => if 0x41 ≤ c && c ≤ 0x5A then c + 32 else c
    let u : Url := { scheme := sch }
    let (u, rest) :=
      if rest.getLast? == some 0x3F && rest.count 0x3F == 1 then
        ({ u with forceQuery := true }, rest.dropLast)
      else
        match cut rest 0x3F with
        | (r, some q) => ({ u with rawQuery := q }, r)
        | (r, none) => (u, r)
    if rest.head? != some 0x2F then
      if !sch.isEmpty then .ok { u with rootless := rest }
      else if forRequest then .error .notForRequest
      else if (cut rest 0x2F).1.contains 0x3A then .error .colonInFirstSegment
      else withPath u rest
    else
      let isAuthority := rest.take 2 == [0x2F, 0x2F] &&
        (!sch.isEmpty || (!forRequest && rest.take 3 != [0x2F, 0x2F, 0x2F]))
      if isAuthority then
        let auth := rest.drop 2
        let (auth, pathPart) := match auth.idxOf? 0x2F with
          | some i => (auth.take i, auth.drop i)
          | none => (auth, [])
        let (user, host) ← parseAuthority auth
        withPath { u with user := user, host := host } pathPart
      else if !sch.isEmpty then withPath { u with omitHost := true } rest
      else withPath u rest

/-- **Reading a URL reference**: the URL, or the refusal and the text it concerns. -/
def parse (s : String) : Except (ParseError × Bytes) Url :=
  let raw := Utf8.ofString s
  let (main, frag) := cut raw 0x23
  match parseMain main false with
  | .error e => .error (e, main)
  | .ok u =>
    match frag with
    | none => .ok u
    | some f =>
      match unescape f .fragment with
      | .error e => .error (e, raw)
      | .ok dec =>
        .ok { u with fragment := dec, rawFragment := if escape dec .fragment == f then [] else f }

/-- Reading a request target: no fragment is split off and a relative reference is refused. -/
def parseRequest (s : String) : Except (ParseError × Bytes) Url :=
  let raw := Utf8.ofString s
  match parseMain raw true with
  | .error e => .error (e, raw)
  | .ok u => .ok u

/-- The message of a refused URL. -/
def errorText (e : ParseError × Bytes) : String :=
  "parse " ++ Text.quote (Utf8.decode e.2) ++ ": " ++ e.1.text

/-! ## 3. Writing -/

/-- Written bytes that are allowed as they stand in the part. -/
def validEncoded (s : Bytes) (part : Part) : Bool :=
  s.all fun c => oneOf c "!$&'()*+,;=:@[]%" || !shouldEscape c part

/-- The path as it is written: its written form when that is valid, else re-escaped. -/
def escapedPath (u : Url) : Bytes :=
  if !u.rawPath.isEmpty && validEncoded u.rawPath .path &&
      (unescape u.rawPath .path).toOption == some u.path then u.rawPath
  else if u.path == [0x2A] then [0x2A]
  else escape u.path .path

/-- The fragment as it is written. -/
def escapedFragment (u : Url) : Bytes :=
  if !u.rawFragment.isEmpty && validEncoded u.rawFragment .fragment &&
      (unescape u.rawFragment .fragment).toOption == some u.fragment then u.rawFragment
  else escape u.fragment .fragment

/-- **The request target**: the escaped path (`/` when empty) and the query. -/
def requestTarget (u : Url) : Bytes :=
  let base :=
    if u.rootless.isEmpty then (if (escapedPath u).isEmpty then [0x2F] else escapedPath u)
    else if u.rootless.take 2 == [0x2F, 0x2F] then u.scheme ++ 0x3A :: u.rootless
    else u.rootless
  if u.forceQuery || !u.rawQuery.isEmpty then base ++ 0x3F :: u.rawQuery else base

/-- User information as written, with the password shown or masked. -/
def userText (user : Bytes × Option Bytes) (masked : Bool) : Bytes :=
  match user with
  | (n, none) => escape n .userPassword
  | (n, some p) =>
    if masked then n ++ Utf8.ofString ":xxxxx"
    else escape n .userPassword ++ 0x3A :: escape p .userPassword

/-- **The URL written back**; with `masked` a password is shown as `xxxxx`. -/
def text (u : Url) (masked : Bool := false) : String :=
  let head := if u.scheme.isEmpty then [] else u.scheme ++ [0x3A]
  let body : Bytes :=
    if !u.rootless.isEmpty then u.rootless
    else
      let auth : Bytes :=
        if !u.scheme.isEmpty || !u.host.isEmpty || u.user.isSome then
          if u.omitHost && u.host.isEmpty && u.user.isNone then []
          else
            (if !u.host.isEmpty || !u.path.isEmpty || u.user.isSome then [0x2F, 0x2F] else []) ++
            (match u.user with
              | some ui => userText ui masked ++ [0x40]
              | none => []) ++
            escape u.host .host
        else []
      let p := escapedPath u
      let slash : Bytes := if !p.isEmpty && p.head? != some 0x2F && !u.host.isEmpty then [0x2F] else []
      let dot : Bytes :=
        if head.isEmpty && auth.isEmpty && slash.isEmpty && (cut p 0x2F).1.contains 0x3A then
          [0x2E, 0x2F]
        else []
      auth ++ slash ++ dot ++ p
  let query : Bytes :=
    if u.forceQuery || !u.rawQuery.isEmpty then 0x3F :: u.rawQuery else []
  let frag : Bytes := if u.fragment.isEmpty then [] else 0x23 :: escapedFragment u
  Utf8.decode (head ++ body ++ query ++ frag)

/-- The host without its port. -/
def hostname (u : Url) : Bytes :=
  let h := u.host
  if h.head? == some 0x5B then
    match cutLast h 0x5D with
    | some (inside, _) => inside.drop 1
    | none => h
  else
    match cutLast h 0x3A with
    | some (name, _) => name
    | none => h

/-- The port written after the host, if any. -/
def port (u : Url) : Bytes :=
  let h := u.host
  let after := if h.head? == some 0x5B then ((cutLast h 0x5D).map (·.2)).getD [] else h
  match cutLast after 0x3A with
  | some (_, p) => p
  | none => []

/-! ## 4. Resolving a reference -/

/-- Set the path from its written form; a form that does not read leaves the URL as it is. -/
def setPath (u : Url) (p : Bytes) : Url :=
  match withPath u p with
  | .ok v => v
  | .error _ => u

/-- One segment of a path being resolved, against what is written so far (after the leading
`/`) and whether nothing has been written since the root: `.` is dropped, `..` drops the last
segment written, and any other segment is written after a `/` unless it is the first. -/
def resolveStep (st : Bytes × Bool) (seg : Bytes) : Bytes × Bool :=
  if seg == [0x2E] then (st.1, false)
  else if seg == [0x2E, 0x2E] then
    match cutLast st.1 0x2F with
    | some (kept, _) => (kept, st.2)
    | none => ([], true)
  else ((if st.2 then st.1 else st.1 ++ [0x2F]) ++ seg, false)

/-- **Resolving a path** against the path of the base (RFC 3986, section 5.2): a relative path
replaces the base's last segment, then the dot segments are removed. A path that ends in a dot
segment keeps its final `/`. -/
def resolvePath (base ref : Bytes) : Bytes :=
  let full :=
    if ref.isEmpty then base
    else if ref.head? != some 0x2F then
      (match cutLast base 0x2F with
        | some (dir, _) => dir ++ [0x2F]
        | none => []) ++ ref
    else ref
  if full.isEmpty then []
  else
    let segs := full.splitOn 0x2F
    let written := (segs.foldl resolveStep ([], true)).1
    let last := segs.getLast?.getD []
    let written := if last == [0x2E] || last == [0x2E, 0x2E] then written ++ [0x2F] else written
    if written.head? == some 0x2F then written else 0x2F :: written

/-- **Resolving a reference** against a base URL: a reference with a scheme, a host or user
information stands for itself, a rootless one keeps only the base's scheme, and any other takes
the base's host and user information with its path resolved against the base's; an empty path
with no query also takes the base's query, and its fragment when it has none. -/
def resolve (base : Url) (ref : String) : Except (ParseError × Bytes) Url := do
  let r ← parse ref
  let u := if r.scheme.isEmpty then { r with scheme := base.scheme } else r
  if !r.scheme.isEmpty || !r.host.isEmpty || r.user.isSome then
    .ok (u.setPath (resolvePath r.escapedPath []))
  else if !r.rootless.isEmpty then .ok { u with user := none, host := [], path := [] }
  else
    let u :=
      if r.path.isEmpty && !r.forceQuery && r.rawQuery.isEmpty then
        if r.fragment.isEmpty then
          { u with rawQuery := base.rawQuery, fragment := base.fragment,
                   rawFragment := base.rawFragment }
        else { u with rawQuery := base.rawQuery }
      else u
    if r.path.isEmpty && !base.rootless.isEmpty then
      .ok { u with rootless := base.rootless, user := none, host := [], path := [] }
    else
      .ok ({ u with host := base.host, user := base.user }.setPath
        (resolvePath base.escapedPath r.escapedPath))

end Url

end Inventory
