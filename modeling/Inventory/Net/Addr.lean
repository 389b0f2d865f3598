import Inventory.Text.Quote
/-!
# IP addresses

Reading an IP address in its textual forms:

* IPv4 as four dotted decimal fields, each at most 255 and without a leading zero;
* IPv6 as up to eight colon-separated groups of one to four hexadecimal digits, where one `::`
  stands for a run of at least one zero group, the last two groups may be written as an
  embedded IPv4 address, and a `%` introduces a non-empty zone.

Which form a text is read in is decided by the first of `.`, `:` and `%` in it. A refused text
is reported with the reason and, for most reasons, the unread part at which it was found, as
in `ParseAddr("1.2.3.x"): unexpected character (at "x")`.
-/

set_option autoImplicit false

namespace Inventory.Net

/-- An IP address: four octets, or sixteen octets with a zone that may be empty. -/
inductive IpAddr where
  | v4 (octets : List Nat)
  | v6 (octets : List Nat) (zone : String)
  deriving DecidableEq, Repr

/-- Why an address was refused, and the unread text at which it was found (empty when the
reason does not point into the text). -/
structure AddrError where
  reason : String
  rest : List Char := []
  deriving DecidableEq, Repr

/-- The message for a refused input. -/
def AddrError.message (e : AddrError) (input : String) : String :=
  "ParseAddr(" ++ Text.quote input ++ "): " ++ e.reason ++
    (if e.rest.isEmpty then "" else " (at " ++ Text.quote (String.ofList e.rest) ++ ")")

/-- The value of a decimal digit. -/
def digitValue (c : Char) : Nat := c.toNat - 48

/-- The value of a hexadecimal digit. -/
def hexDigitValue (c : Char) : Nat :=
  if c ≤ '9' then c.toNat - 48 else if c ≤ 'F' then c.toNat - 55 else c.toNat - 87

/-- **Dotted fields**: `done` the fields read so far, `val` and `digits` the one being read. -/
def v4Fields (done : List Nat) (val digits : Nat) : List Char → Except AddrError (List Nat)
  | [] => if done.length < 3 then .error ⟨"IPv4 address too short", []⟩ else .ok (done ++ [val])
  | c :: rest =>
    if c.isDigit then
      if digits == 1 && val == 0 then .error ⟨"IPv4 field has octet with leading zero", []⟩
      else
        let v := val * 10 + digitValue c
        if v > 255 then .error ⟨"IPv4 field has value >255", []⟩
        else v4Fields done v (digits + 1) rest
    else if c == '.' then
      if digits == 0 || rest.isEmpty then
        .error ⟨"IPv4 field must have at least one digit", c :: rest⟩
      else if done.length == 3 then .error ⟨"IPv4 address too long", []⟩
      else v4Fields (done ++ [val]) 0 0 rest
    else .error ⟨"unexpected character", c :: rest⟩

/-- The two octets of a 16-bit group. -/
def groupOctets (v : Nat) : List Nat := [v / 256, v % 256]

/-- What the group loop has read: the octets, where `::` stood (as an octet offset), and the
text left. -/
structure V6Progress where
  octets : List Nat := []
  ellipsis : Option Nat := none
  rest : List Char := []

/-- **The groups of an IPv6 address**, from the text after any leading `::`; `fuel` bounds the
groups read. -/
def v6Groups : Nat → V6Progress → Except AddrError V6Progress
  | 0, p => .ok p
  | fuel + 1, p =>
    if p.octets.length ≥ 16 then .ok p
    else
      let s := p.rest
      let ds := s.takeWhile Char.isHexDigit
      if ds.length > 4 then .error ⟨"each group must have 4 or less digits", s⟩
      else if ds.isEmpty then .error ⟨"each colon-separated field must have at least one digit", s⟩
      else
        let after := s.drop ds.length
        if after.head? == some '.' then
          if p.ellipsis.isNone && p.octets.length != 12 then
            .error ⟨"embedded IPv4 address must replace the final 2 fields of the address", s⟩
          else if p.octets.length + 4 > 16 then
            .error ⟨"too many hex fields to fit an embedded IPv4 at the end of the address", s⟩
          else do
            let fields ← v4Fields [] 0 0 s
            .ok { p with octets := p.octets ++ fields, rest := [] }
        else
          let value := ds.foldl (fun acc c => acc * 16 + hexDigitValue c) 0
          let p := { p with octets := p.octets ++ groupOctets value, rest := after }
          match after with
          | [] => .ok p
          | ':' :: [] => .error ⟨"colon must be followed by more characters", after⟩
          | ':' :: more =>
            match more with
            | ':' :: tail =>
              if p.ellipsis.isSome then .error ⟨"multiple :: in address", more⟩
              else
                let p := { p with ellipsis := some p.octets.length, rest := tail }
                if tail.isEmpty then .ok p else v6Groups fuel p
            | _ => v6Groups fuel { p with rest := more }
          | _ => .error ⟨"unexpected character, want colon", after⟩

/-- The sixteen octets, the zeros of `::` filled in. -/
def V6Progress.expand (p : V6Progress) : Except AddrError (List Nat) :=
  if !p.rest.isEmpty then .error ⟨"trailing garbage after address", p.rest⟩
  else
    match p.ellipsis with
    | none =>
      if p.octets.length < 16 then .error ⟨"address string too short", []⟩ else .ok p.octets
    | some e =>
      if p.octets.length < 16 then
        .ok (p.octets.take e ++ List.replicate (16 - p.octets.length) 0 ++ p.octets.drop e)
      else .error ⟨"the :: must expand to at least one field of zeros", []⟩

/-- **An IPv6 address** with an optional zone. -/
def parseV6 (s : List Char) : Except AddrError IpAddr :=
  let (body, zone) := match s.idxOf? '%' with
    | some i => (s.take i, some (s.drop (i + 1)))
    | none => (s, none)
  match zone with
  | some [] => .error ⟨"zone must be a non-empty string", []⟩
  | _ =>
    let zoneText := String.ofList (zone.getD [])
    let start : V6Progress := match body with
      | ':' :: ':' :: rest => { ellipsis := some 0, rest }
      | _ => { rest := body }
    if start.ellipsis.isSome && start.rest.isEmpty then .ok (.v6 (List.replicate 16 0) zoneText)
    else do
      let p ← v6Groups 9 start
      let octets ← p.expand
      .ok (.v6 octets zoneText)

/-- **Reading an IP address**, in the form the first of `.`, `:` and `%` in it decides. -/
def IpAddr.parse (s : String) : Except AddrError IpAddr :=
  let cs := s.toList
  match cs.find? (fun c => c == '.' || c == ':' || c == '%') with
  | some '.' => (v4Fields [] 0 0 cs).map IpAddr.v4
  | some ':' => parseV6 cs
  | some _ => .error ⟨"missing IPv6 address", []⟩
  | none => .error ⟨"unable to parse IP", []⟩

/-- An IPv4 address, not one embedded in IPv6. -/
def IpAddr.isV4 : IpAddr → Bool
  | .v4 _ => true
  | .v6 _ _ => false

/-- **A plain IP address**: one that reads, without a zone. -/
def isPlainIp (s : String) : Bool :=
  match IpAddr.parse s with
  | .ok (.v4 _) => true
  | .ok (.v6 _ zone) => zone.isEmpty
  | .error _ => false

end Inventory.Net
