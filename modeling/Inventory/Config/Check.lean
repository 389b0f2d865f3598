import Inventory.Config.Basic
import Inventory.Net.Url
/-!
# Checking settings

Settings are checked in a fixed order and the first fault is reported:

1. the upload endpoint, when given, must be an absolute URL: after lower-casing it is a
   `file:/` request target, or it has a scheme and a host, a fragment or a rootless part;
2. the device identifier, when given, must be five groups of 8, 4, 4, 4 and 12 lower-case
   hexadecimal digits joined by hyphens;
3. the probe time limit must read (`probeTimeout`) and must not be negative;
4. a schema path, when given, must not name a missing file. Only a missing file counts: a
   path through a regular file is refused for another reason and passes here.

The time limit is a whole number of seconds (sign and leading zeros allowed, at most as many
seconds as fit in 64 bits of nanoseconds either way), or else a duration text.
-/

set_option autoImplicit false

namespace Inventory

/-- Why settings were refused. -/
inductive ConfigError where
  /-- A field broke its rule; the field's name, the rule's name and the value. -/
  | invalidField (field rule value : String)
  | negativeTimeout
  | timeoutRange (text : String)
  | badTimeout (text : String) (cause : Duration.ParseError)
  | schemaMissing (path : String)
  deriving DecidableEq, Repr

/-- The message of refused settings. -/
def ConfigError.message : ConfigError → String
  | .invalidField f r v => "config error: '" ++ f ++ "' is not a valid " ++ r ++ ": " ++ v
  | .negativeTimeout => "config error: 'timeout' must be non-negative"
  | .timeoutRange t => "config error: timeout " ++ Text.quote t ++ " is out of range"
  | .badTimeout t e => "config error: invalid timeout " ++ Text.quote t ++ ": " ++ e.message
  | .schemaMissing p => "config error: schema file not found: " ++ p

namespace Config

/-! ## 1. Field rules -/

/-- Lower case as far as a URL's form can tell: ASCII capitals, and the two characters
whose lower case is ASCII (`İ` and the Kelvin sign). Every other character keeps its
place among the non-ASCII ones, which a URL treats alike. -/
def urlLower (c : Char) : Char :=
  if 'A' ≤ c && c ≤ 'Z' then Char.ofNat (c.toNat + 32)
  else if c.toNat = 0x130 then 'i'
  else if c.toNat = 0x212A then 'k'
  else c

/-- **The endpoint rule**: an absolute URL. -/
def isUrl (s : String) : Bool :=
  let s := String.ofList (s.toList.map urlLower)
  if s.isEmpty then false
  else if s.startsWith "file:/" && (Url.parseRequest s).toBool then true
  else
    match Url.parse s with
    | .error _ => false
    | .ok u => !u.scheme.isEmpty && !(u.host.isEmpty && u.fragment.isEmpty && u.rootless.isEmpty)

/-- A lower-case hexadecimal digit. -/
def isLowerHex (c : Char) : Bool := ('0' ≤ c && c ≤ '9') || ('a' ≤ c && c ≤ 'f')

/-- **The identifier rule**: `8-4-4-4-12` lower-case hexadecimal digits. -/
def isUuid (s : String) : Bool :=
  let groups := s.splitOn "-"
  groups.map String.length == [8, 4, 4, 4, 12] && groups.all (·.toList.all isLowerHex)

/-! ## 2. The time limit -/

/-- The most whole seconds a limit may have. -/
def maxTimeoutSeconds : Nat := (Nat.pow 2 63 - 1) / Duration.second

/-- A decimal integer with an optional sign that fits in 64 bits. -/
def readInt (s : String) : Option Int :=
  let (neg, ds) := match s.toList with
    | '-' :: r => (true, r)
    | '+' :: r => (false, r)
    | r => (false, r)
  if ds.isEmpty || !ds.all Char.isDigit then none
  else
    let v : Nat := ds.foldl (fun acc d => acc * 10 + (d.toNat - 48)) 0
    if neg then (if v ≤ Nat.pow 2 63 then some (-(v : Int)) else none)
    else if v < Nat.pow 2 63 then some (v : Int) else none

/-- **The probe time limit**: zero when not given. -/
def probeTimeout (c : Config) : Except ConfigError Duration :=
  if c.timeout.isEmpty then .ok ⟨0⟩
  else
    match readInt c.timeout with
    | some n =>
      if n.natAbs > maxTimeoutSeconds then .error (.timeoutRange c.timeout)
      else .ok ⟨n * (Duration.second : Int)⟩
    | none =>
      match Duration.parse (Utf8.ofString c.timeout) with
      | .ok d => .ok d
      | .error e => .error (.badTimeout c.timeout e)

/-- **The probe to run**, with its time limit. -/
def probeCommand (c : Config) : Except ConfigError Probe.Command := do
  let t ← c.probeTimeout
  return { name := c.probe, args := c.probeArgs, timeout := t }

/-! ## 3. Checking -/

/-- **Checking settings**; `missing p` tells that nothing exists at the path `p`. -/
def validate (missing : String → Bool) (c : Config) : Except ConfigError Unit := do
  if !c.url.isEmpty && !isUrl c.url then throw (.invalidField "url" "url" c.url)
  if !c.deviceId.isEmpty && !isUuid c.deviceId then
    throw (.invalidField "device_id" "uuid" c.deviceId)
  let t ← c.probeTimeout
  if t.nanos < 0 then throw .negativeTimeout
  if !c.schema.isEmpty && missing c.schema then throw (.schemaMissing c.schema)

end Config

end Inventory
