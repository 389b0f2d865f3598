import Inventory.Json.Read
import Inventory.Number.Binary64
import Inventory.Text.Base64
import Inventory.Time.Date
/-!
# Bearer tokens

A bearer token is sent as it is given, but a token that is a signed JSON web token is looked
at first, without checking its signature: when its expiry lies in the past the upload is
refused, so that a stale credential fails before any data leaves the machine. A token that is
not such a web token passes; the server remains the authority on it.

A token is a web token when it has exactly three dot-separated segments, the first two are
unpadded URL-safe base64 (line breaks are skipped), the first decodes to a JSON object whose
last `alg` member names a known signing method, and the second decodes to a JSON object. In
both, every number must be within the range of a double, and `null` counts as an empty
object.

The expiry is the last `exp` claim. It is absent when missing or zero; a claim that is not a
number is malformed. A number of seconds is read as the nearest double and falls in the second
of its integer part, one earlier when a negative fraction is worth at least a nanosecond; that
second is kept as a signed 64-bit count after the Unix epoch and moved to the count from
0001-01-01, both in 64-bit arithmetic. The token has expired when that second begins before
the current time.
-/

set_option autoImplicit false

namespace Inventory.Token

open Json

/-- The signing methods a token may name. -/
def methods : List String :=
  ["HS256", "HS384", "HS512", "RS256", "RS384", "RS512", "ES256", "ES384", "ES512",
   "PS256", "PS384", "PS512", "EdDSA", "none"]

/-- Why a token is refused. -/
inductive TokenError where
  /-- The expiry claim is not a number. -/
  | malformedExpiry
  /-- The token expired; the moment is in seconds since the Unix epoch. -/
  | expired (moment : Int)
  deriving DecidableEq, Repr

/-- The message of a refused token. -/
def TokenError.message : TokenError → String
  | .malformedExpiry => "malformed token expiry: invalid type for claim: exp is invalid"
  | .expired t => "token expired at " ++ (Stamp.ofUnix t).text

/-- The three segments of a compact token, or `none` for any other number of dots. -/
def segments (token : String) : Option (String × String × String) :=
  match token.splitOn "." with
  | [h, c, s] => some (h, c, s)
  | _ => none

mutual

/-- Every number in the value is within the range of a double. -/
def numbersFit : Value → Bool
  | .number lit => !(Decimal.ofLiteral lit).exceedsDouble
  | .array items => itemsFit items
  | .object ms => membersFit ms
  | _ => true

/-- Every number in the items is within the range of a double. -/
def itemsFit : List Value → Bool
  | [] => true
  | v :: rest => numbersFit v && itemsFit rest

/-- Every number in the members' values is within the range of a double. -/
def membersFit : List (String × Value) → Bool
  | [] => true
  | (_, v) :: rest => numbersFit v && membersFit rest

end

/-- **A segment as an object**: its members, `[]` for `null`, or `none` when it is not
base64, not JSON, another kind of value, or holds a number beyond a double. -/
def segmentObject (seg : String) : Option (List (String × Value)) := do
  let bytes ← Base64.decodeUrl? seg
  let v ← (Value.parseStrict bytes).toOption
  if !numbersFit v then none
  else
    match v with
    | .object ms => some ms
    | .null => some []
    | _ => none

/-- The header and claims of a token that is a web token. -/
def claims? (token : String) : Option (List (String × Value)) := do
  let (h, c, _) ← segments token
  let header ← segmentObject h
  let claims ← segmentObject c
  match Value.lookup header "alg" with
  | some (.string alg) => if methods.contains alg then some claims else none
  | _ => none

/-- Seconds from 0001-01-01 to the Unix epoch. -/
def epochOffset : Int := 62135596800

/-- An integer taken into the signed 64-bit range by wrapping. -/
def wrap64 (n : Int) : Int := (n + Int.pow 2 63) % Int.pow 2 64 - Int.pow 2 63

/-- The integer part of a double as a signed 64-bit count; a part outside that range becomes
the least count. -/
def toCount (x : Binary64) : Int :=
  let t := x.truncate
  if t < -(Int.pow 2 63) || t ≥ Int.pow 2 63 then -(Int.pow 2 63) else t

/-- The fraction of a negative double is worth at least a nanosecond once multiplied by `10^9`
and rounded to a double: its magnitude times `10^9` is at least `1 - 2^-54`. -/
def earlier (x : Binary64) : Bool :=
  let (n, d) := x.fractionPart
  x.negative && n * 1000000000 * Nat.pow 2 54 ≥ (Nat.pow 2 54 - 1) * d

/-- **The expiry second**, counted from 0001-01-01 in 64-bit arithmetic. -/
def expirySecond (x : Binary64) : Int :=
  let secs := toCount x
  let secs := if earlier x then wrap64 (secs - 1) else secs
  wrap64 (secs + epochOffset)

/-- **The expiry** of the claims: `none` when absent or zero, else its second counted from
0001-01-01. -/
def expiry (claims : List (String × Value)) : Except TokenError (Option Int) :=
  match Value.lookup claims "exp" with
  | none => .ok none
  | some (.number lit) =>
    match Binary64.ofDecimal (Decimal.ofLiteral lit) with
    | none => .ok none
    | some x => if x.isZero then .ok none else .ok (some (expirySecond x))
  | some _ => .error .malformedExpiry

/-- **Checking a token** at a moment given in nanoseconds since the Unix epoch. -/
def check (now : Int) (token : String) : Except TokenError Unit :=
  if token.isEmpty then .ok ()
  else
    match claims? token with
    | none => .ok ()
    | some cs =>
      match expiry cs with
      | .error e => .error e
      | .ok none => .ok ()
      | .ok (some s) =>
        if s * 1000000000 < now + epochOffset * 1000000000 then .error (.expired (s - epochOffset))
        else .ok ()

end Inventory.Token
