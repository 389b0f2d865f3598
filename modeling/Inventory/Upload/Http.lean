import Inventory.Net.Url
import Inventory.Text.Base64
/-!
# Requests, replies and their delivery

The upload speaks HTTP. A request is kept as the server receives it: method, request target,
the headers the upload sets, and the body. A reply is a status, a body, the body length the
server declares if it declares one, the location a redirect names, and how long the server takes
before its reply's headers arrive.

Delivery looks up the server at the URL's host on a network. A host without a server there is
reached through the ordinary transport, which carries only `http` and `https` and on this
machine reaches no other host: the connection fails with an unreachable network, after the
scheme and then the host are checked.

Reading a reply's body stops at a limit. A declared length caps the body; a declared length
longer than the body that arrives ends the read early, unless the limit is reached first.
Replies with an informational status, `204` or `304` have no body.
-/

set_option autoImplicit false

namespace Inventory.Upload

/-- A request as the server receives it. -/
structure Request where
  method : String
  /-- The request target: the escaped path, `/` when empty, and the query. -/
  target : String
  contentType : String
  userAgent : String
  authorization : String := ""
  deviceId : String := ""
  /-- The page a redirected request comes from; empty when none is named. -/
  referer : String := ""
  body : Bytes := []
  deriving DecidableEq, Repr

/-- A reply as the server sends it. -/
structure Reply where
  status : Nat := 200
  body : Bytes := []
  /-- The body length the server declares, if any. -/
  length : Option Nat := none
  /-- The `Location` header, empty when there is none. -/
  location : String := ""
  /-- The nanoseconds from the request to the reply's headers. -/
  wait : Nat := 0
  deriving DecidableEq, Repr

/-- A server: the reply to each request. -/
abbrev Server := Request → Reply

/-- A network: the server at each host, as the host is written in a URL. -/
abbrev Network := String → Option Server

/-- The network where no host answers. -/
def Network.empty : Network := fun _ => none

/-- **A declared length** as a header states it: an optional sign and decimal digits naming a
count within the signed 64-bit range; any other text declares nothing. -/
def declaredLength? (text : String) : Option Nat :=
  let cs := match text.toList with
    | '+' :: r => r
    | r => r
  let (neg, cs) := match cs with
    | '-' :: r => (true, r)
    | r => (false, r)
  if cs.isEmpty || !cs.all Char.isDigit then none
  else
    let n := cs.foldl (fun acc d => acc * 10 + (d.toNat - 48)) 0
    if neg && n ≠ 0 then none
    else if n ≥ Nat.pow 2 63 then none
    else some n

/-- Statuses whose replies carry no body. -/
def bodyless (status : Nat) : Bool := status / 100 == 1 || status == 204 || status == 304

/-- Why a request was not delivered. -/
inductive DeliveryError where
  | scheme (name : String)
  | noHost
  | unreachable (address : String)
  deriving DecidableEq, Repr

/-- The message of a failed delivery. -/
def DeliveryError.message : DeliveryError → String
  | .scheme s => "unsupported protocol scheme " ++ Text.quote s
  | .noHost => "http: no Host in request URL"
  | .unreachable a => "dial tcp " ++ a ++ ": connect: network is unreachable"

/-- The address a connection to the URL dials: host and port, the scheme's port by default. -/
def address (u : Url) : String :=
  let host := Utf8.decode u.hostname
  let port := if u.port.isEmpty then (if u.scheme == Utf8.ofString "https" then "443" else "80")
    else Utf8.decode u.port
  (if host.contains ':' then "[" ++ host ++ "]" else host) ++ ":" ++ port

/-- **Delivering a request** to the server at the URL's host. -/
def deliver (net : Network) (u : Url) (req : Request) : Except DeliveryError Reply :=
  match net (Utf8.decode u.host) with
  | some server => .ok (server req)
  | none =>
    let scheme := Utf8.decode u.scheme
    if scheme != "http" && scheme != "https" then .error (.scheme scheme)
    else if u.host.isEmpty then .error .noHost
    else .error (.unreachable (address u))

/-- **Reading a reply's body**, at most `limit` bytes; `none` when the body ends before its
declared length and before the limit. -/
def Reply.read (r : Reply) (limit : Nat) : Option Bytes :=
  if bodyless r.status then some []
  else
    match r.length with
    | none => some (r.body.take limit)
    | some n =>
      let want := min n limit
      if r.body.length < want then none else some (r.body.take want)

end Inventory.Upload
