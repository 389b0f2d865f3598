import Inventory.Upload.Http
/-!
# A client that follows redirects

A send hands its request to a client, which makes the exchange: the requests servers receive, in
order, and the reply it returns or the text of its failure. A caller may bring any client; the
standard one, `Client.standard`, is the usual web client with a time limit:

* it sends the request, and while the reply is a redirect (`301`, `302`, `303`, `307` or `308`)
  with a location, it sends the next request to that location, read against the URL of the
  request before. After `307` and `308` the method and the body stay; after `301`, `302` and
  `303` a method other than `GET` and `HEAD` becomes `GET`, and from then on no body is sent;
* it sends at most `requestLimit` requests: the redirect that would make one more fails the
  exchange;
* every request carries the headers of the first. The authorization goes along only while each
  new host is the first one or lies under the first one's name, and once dropped it stays
  dropped; where none goes along, the user information of the request's URL stands in as basic
  credentials. A redirected request names the page it comes from, unless that page was `https`
  and the new one is `http`;
* the servers' waits add up, and once they reach the time limit the exchange fails;
* a reply that is no redirect, or a redirect that names no location, is the one returned.

A failure names the method, the URL concerned with its password hidden, and the cause.
-/

set_option autoImplicit false

namespace Inventory.Upload

/-- A request as a caller hands it to a client. -/
structure Outgoing where
  method : String
  url : Url
  contentType : String
  userAgent : String
  /-- The authorization header set on the request, empty when none is set. -/
  authorization : String := ""
  deviceId : String := ""
  body : Bytes := []

/-- What an exchange came to: the reply returned or the text of the failure, and the requests
servers received, in order. -/
structure Exchange where
  outcome : Except String Reply
  received : List Request := []

/-- A client: the exchange it makes for a request. -/
abbrev Client := Outgoing → Exchange

/-! ## 1. Failures -/

/-- The first occurrence of `pat` in `s` replaced by `rep`. -/
def replaceFirst (s pat rep : String) : String :=
  match s.splitOn pat with
  | first :: rest@(_ :: _) => first ++ rep ++ pat.intercalate rest
  | _ => s

/-- The URL as a failure names it: written back, a password shown as `***`. -/
def shownUrl (u : Url) : String :=
  match u.user with
  | some (name, some pass) =>
    replaceFirst (u.text) (Utf8.decode (Url.userText (name, some pass) false) ++ "@")
      (Utf8.decode name ++ ":***@")
  | _ => u.text

/-- The method as a failure names it: the first letter kept and the others in lower case, or
`Get` for no method. -/
def errorOp (method : String) : String :=
  match method.toList with
  | [] => "Get"
  | c :: rest =>
    if method.toList.all (·.toNat < 128) then String.ofList (c :: rest.map Char.toLower)
    else method

/-- **A failed exchange**: the method of the first request, the URL concerned, the cause. -/
def failure (method : String) (u : String) (cause : String) : String :=
  errorOp method ++ " " ++ Text.quote u ++ ": " ++ cause

/-! ## 2. Redirects -/

/-- The most requests the standard client sends for one exchange. -/
def requestLimit : Nat := 10

/-- What a redirect status asks of the next request: `some true` keeps the method and the body
(`307`, `308`), `some false` asks for a `GET` without body (`301`, `302`, `303`); `none` for a
status that is no redirect. -/
def redirectKeeps (status : Nat) : Option Bool :=
  if status == 307 || status == 308 then some true
  else if status == 301 || status == 302 || status == 303 then some false
  else none

/-- The host name `sub` is `parent` or a name under it; a name with `:` or `%` is an address,
under no name. -/
def isDomainOrSubdomain (sub parent : Bytes) : Bool :=
  sub == parent ||
    (!(sub.contains 0x3A || sub.contains 0x25) && parent.isSuffixOf sub &&
      sub[sub.length - parent.length - 1]? == some 0x2E)

/-- The page a redirected request names: the URL before it without user information, or nothing
when it goes from `https` to `http`. -/
def refererFor (last next : Url) : String :=
  if last.scheme == Utf8.ofString "https" && next.scheme == Utf8.ofString "http" then ""
  else
    match last.user with
    | some ui => replaceFirst last.text (Utf8.decode (Url.userText ui false) ++ "@") ""
    | none => last.text

/-- The authorization a request carries: the one set on it, or else the user information of its
URL as basic credentials. -/
def credentials (u : Url) (set : String) : String :=
  if !set.isEmpty then set
  else
    match u.user with
    | some (name, pass) => "Basic " ++ Base64.encode (name ++ 0x3A :: pass.getD [])
    | none => ""

/-- A request of the standard client's chain: where it goes, with which method and body, whether
the first request's authorization still goes along, and the page it names. -/
structure Hop where
  url : Url
  method : String
  body : Bytes
  keepAuth : Bool := true
  referer : String := ""

namespace Hop

/-- The first request of a chain. -/
def start (first : Outgoing) : Hop :=
  { url := first.url, method := first.method, body := first.body }

/-- **The request a server receives** on a hop: the first request's headers, its authorization
only while it goes along. -/
def request (first : Outgoing) (h : Hop) : Request :=
  { method := h.method
    target := Utf8.decode h.url.requestTarget
    contentType := first.contentType
    userAgent := first.userAgent
    authorization := credentials h.url (if h.keepAuth then first.authorization else "")
    deviceId := first.deviceId
    referer := h.referer
    body := h.body }

/-- **The hop a redirect leads to**, at the resolved location `u`. -/
def next (first : Outgoing) (h : Hop) (keep : Bool) (u : Url) : Hop :=
  { url := u
    method := if keep || h.method == "GET" || h.method == "HEAD" then h.method else "GET"
    body := if keep then h.body else []
    keepAuth := h.keepAuth &&
      (first.url.host == u.host || isDomainOrSubdomain u.hostname first.url.hostname)
    referer := refererFor h.url u }

end Hop

/-! ## 3. The standard client -/

namespace Client

/-- The cause of an exchange that ran out of time. -/
def timeoutCause : String :=
  "context deadline exceeded (Client.Timeout exceeded while awaiting headers)"

/-- The chain from a hop on: `left` more redirects may be followed, `elapsed` nanoseconds have
passed, and a `timeout` of zero sets no limit. -/
def follow (net : Network) (timeout : Nat) (first : Outgoing) :
    Nat → Nat → Hop → Exchange
  | left, elapsed, h =>
    let req := h.request first
    let fail := fun (cause : String) => Except.error (failure first.method (shownUrl h.url) cause)
    match deliver net h.url req with
    | .error e => { outcome := fail e.message }
    | .ok reply =>
      let elapsed := elapsed + reply.wait
      if timeout ≠ 0 ∧ timeout ≤ elapsed then { outcome := fail timeoutCause, received := [req] }
      else
        match redirectKeeps reply.status with
        | none => { outcome := .ok reply, received := [req] }
        | some keep =>
          if reply.location.isEmpty then { outcome := .ok reply, received := [req] }
          else
            match Url.resolve h.url reply.location with
            | .error e =>
              { outcome := fail ("failed to parse Location header " ++ Text.quote reply.location ++
                  ": " ++ Url.errorText e),
                received := [req] }
            | .ok u =>
              match left with
              | 0 =>
                -- the failure names the location as the reply wrote it
                { outcome := .error (failure first.method reply.location
                    ("stopped after " ++ toString requestLimit ++ " redirects")),
                  received := [req] }
              | left + 1 =>
                let rest := follow net timeout first left elapsed (h.next first keep u)
                { rest with received := req :: rest.received }

/-- **The standard client** with a time limit in nanoseconds (none when zero). -/
def standard (net : Network) (timeout : Nat) : Client := fun first =>
  follow net timeout first (requestLimit - 1) 0 (Hop.start first)

end Client

end Inventory.Upload
