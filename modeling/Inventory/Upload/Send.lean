import Inventory.Upload.Client
import Inventory.Token
import Inventory.Uuid
import Inventory.Text.Space
/-!
# Sending the document

The document is sent as one `PUT` to the configured URL, handed to the client the options give
or else to the standard client with their time limit (30 seconds when none is given), which
follows redirects. Before anything is sent, the URL must read as an absolute URL with a scheme
and a host, and the bearer token must not have expired. The request carries the document as
JSON, the user agent (`system_info/1.0` unless another is given), the bearer token when one is
given, and the device identifier unless it is the all-zero one.

The body of the reply the client returns is read up to 64 KiB. A status outside `200`–`299` is
a rejection, which quotes the trimmed body when it is not blank.

A failure names the URL as it was given, what went wrong, and then its cause when there is one,
or else the status when it is not zero.
-/

set_option autoImplicit false

namespace Inventory.Upload

/-- How to send. -/
structure Options where
  url : String
  token : String := ""
  deviceId : Uuid := Uuid.nil
  /-- The standard client's time limit in nanoseconds; zero or less gives the default. -/
  timeout : Int := 0
  userAgent : String := ""
  /-- The client to send with; the standard one when none is given. -/
  client : Option Client := none

/-- The server's accepting reply. -/
structure Result where
  status : Nat
  body : Bytes
  deriving DecidableEq, Repr

/-- A failed upload: the URL as given, what went wrong, the status of a rejecting reply, and the
cause underneath, if any. -/
structure UploadError where
  url : String := ""
  message : String
  status : Int := 0
  cause : Option String := none
  deriving DecidableEq, Repr

/-- **The message of a failed upload.** -/
def UploadError.text (e : UploadError) : String :=
  match e.cause with
  | some c => "upload error for " ++ e.url ++ ": " ++ e.message ++ ": " ++ c
  | none =>
    if e.status ≠ 0 then
      "upload error for " ++ e.url ++ ": " ++ e.message ++ " (status " ++ toString e.status ++ ")"
    else "upload error for " ++ e.url ++ ": " ++ e.message

/-- The user agent sent when none is given. -/
def defaultUserAgent : String := "system_info/1.0"

/-- The most reply bytes kept. -/
def maxReply : Nat := 65536

/-- The standard client's time limit when none is given: 30 seconds. -/
def defaultTimeout : Nat := 30000000000

/-- **The client a send uses**: the one given, or the standard client on the network. -/
def Options.sender (net : Network) (opts : Options) : Client :=
  opts.client.getD
    (Client.standard net (if opts.timeout ≤ 0 then defaultTimeout else opts.timeout.toNat))

/-- What a send did: its outcome, and the requests the servers received. -/
structure Sent where
  result : Except UploadError Result
  received : List Request := []

/-- **The request** a send hands its client. -/
def outgoing (u : Url) (opts : Options) (doc : Bytes) : Outgoing :=
  { method := "PUT"
    url := u
    contentType := "application/json"
    userAgent := if opts.userAgent.isEmpty then defaultUserAgent else opts.userAgent
    authorization := if opts.token.isEmpty then "" else "Bearer " ++ opts.token
    deviceId := if opts.deviceId == Uuid.nil then "" else opts.deviceId.text
    body := doc }

/-- **The result of a reply** the client returned: its body read up to `maxReply` bytes, then a
result for a status from `200` to `299` and otherwise a rejection quoting the trimmed body. -/
def answer (opts : Options) (reply : Reply) : Except UploadError Result :=
  match reply.read maxReply with
  | none =>
    .error { url := opts.url, message := "failed to read response body", cause := some "unexpected EOF" }
  | some body =>
    if reply.status < 200 || reply.status ≥ 300 then
      let trimmed := Text.trim (Utf8.decode body)
      let message := "server rejected document" ++ (if trimmed.isEmpty then "" else ": " ++ trimmed)
      .error { url := opts.url, message, status := reply.status }
    else .ok { status := reply.status, body }

/-- **What a send makes of its client's exchange**: a failed exchange fails it with the client's
message as the cause, and a reply is answered; the requests received are the exchange's. -/
def settle (opts : Options) (ex : Exchange) : Sent :=
  { result :=
      match ex.outcome with
      | .error cause => .error { url := opts.url, message := "HTTP request failed", cause := some cause }
      | .ok reply => answer opts reply
    received := ex.received }

/-- **Sending** a document over a network at a moment (nanoseconds since the Unix epoch). -/
def send (net : Network) (now : Int) (doc : Bytes) : Option Options → Sent
  | none => { result := .error { message := "no upload options" } }
  | some opts =>
    let fail := fun (message : String) (cause : Option String) =>
      Except.error { url := opts.url, message, cause : UploadError }
    match Url.parse opts.url with
    | .error e => { result := fail "invalid URL" (some (Url.errorText e)) }
    | .ok u =>
      if u.scheme.isEmpty || u.host.isEmpty then { result := fail "invalid URL" none }
      else
        match Token.check now opts.token with
        | .error e => { result := fail "refusing to send" (some e.message) }
        | .ok () => settle opts (opts.sender net (outgoing u opts doc))

end Inventory.Upload
