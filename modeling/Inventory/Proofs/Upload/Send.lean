import Mathlib.Data.List.Chain
import Inventory.Upload.Send
/-!
# What a send does

A send hands its client exactly one request, and only after every check has passed: options are
given, the URL reads as an absolute URL with a scheme and a host, and the bearer token is not a
web token whose expiry is malformed or past (`check_error_iff`). Whatever fails there fails with
nothing sent.

The request handed over is a `PUT` of the document, unchanged, as JSON, to the URL. It carries
the bearer token exactly when one is given (`outgoing_authorization_eq_bearer_iff`) and the
device identifier exactly when it is not the all-zero one (`outgoing_deviceId_eq_iff`).

Without a client of the caller's, the standard client sends it and follows redirects. What it
does is a chain (`Client.Followed`): the requests it sent, each answered by the server at its
host and each after the first the redirect of the one before, and a reply it returns is the last
one, which asks for no redirect. Each way a step of `Client.follow` can end is one lemma
(`followed_nil`, `followed_single`, `followed_cons`), and `follow_followed` is the induction
over the recursion that cites them; `standard_followed` adds that there are at most
`requestLimit` requests.

The body of the reply the client returns is read up to `maxReply` bytes. A body may end before
the length its reply declares (a cut reply, `Reply.Cut`); reading it then fails, whatever the
status. Otherwise the bytes kept are the first `maxReply` of the body the reply carries
(`Reply.read_of_not_cut`), and the status alone decides between a result and a rejection
(`Answers`). A failed exchange fails the send with the client's message (`Settles`).
`send_cases` says once for every send whether it was refused or settled its client's exchange,
and `send_contract` collects it all.
-/

set_option autoImplicit false

namespace Inventory.Upload

/-! ## 1. Reading a reply -/

/-- **The body a reply carries**: none for a status that has none, else the body up to its
declared length when one is declared. -/
def Reply.content (r : Reply) : Bytes :=
  if bodyless r.status then []
  else
    match r.length with
    | none => r.body
    | some n => r.body.take n

/-- **A cut reply**: the body ends before its declared length, and before `limit` bytes. -/
def Reply.Cut (r : Reply) (limit : Nat) : Prop :=
  bodyless r.status = false ∧ ∃ n, r.length = some n ∧ r.body.length < min n limit

namespace Reply

variable (r : Reply) (limit : Nat)

/-- Reading fails exactly on a cut reply. -/
theorem read_eq_none_iff : r.read limit = none ↔ r.Cut limit := by
  unfold read Cut
  cases hb : bodyless r.status with
  | true => simp
  | false =>
    cases hl : r.length with
    | none => simp
    | some n =>
      simp only [Bool.false_eq_true, ↓reduceIte, true_and]
      split <;> simp_all

/-- **Reading a reply that is not cut** keeps the first `limit` bytes of its body. -/
theorem read_of_not_cut (h : ¬ r.Cut limit) : r.read limit = some (r.content.take limit) := by
  unfold read content
  cases hb : bodyless r.status with
  | true => simp
  | false =>
    cases hl : r.length with
    | none => simp
    | some n =>
      have hlen : ¬ r.body.length < min n limit := fun hlt => h ⟨hb, n, hl, hlt⟩
      simp only [Bool.false_eq_true, ↓reduceIte]
      rw [if_neg hlen, List.take_take, Nat.min_comm]

end Reply

/-! ## 2. The request handed to the client -/

/-- **The bearer token is set exactly when one is given.** -/
theorem outgoing_authorization_eq_bearer_iff (u : Url) (opts : Options) (doc : Bytes) :
    (outgoing u opts doc).authorization = "Bearer " ++ opts.token ↔ opts.token ≠ "" := by
  by_cases ht : opts.token = ""
  · simp [outgoing, ht]
  · have hne : opts.token.isEmpty = false := by simpa [String.isEmpty_iff] using ht
    simp [outgoing, hne, ht]

/-- The text of an identifier is never empty. -/
theorem Uuid.text_ne_empty (u : Uuid) : u.text ≠ "" := by
  intro h
  have := congrArg String.toList h
  simp [Uuid.text] at this

/-- **The device header names the device exactly when it is not the all-zero identifier.** -/
theorem outgoing_deviceId_eq_iff (u : Url) (opts : Options) (doc : Bytes) :
    (outgoing u opts doc).deviceId = opts.deviceId.text ↔ opts.deviceId ≠ Uuid.nil := by
  by_cases hn : opts.deviceId = Uuid.nil
  · simp only [outgoing, hn, beq_self_eq_true, ↓reduceIte, ne_eq, not_true_eq_false, iff_false]
    exact (Uuid.text_ne_empty _).symm
  · have : (opts.deviceId == Uuid.nil) = false := by simpa using hn
    simp [outgoing, this, hn]

/-! ## 3. The standard client -/

/-- A delivered request reached the server at the URL's host, and the reply is that server's. -/
theorem deliver_ok {net : Network} {u : Url} {req : Request} {reply : Reply}
    (h : deliver net u req = .ok reply) :
    ∃ server, net (Utf8.decode u.host) = some server ∧ reply = server req := by
  unfold deliver at h
  split at h
  · exact ⟨_, ‹_›, (Except.ok.inj h).symm⟩
  · -- without a server at the host, every way out is a failure
    dsimp only at h
    split_ifs at h

namespace Client

section Chain

variable (net : Network) (first : Outgoing)

/-- The server at a hop's host gave the reply to the hop's request. -/
def Answered (s : Hop × Reply) : Prop :=
  ∃ server, net (Utf8.decode s.1.url.host) = some server ∧ s.2 = server (s.1.request first)

/-- **A redirect followed**: the reply on a hop is a redirect naming a location that reads
against the hop's URL, and `h'` is the hop it leads to. -/
def Redirect (s : Hop × Reply) (h' : Hop) : Prop :=
  ∃ keep, redirectKeeps s.2.status = some keep ∧ s.2.location ≠ "" ∧
    ∃ u, Url.resolve s.1.url s.2.location = .ok u ∧ h' = s.1.next first keep u

/-- A reply the client returns rather than follows: no redirect, or one that names no
location. -/
def Final (r : Reply) : Prop := redirectKeeps r.status = none ∨ r.location = ""

/-- **What the standard client did** from the hop `h`: the hops it sent, with their replies,
start at `h`, each was answered by the server at its host, and each after the first is the
redirect of the one before; the requests received are theirs, and a reply returned is the last
one, which is final. -/
def Followed (h : Hop) (ex : Exchange) : Prop :=
  ∃ steps : List (Hop × Reply),
    (∀ s ∈ steps.head?, s.1 = h) ∧ (∀ s ∈ steps, Answered net first s) ∧
    steps.IsChain (fun s s' => Redirect first s s'.1) ∧
    ex.received = steps.map (fun s => s.1.request first) ∧
    ∀ reply, ex.outcome = .ok reply → ∃ s ∈ steps.getLast?, s.2 = reply ∧ Final reply

variable {net first}

theorem answered_of_deliver {h : Hop} {reply : Reply}
    (hd : deliver net h.url (h.request first) = .ok reply) : Answered net first (h, reply) :=
  deliver_ok hd

/-- A delivery that failed: nothing was received. -/
theorem followed_nil (h : Hop) (cause : String) : Followed net first h { outcome := .error cause } :=
  ⟨[], by simp, by simp, List.IsChain.nil, rfl, by simp⟩

/-- One request answered and not followed: the exchange ends with that reply or a failure. -/
theorem followed_single {h : Hop} {reply : Reply} (hans : Answered net first (h, reply))
    (outcome : Except String Reply) (hout : ∀ r, outcome = .ok r → r = reply ∧ Final r) :
    Followed net first h { outcome, received := [h.request first] } := by
  refine ⟨[(h, reply)], by simp, by simpa using hans, List.IsChain.singleton _, rfl, ?_⟩
  intro r hr
  obtain ⟨rfl, hfin⟩ := hout r hr
  exact ⟨(h, r), rfl, rfl, hfin⟩

/-- **A redirect followed**: a chain from the hop it leads to is a chain from the hop before,
one request longer. -/
theorem followed_cons {h h' : Hop} {reply : Reply} (hans : Answered net first (h, reply))
    (hred : Redirect first (h, reply) h') {ex : Exchange} (hf : Followed net first h' ex) :
    Followed net first h { ex with received := h.request first :: ex.received } := by
  obtain ⟨steps, hstart, hall, hchain, hrec, hout⟩ := hf
  refine ⟨(h, reply) :: steps, by simp, ?_, ?_, by simp [hrec], ?_⟩
  · intro s hs
    rcases List.mem_cons.1 hs with rfl | hs
    · exact hans
    · exact hall s hs
  · exact hchain.cons fun s hs => hstart s hs ▸ hred
  · intro r hr
    obtain ⟨s, hs, hsr, hfin⟩ := hout r hr
    refine ⟨s, ?_, hsr, hfin⟩
    rw [Option.mem_def] at hs ⊢
    simp [List.getLast?_cons, hs]

/-- **The standard client's run**: whatever the time limit, the redirects left and the time
spent, what it does from a hop is a chain from that hop. The induction follows the recursion of
`follow`; only a followed redirect recurses. -/
theorem follow_followed (timeout left elapsed : Nat) (h : Hop) :
    Followed net first h (follow net timeout first left elapsed h) := by
  fun_induction follow net timeout first left elapsed h with
  | case1 => exact followed_nil _ _
  | case2 left elapsed h req fail reply hd =>
    exact followed_single (answered_of_deliver hd) _ (by simp)
  | case3 left elapsed h req reply hd elapsed' htime hnone =>
    exact followed_single (answered_of_deliver hd) _ fun r hr => by
      cases hr
      exact ⟨rfl, .inl hnone⟩
  | case4 left elapsed h req reply hd elapsed' htime keep hkeep hempty =>
    exact followed_single (answered_of_deliver hd) _ fun r hr => by
      cases hr
      exact ⟨rfl, .inr (by simpa using hempty)⟩
  | case5 left elapsed h req fail reply hd =>
    exact followed_single (answered_of_deliver hd) _ (by simp)
  | case6 elapsed h req reply hd =>
    exact followed_single (answered_of_deliver hd) _ (by simp)
  | case7 elapsed h req reply hd elapsed' htime keep hkeep hloc u hu left rest ih =>
    exact followed_cons (answered_of_deliver hd) ⟨keep, hkeep, by simpa using hloc, u, hu, rfl⟩ ih

/-- Each followed redirect uses up one of those left. -/
theorem follow_received_length (timeout left elapsed : Nat) (h : Hop) :
    (follow net timeout first left elapsed h).received.length ≤ left + 1 := by
  fun_induction follow net timeout first left elapsed h with
  | case7 elapsed h req reply hd elapsed' htime keep hkeep hloc u hu left rest ih =>
    exact Nat.succ_le_succ ih
  | case1 | case2 | case3 | case4 | case5 | case6 => simp

/-- **The standard client**: what it does is a chain from the request it is given, of at most
`requestLimit` requests. -/
theorem standard_followed (timeout : Nat) :
    Followed net first (Hop.start first) (standard net timeout first) ∧
      (standard net timeout first).received.length ≤ requestLimit :=
  ⟨follow_followed timeout _ 0 _, by
    have := @follow_received_length net first timeout (requestLimit - 1) 0 (Hop.start first)
    unfold requestLimit at this ⊢
    exact this⟩

end Chain

end Client

/-! ## 4. The checks before sending -/

/-- **A token the check refuses**: a web token whose expiry is malformed or already past. -/
def TokenRefused (now : Int) (token : String) : Prop :=
  token ≠ "" ∧ ∃ cs, Token.claims? token = some cs ∧
    ((∃ e, Token.expiry cs = .error e) ∨
      ∃ s, Token.expiry cs = .ok (some s) ∧ s * 1000000000 < now + Token.epochOffset * 1000000000)

/-- **The token check refuses exactly the web tokens whose expiry is malformed or past.** -/
theorem check_error_iff (now : Int) (token : String) :
    (∃ e, Token.check now token = .error e) ↔ TokenRefused now token := by
  unfold Token.check TokenRefused
  by_cases ht : token = ""
  · subst ht
    simp
  · have hne : token.isEmpty = false := by simpa [String.isEmpty_iff] using ht
    simp only [hne, Bool.false_eq_true, ↓reduceIte, ne_eq, ht, not_false_eq_true, true_and]
    cases hc : Token.claims? token with
    | none => simp
    | some cs =>
      simp only [Option.some.injEq, exists_eq_left']
      cases hx : Token.expiry cs with
      | error e => simp
      | ok x =>
        cases x with
        | none => simp
        | some s =>
          simp only [Except.ok.injEq, reduceCtorEq, exists_false, false_or, Option.some.injEq,
            exists_eq_left']
          split <;> simp_all

/-- **Options a send refuses before connecting**: none at all, a URL that does not read or has
no scheme or no host, or a token the check refuses. -/
def Unsendable (now : Int) : Option Options → Prop
  | none => True
  | some o =>
    (∀ u, Url.parse o.url ≠ .ok u) ∨ (∃ u, Url.parse o.url = .ok u ∧ (u.scheme = [] ∨ u.host = [])) ∨
      TokenRefused now o.token

/-! ## 5. The result -/

/-- **What a send makes of the reply its client returned.** The body is read up to `maxReply`
bytes; a cut reply fails the read; otherwise a status from `200` to `299` is a result carrying
the bytes read, and any other status a rejection carrying it and quoting those bytes trimmed. -/
structure Answers (o : Options) (reply : Reply) (result : Except UploadError Result) : Prop where
  ok_iff : (∃ res, result = .ok res) ↔ ¬ reply.Cut maxReply ∧ 200 ≤ reply.status ∧ reply.status < 300
  ok_body : ∀ res, result = .ok res →
    res = { status := reply.status, body := reply.content.take maxReply }
  cut : reply.Cut maxReply →
    result = .error { url := o.url, message := "failed to read response body", cause := some "unexpected EOF" }
  rejected : ∀ e, ¬ reply.Cut maxReply → result = .error e →
    e = { url := o.url, status := reply.status,
          message := "server rejected document" ++
            (let t := Text.trim (Utf8.decode (reply.content.take maxReply))
             if t.isEmpty then "" else ": " ++ t) }

/-- **What a send makes of its client's exchange**: a failure fails it with the client's message
as the cause, and a reply is answered. -/
def Settles (o : Options) : Except String Reply → Except UploadError Result → Prop
  | .error cause, result =>
    result = .error { url := o.url, message := "HTTP request failed", cause := some cause }
  | .ok reply, result => Answers o reply result

/-- **Answering a reply** meets `Answers`. -/
theorem answer_answers (o : Options) (reply : Reply) : Answers o reply (answer o reply) := by
  unfold answer
  cases hr : reply.read maxReply with
  | none =>
    -- the body ends early: the read fails
    have hcut := (Reply.read_eq_none_iff _ _).1 hr
    exact ⟨by simp [hcut], by simp, fun _ => rfl, fun _ h => absurd hcut h⟩
  | some body =>
    have hcut : ¬ reply.Cut maxReply := fun h => by
      rw [(Reply.read_eq_none_iff _ _).2 h] at hr
      cases hr
    have hbody := Reply.read_of_not_cut _ _ hcut
    rw [hr, Option.some.injEq] at hbody
    subst hbody
    dsimp only
    by_cases hok : 200 ≤ reply.status ∧ reply.status < 300
    · -- an accepting status: the result carries the bytes read
      have hc : (decide (reply.status < 200) || decide (reply.status ≥ 300)) = false := by
        simp only [Bool.or_eq_false_iff, decide_eq_false_iff_not]; omega
      simp only [hc, Bool.false_eq_true, ↓reduceIte]
      refine ⟨⟨fun _ => ⟨hcut, hok⟩, fun _ => ⟨_, rfl⟩⟩, fun _ h => (Except.ok.inj h).symm,
        fun h => absurd h hcut, fun _ _ h => ?_⟩
      cases h
    · -- any other status: a rejection carrying it
      have hc : (decide (reply.status < 200) || decide (reply.status ≥ 300)) = true := by
        simp only [Bool.or_eq_true, decide_eq_true_eq]; omega
      simp only [hc, ↓reduceIte]
      refine ⟨⟨?_, fun h => absurd h.2 hok⟩, fun _ h => ?_, fun h => absurd h hcut,
        fun _ _ h => (Except.error.inj h).symm⟩
      · rintro ⟨_, h⟩; cases h
      · cases h

/-- **Settling an exchange** meets `Settles`, and keeps the requests the exchange made. -/
theorem settle_settles (o : Options) (ex : Exchange) :
    Settles o ex.outcome (settle o ex).result ∧ (settle o ex).received = ex.received := by
  refine ⟨?_, rfl⟩
  unfold settle
  cases ex.outcome with
  | error cause => rfl
  | ok reply => exact answer_answers o reply

/-- **Inversion of a send**: the options were refused and nothing reached a server, or every
check passed and the send settles the exchange its client made for the request. -/
theorem send_cases (net : Network) (now : Int) (doc : Bytes) (opts : Option Options) :
    (Unsendable now opts ∧ (send net now doc opts).received = []) ∨
    ∃ o u, opts = some o ∧ Url.parse o.url = .ok u ∧ ¬ Unsendable now opts ∧
      send net now doc opts = settle o (o.sender net (outgoing u o doc)) := by
  cases opts with
  | none => exact .inl ⟨trivial, rfl⟩
  | some o =>
    -- a failed check returns before anything is handed to the client
    cases hp : Url.parse o.url with
    | error e =>
      refine .inl ⟨.inl fun u h => ?_, by simp [send, hp]⟩
      rw [hp] at h
      cases h
    | ok u =>
      cases hsh : (u.scheme.isEmpty || u.host.isEmpty) with
      | true =>
        refine .inl ⟨.inr (.inl ⟨u, hp, ?_⟩), by simp [send, hp, hsh]⟩
        simpa using hsh
      | false =>
      cases ht : Token.check now o.token with
      | error e =>
        exact .inl ⟨.inr (.inr ((check_error_iff now o.token).1 ⟨e, ht⟩)),
          by simp [send, hp, hsh, ht]⟩
      | ok _ =>
      refine .inr ⟨o, u, rfl, hp, ?_, by simp [send, hp, hsh, ht]⟩
      -- every check passed, so the options were not refused
      rintro (hparse | ⟨u', hu', hs⟩ | htok)
      · exact hparse u hp
      · rw [hp] at hu'
        cases hu'
        simp_all
      · obtain ⟨e, he⟩ := (check_error_iff now o.token).2 htok
        rw [ht] at he
        cases he

/-! ## 6. The contract -/

/-- **Sending a document.** Options refused before connecting send nothing. Otherwise the
client is handed one request, a `PUT` of the document as JSON to the URL, with the bearer token
exactly when one is given and the device identifier exactly when it is not the all-zero one; the
requests servers receive are those the client sent, and the result settles the client's outcome.
The standard client sends at most `requestLimit` requests, the first the one handed to it and
each later one following a redirect of the reply before, and a reply it returns is the last
one. -/
theorem send_contract (net : Network) (now : Int) (doc : Bytes) (opts : Option Options) :
    (Unsendable now opts → (send net now doc opts).received = []) ∧
    ∀ o, opts = some o → ¬ Unsendable now opts → ∃ u, Url.parse o.url = .ok u ∧
      let req := outgoing u o doc
      let ex := o.sender net req
      req.method = "PUT" ∧ req.url = u ∧ req.body = doc ∧ req.contentType = "application/json" ∧
      (req.authorization = "Bearer " ++ o.token ↔ o.token ≠ "") ∧
      (req.deviceId = o.deviceId.text ↔ o.deviceId ≠ Uuid.nil) ∧
      (send net now doc opts).received = ex.received ∧
      Settles o ex.outcome (send net now doc opts).result ∧
      (o.client = none →
        Client.Followed net req (Hop.start req) ex ∧ ex.received.length ≤ requestLimit) := by
  rcases send_cases net now doc opts with ⟨hu, hnil⟩ | ⟨o, u, rfl, hp, hok, hsend⟩
  · exact ⟨fun _ => hnil, fun _ _ hok => absurd hu hok⟩
  · refine ⟨fun h => absurd h hok, fun o' ho' _ => ?_⟩
    cases ho'
    obtain ⟨hsettles, hrec⟩ := settle_settles o (o.sender net (outgoing u o doc))
    refine ⟨u, hp, rfl, rfl, rfl, rfl, outgoing_authorization_eq_bearer_iff u o doc,
      outgoing_deviceId_eq_iff u o doc, by rw [hsend, hrec], by rw [hsend]; exact hsettles,
      fun hc => ?_⟩
    -- without a client of the caller's, the standard one sends
    simp only [Options.sender, hc, Option.getD_none]
    exact Client.standard_followed _

/-- **A reply cut short fails the send, whatever its status**: the server at the URL accepts the
request with status `200` but sends five bytes of the hundred it declares, and the send gives
no result. -/
theorem send_cut_reply_fails :
    let reply : Reply := { status := 200, body := Utf8.ofString "short", length := some 100 }
    let sent := send (fun _ => some fun _ => reply) 0 (Utf8.ofString "[]")
      (some { url := "http://oracle.test" })
    sent.received.length = 1 ∧ sent.result.isOk = false := by
  decide +kernel

end Inventory.Upload
