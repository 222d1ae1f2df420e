import BillVpn.Front.FrontEnds
import BillVpn.Go.Bufio
import BillVpn.Tls.CallSites

/-!
# The tunnel of the desktop proxy

`handleTunnel` looks at the first bytes of the client.  A TLS record goes to `handleTLS`, an HTTP
request to `handleHTTP`; both send what they have read upstream themselves.  Then two copy loops
relay the rest.

* `HttpLib`         the functions of `net/http` on requests;
* `Session`         the client's reader, the two connections, the routing state;
* `tunnelStart`     up to the copy loops: whether they are reached, and whether there is an upstream
                    connection then;
* `handleTunnel`    with the copy loop from the client to the upstream connection.

With `replyFirst` the handlers dial upstream themselves; without it the caller has done so.  Whether
`dstConn` is a connection or `nil` is the Boolean `dst`.
-/

set_option linter.unusedVariables false

namespace Bill
open Go Res Proc Conn

/-- requests are read and written as a function of the bytes, however these arrive -/
structure HttpLib where
  /-- `http.ReadRequest`: the number of bytes taken off the reader, and the request -/
  readRequest : Bytes → Nat × Except String HttpRequest
  /-- `req.Write`: what is written, and the number of bytes of the body taken off the reader -/
  writeRequest : HttpRequest → Bytes → Except String (Bytes × Nat)

structure Session (σ : Type) where
  routing : σ
  client : Reader
  tunnel : Tunnel := {}
  /-- HTTP responses to the client -/
  answers : List Reply := []
  /-- the copy loops have been started -/
  relaying : Bool := false

section
variable {σ α : Type}

def onRouter (x : Proc σ α) : Proc (Session σ) α :=
  zoom (·.routing) (fun t s => { s with routing := t }) x

def onClient (x : Proc Reader α) : Proc (Session σ) α :=
  zoom (·.client) (fun t s => { s with client := t }) x

def onTunnel (x : Proc Tunnel α) : Proc (Session σ) α :=
  zoom (·.tunnel) (fun t s => { s with tunnel := t }) x

/-- `resp.Write(cliConn)`, whose error is only logged -/
def answer (r : Reply) : Proc (Session σ) Unit := modify fun s => { s with answers := s.answers ++ [r] }

variable (env : Env σ) (lib : HttpLib)

/-! ## HTTP -/

def requestHost (req : HttpRequest) (originHost : Bytes) : Bytes :=
  if req.host ≠ [] then req.host else if req.urlHost ≠ [] then req.urlHost else originHost

/-- the rule of the name in the request, and the rule of the address its `host` field gives -/
def httpPolicy (host : Bytes) : Proc σ Policy :=
  let p := match env.domainFind host with
    | some domainPolicy => mergePolicies [domainPolicy, env.defaultPolicy]
    | none => env.defaultPolicy
  match p.host with
  | none => pure p
  | some [] => pure p
  | some (c :: cs) =>
    if c = caret then pure p
    else do
      let r ← ipRedirect env.toRedirects true (c :: cs)
      match r.2 with
      | some ipPolicy => pure (mergePolicies [p, ipPolicy, env.defaultPolicy])
      | none => pure p

/-- `http_status`, with a `Location` that is always `https` -/
def tunnelStatus (req : HttpRequest) (host : Bytes) (status : Int) : Reply :=
  if status = 301 ∨ status = 302 then
    .http status (some (lit "https://" ++ host ++ req.requestURI))
  else .http status none

/-- `req.Write(dstConn)` -/
def forwardRequest (req : HttpRequest) : Proc (Session σ) Unit := do
  let s ← get
  match lib.writeRequest req s.client.rest with
  | .error e => fail e
  | .ok (wire, n) => do
    onTunnel (onDst (send (.data wire)))
    onClient (modify (Reader.skip n))

def handleHTTP (req : HttpRequest) (replyFirst : Bool) (originHost target : Bytes) (dst : Bool) :
    Proc (Session σ) (Option Bool) := do
  let host := requestHost req originHost
  match ← attempt (onRouter (httpPolicy env host)) with
  | .error _ => pure none
  | .ok p =>
    if p.httpStatus = 0 ∨ p.httpStatus = -1 then
      match ← attempt (onTunnel (dialLate p replyFirst target)) with
      | .error _ => do
        answer (.http 502 none)
        pure none
      | .ok _ =>
        match ← attempt (forwardRequest lib req) with
        | .error _ => pure none
        | .ok _ => pure (some (replyFirst || dst))
    else do
      answer (tunnelStatus req host p.httpStatus)
      pure none

/-! ## the first bytes -/

def httpMethods : List Bytes :=
  [lit "GET ", lit "POST ", lit "HEAD ", lit "PUT ", lit "DELETE ", lit "OPTIONS ", lit "TRACE ",
    lit "PATCH "]

/-- the texts are shorter than what is peeked -/
def bytesHasPrefix (b : Bytes) (texts : List Bytes) : Bool := texts.any fun t => b.take t.length == t

variable (getFakeTTL : Policy → Bytes → Bool → Res Int)

def tlsEnv : TlsEnv := ⟨env.domainFind, env.defaultPolicy, getFakeTTL⟩

def tunnelTLS (p : Policy) (replyFirst dst : Bool) (target originHost first : Bytes) :
    Proc (Session σ) (Option Bool) := do
  let got ← attempt (onClient (Reader.read (recordLen first)))
  let ok ← onTunnel (handleTLS (tlsEnv env getFakeTTL) (recordLen first) p replyFirst originHost target
    got)
  pure (if ok then some (replyFirst || dst) else none)

/-- what a failed `ReadRequest` has taken is gone -/
def takeRequest : Proc (Session σ) (Except String HttpRequest) := do
  let s ← get
  let r := lib.readRequest s.client.rest
  onClient (modify (Reader.skip r.1))
  pure r.2

def tunnelHTTP (replyFirst dst : Bool) (target originHost : Bytes) :
    Proc (Session σ) (Option Bool) := do
  match ← takeRequest lib with
  | .ok req => handleHTTP env lib req replyFirst originHost target dst
  | .error _ => pure (some dst)

/-- `handleTunnel` up to the copy loops; `none` if it returns before -/
def tunnelStart (p : Policy) (replyFirst dst : Bool) (target originHost : Bytes) :
    Proc (Session σ) (Option Bool) :=
  if p.mode = .raw then
    if replyFirst then do
      match ← attempt (onTunnel (dialTimeout target p.connectTimeout)) with
      | .error _ => pure none
      | .ok _ => pure (some true)
    else pure (some dst)
  else do
    match ← attempt (onClient (Reader.peek 10)) with
    | .error _ => pure none
    | .ok first =>
      if isTLS first then tunnelTLS env getFakeTTL p replyFirst dst target originHost first
      else if bytesHasPrefix first httpMethods then
        tunnelHTTP env lib replyFirst dst target originHost
      else pure (some dst)

/-! ## the copy loops -/

/-- `dstConn.(*net.TCPConn)` panics if there is no connection -/
def assertTCP (dst : Bool) : Res Unit := if dst then .ok () else .panic

/-- `io.Copy` from the client: what can still be read goes upstream -/
def relay : Proc (Session σ) Unit := do
  modify fun s => { s with relaying := true }
  let s ← get
  if s.client.rest = [] then pure ()
  else do
    let _ ← attempt (onTunnel (onDst (send (.data s.client.rest))))
    onClient (modify (Reader.skip s.client.rest.length))

def handleTunnel (p : Policy) (replyFirst dst : Bool) (target originHost : Bytes) :
    Proc (Session σ) Unit := do
  match ← tunnelStart env lib getFakeTTL p replyFirst dst target originHost with
  | none => pure ()
  | some dst => do
    lift (assertTCP dst)
    relay

end

end Bill
