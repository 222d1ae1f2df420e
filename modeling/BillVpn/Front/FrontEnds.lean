import BillVpn.Dns.Answer

/-!
# The five entrances

SOCKS5 CONNECT, HTTP CONNECT and the HTTP forward proxy on the desktop; TCP and UDP from the TUN
device on the phone.  Each builds a request, asks `planRequest`, and then contacts the target or
does not; they differ in what they look at in between.

A `World` records what leaves the process (`Contact`) and what the client is told (`Reply`).
The relay behind an established connection is the one event `Contact.tunnel`.
-/

set_option linter.unusedVariables false

namespace Bill
open Go Proc

/-- what goes out of the process -/
inductive Contact where
  | dial (addr : Bytes) (timeout : Int)
  | tunnel (addr : Bytes)
  | roundTrip (addr : Bytes)
  | datagram (b : Bytes) (dst : UDPAddr)
  | dnsQuery (b : Bytes)
  | udpRelay
deriving DecidableEq, Repr

/-- what the client is told -/
inductive Reply where
  | bytes (b : Bytes)
  | socks (rep : UInt8)
  | http (status : Int) (location : Option Bytes)
deriving DecidableEq, Repr

/-- the world of one request: the routing state, the client's bytes, and how the network answers -/
structure World (σ : Type) where
  routing : σ
  input : Bytes := []
  contacts : List Contact := []
  replies : List Reply := []
  dialFails : Bytes → Option String := fun _ => none
  replyFails : Nat → Option String := fun _ => none
  resolveUDPAddr : Bytes → Except String UDPAddr := fun _ => .error "no such host"
  /-- `Unpack` of the DNS library -/
  unpackDNS : Bytes → Except String Msg := fun _ => .error "dns: overflow unpacking uint16"

section
variable {σ : Type}

def onRouting {α : Type} (x : Proc σ α) : Proc (World σ) α :=
  zoom (·.routing) (fun s w => { w with routing := s }) x

def contact (c : Contact) : Proc (World σ) Unit :=
  modify fun w => { w with contacts := w.contacts ++ [c] }

/-- a reply whose error matters -/
def writeReply (r : Reply) : Proc (World σ) Unit := fun w =>
  match w.replyFails w.replies.length with
  | some e => (.err e, w)
  | none => (.ok (), { w with replies := w.replies ++ [r] })

/-- a reply whose error is only logged -/
def reply (r : Reply) : Proc (World σ) Unit := do
  let _ ← attempt (writeReply r)
  pure ()

/-- `net.DialTimeout`: the attempt is a contact, whatever comes of it -/
def dialUpstream (addr : Bytes) (timeout : Int) : Proc (World σ) Unit := fun w =>
  match w.dialFails addr with
  | some e => (.err e, { w with contacts := w.contacts ++ [.dial addr timeout] })
  | none => (.ok (), { w with contacts := w.contacts ++ [.dial addr timeout] })

/-- `readN` -/
def readN (n : Nat) : Proc (World σ) Bytes := fun w =>
  if n ≤ w.input.length then (.ok (w.input.take n), { w with input := w.input.drop n })
  else (.err "unexpected EOF", { w with input := [] })

/-! ## the requests they plan -/

def socksContext (host : Bytes) (port : Nat) : RequestContext :=
  { source := .socks5, host := host, port := port }

def connectContext (host : Bytes) (port : Int) : RequestContext :=
  { source := .http, host := host, port := port }

/-- the forward proxy leaves a name to its transport -/
def forwardContext (host : Bytes) (port : Int) : RequestContext :=
  { source := .http, host := host, port := port, domainTargetMode := .preserve }

def mobileContext (host : Bytes) (port : Int) : RequestContext :=
  { source := .mobile, host := host, port := port }

variable (env : Env σ)

/-! ## SOCKS5 -/

def socks5RepSuccess : UInt8 := 0x00
def socks5RepServerFailure : UInt8 := 0x01
def socks5RepConnNotAllowed : UInt8 := 0x02
def socks5RepCmdNotSupported : UInt8 := 0x07
def socks5RepAtypNotSupported : UInt8 := 0x08
def socks5CmdConnect : UInt8 := 0x01
def socks5CmdUDPAssociate : UInt8 := 0x03

/-- an unknown address type is answered and ends the request -/
def readSocksAddr (atyp : UInt8) : Proc (World σ) Bytes :=
  if atyp = 0x01 then do
    let ip ← readN 4
    pure (ipString ip)
  else if atyp = 0x04 then do
    let ip ← readN 16
    pure (ipString ip)
  else if atyp = 0x03 then do
    let len ← readN 1
    readN (len.getD 0 0).toNat
  else do
    reply (.socks socks5RepAtypNotSupported)
    fail "invalid address type"

inductive SocksRequest where
  | connect (atyp : UInt8) (host : Bytes) (port : Nat)
  | udpAssociate
deriving DecidableEq, Repr

/-- the method selection -/
def negotiate : Proc (World σ) Unit := do
  let header ← readN 2
  if header.getD 0 0 ≠ 0x05 then fail "Expected socks version 5"
  else do
    let methods ← readN (header.getD 1 0).toNat
    let authMethod : UInt8 := if 0x00 ∈ methods then 0x00 else 0xFF
    writeReply (.bytes [0x05, authMethod])
    if authMethod = 0xFF then fail "no auth method not found" else pure ()

/-- the request proper -/
def readSocksRequest : Proc (World σ) SocksRequest := do
  let header ← readN 4
  let cmd := header.getD 1 0
  if header.getD 0 0 ≠ 0x05 then fail "Expected socks version 5"
  else if cmd ≠ socks5CmdConnect ∧ cmd ≠ socks5CmdUDPAssociate then do
    reply (.socks socks5RepCmdNotSupported)
    fail "Expected cmd CONNECT/UDP ASSOCIATE"
  else do
    let host ← readSocksAddr (header.getD 3 0)
    let portBytes ← readN 2
    if cmd = socks5CmdUDPAssociate then pure .udpAssociate
    else pure (.connect (header.getD 3 0) host (u16At portBytes 0))

/-- from the plan to the tunnel -/
def socks5Dial (atyp : UInt8) (plan : DialPlan) : Proc (World σ) Unit :=
  let policy := plan.policy
  if plan.blocked then
    reply (.socks (if atyp = 0x03 ∧ policy.replyFirst = .true then socks5RepSuccess
      else socks5RepConnNotAllowed))
  else if policy.mode = .block then reply (.socks socks5RepConnNotAllowed)
  else do
    let target := plan.targetAddress
    match ← attempt (if policy.replyFirst = .true then pure ()
        else dialUpstream target policy.connectTimeout) with
    | .error _ => reply (.socks socks5RepServerFailure)
    | .ok _ => do
      reply (.socks socks5RepSuccess)
      contact (.tunnel target)

def socks5Connect (atyp : UInt8) (host : Bytes) (port : Nat) : Proc (World σ) Unit := do
  match ← attempt (onRouting (planRequest env (socksContext host port))) with
  | .error _ => reply (.socks socks5RepServerFailure)
  | .ok plan => socks5Dial atyp plan

def socks5Handler : Proc (World σ) Unit := do
  negotiate
  match ← readSocksRequest with
  | .udpAssociate => contact .udpRelay
  | .connect atyp host port => socks5Connect env atyp host port

/-! ## HTTP CONNECT -/

/-- from the plan to the tunnel; `hijack` is what the server's `Hijack` returns -/
def connectDial (hijack : Except String Unit) (plan : DialPlan) : Proc (World σ) Unit :=
  let policy := plan.policy
  if plan.blocked then reply (.http 403 none)
  else if policy.mode = .block then reply (.http 403 none)
  else match hijack with
    | .error _ => reply (.http 500 none)
    | .ok _ => do
      let dest := plan.targetAddress
      match ← attempt (if policy.replyFirst = .true then pure ()
          else dialUpstream dest policy.connectTimeout) with
      | .error _ => reply (.bytes (lit "HTTP/1.1 502 Bad Gateway\r\n\r\n"))
      | .ok _ => do
        writeReply (.bytes (lit "HTTP/1.1 200 Connection Established\r\n\r\n"))
        contact (.tunnel dest)

def handleConnect (hijack : Except String Unit) (reqHost : Bytes) : Proc (World σ) Unit :=
  if reqHost = [] then reply (.http 400 none)
  else match splitHostPort reqHost with
    | none => pure ()
    | some (originHost, dstPort) =>
      match atoi dstPort with
      | none => pure ()
      | some port => do
        match ← attempt (onRouting (planRequest env (connectContext originHost port))) with
        | .error _ => reply (.http 500 none)
        | .ok plan => connectDial hijack plan

/-! ## the forward proxy -/

/-- the parts of an absolute-URI request that the proxy reads -/
structure HttpRequest where
  host : Bytes := []
  urlHost : Bytes := []
  scheme : Bytes := []
  requestURI : Bytes := []
deriving DecidableEq, Repr

/-- the host of the request, and the host and port it names; the scheme gives the default port -/
def forwardTarget (req : HttpRequest) : Option (Bytes × Bytes × Bytes) :=
  let host := if req.host = [] then req.urlHost else req.host
  if host = [] then none
  else match splitHostPort host with
    | some (originHost, port) => some (host, originHost, port)
    | none => some (host, host, if req.scheme = lit "https" then lit "443" else lit "80")

/-- `http_status`, with its `Location` -/
def statusReply (req : HttpRequest) (host : Bytes) (status : Int) : Reply :=
  if status = 301 ∨ status = 302 then
    let scheme := if req.scheme = [] then lit "https" else req.scheme
    .http status (some (scheme ++ lit "://" ++ host ++ req.requestURI))
  else .http status none

/-- `w.WriteHeader(status)`: no three digits are a panic, from which the server recovers without an
answer; an informational status other than 101 is followed by the 200 of a handler that returns -/
def writeHeader (status : Int) (r : Reply) : Proc (World σ) Unit :=
  if status < 100 ∨ 999 < status then lift .panic
  else if status < 200 ∧ status ≠ 101 then do
    reply r
    reply (.http 200 none)
  else reply r

/-- the schemes of the transport; a missing one counts as `http` -/
def httpScheme (scheme : Bytes) : Bool :=
  scheme == [] || scheme == lit "http" || scheme == lit "https"

/-- `transport.RoundTrip`: an unknown scheme or an empty host is refused before any dial -/
def roundTrip (scheme addr : Bytes) : Proc (World σ) Unit :=
  if httpScheme scheme ∧ addr ≠ [] then contact (.roundTrip addr) else reply (.http 502 none)

/-- from the plan to the round trip: the plan's `Blocked` is not looked at -/
def forwardDial (req : HttpRequest) (host : Bytes) (plan : DialPlan) : Proc (World σ) Unit :=
  let p := plan.policy
  if p.httpStatus ≠ 0 ∧ p.httpStatus ≠ -1 then
    writeHeader p.httpStatus (statusReply req host p.httpStatus)
  else if p.mode = .block then reply (.http 403 none)
  else roundTrip req.scheme plan.targetAddress

def forwardHTTPRequest (req : HttpRequest) : Proc (World σ) Unit :=
  match forwardTarget req with
  | none => reply (.http 400 none)
  | some (host, originHost, port) =>
    match atoi port with
    | none => reply (.http 400 none)
    | some portNum => do
      match ← attempt (onRouting (planRequest env (forwardContext originHost portNum))) with
      | .error _ => reply (.http 500 none)
      | .ok plan => forwardDial req host plan

/-! ## the TUN device -/

def vpnDNSIPv4Addr : Bytes := lit "172.19.0.2"

def isVPNDNSAddress (host : Bytes) (port : Int) : Bool := host == vpnDNSIPv4Addr && port == 53

/-- `DefaultDialTimeout` -/
def defaultDialTimeout (p : Policy) : Int :=
  if 0 < p.connectTimeout then p.connectTimeout else 10 * 10 ^ 9

/-- what `DialContext` hands to the tunnel -/
inductive MobileConn where
  | localDNS
  | plain (target : Bytes)
  | policy (target : Bytes) (plan : DialPlan)
deriving DecidableEq, Repr

/-- from the plan to the connection: only the plan's `Blocked` is looked at -/
def mobileDial (originHost : Bytes) (plan : DialPlan) : Proc (World σ) MobileConn :=
  if plan.blocked then fail "blocked by policy"
  else do
    let target := plan.targetAddress
    dialUpstream target (defaultDialTimeout plan.policy)
    if plan.policy.mode = .ttld then pure (.plain target) else pure (.policy target plan)

def dialContext (dstIP : Option Addr) (dstPort : Nat) : Proc (World σ) MobileConn :=
  match dstIP with
  | none => fail "invalid tcp metadata"
  | some ip =>
    let originHost := ip.text
    if isVPNDNSAddress originHost dstPort then pure .localDNS
    else do
      let plan ← onRouting (planRequest env (mobileContext originHost dstPort))
      mobileDial originHost plan

/-- a `net.Addr`: a UDP address, or something else with a text -/
inductive NetAddr where
  | udp (a : UDPAddr)
  | other (text : Bytes)
deriving DecidableEq, Repr

def NetAddr.text : NetAddr → Bytes
  | .udp a => a.text
  | .other t => t

/-- the UDP address behind a `net.Addr` -/
def toUDPAddr : NetAddr → Proc (World σ) UDPAddr
  | .udp a => pure a
  | .other t => do
    let w ← get
    match w.resolveUDPAddr t with
    | .ok a => pure a
    | .error e => fail e

/-- the address of the destination, without the zone -/
def udpDstIP (addr : NetAddr) (udpAddr : UDPAddr) : IP :=
  match parseAddrPort addr.text with
  | some (a, _) => a.asSlice
  | none => udpAddr.ip

/-- from the plan to the datagram: only the plan's `Blocked` is looked at -/
def udpSend (b : Bytes) (plan : DialPlan) : Proc (World σ) Nat :=
  if plan.blocked then fail "blocked by policy"
  else do
    let w ← get
    match w.resolveUDPAddr plan.targetAddress with
    | .error e => fail e
    | .ok dst => do
      contact (.datagram b dst)
      pure b.length

/-- a hijacked query is answered from here, and every message that unpacks needs the upstream DNS
server for that (`handleDNSQueryPacket_asks`) -/
def handleDNSPacket (b : Bytes) : Proc (World σ) Nat := do
  let w ← get
  let _ ← (lift (.ofExcept (w.unpackDNS b))).wrap "unpack hijacked dns request"
  contact (.dnsQuery b)
  pure b.length

def writeTo (b : Bytes) (addr : NetAddr) : Proc (World σ) Nat := do
  let udpAddr ← toUDPAddr addr
  let dstIP := udpDstIP addr udpAddr
  if dstIP = [] then fail "invalid udp destination"
  else if isVPNDNSAddress (ipString dstIP) udpAddr.port then handleDNSPacket b
  else do
    let plan ← onRouting (planRequest env (mobileContext (ipString dstIP) udpAddr.port))
    udpSend b plan

end

end Bill
