import BillVpn.Front.FrontEnds
import BillVpn.Go.Dialogue
import BillVpn.Go.HostPortText
import BillVpn.Go.Window

/-!
# The SOCKS5 handshake, from both ends

The client of `tun2socks` and the server of the proxy on one connection.

* `clientHandshake`, `readAddr`, `serializeAddr`   the client, as in its source;
* `Talk.socks5Handler`     the server up to its reply, with what it decides as a parameter;
* `handshakeEnd`           where both come to rest;
* `talk_alone`             the server on a given input is the server of the front ends;
* `socks_handshake`        **whatever the schedule and the pieces, both agree on the request and on the
                           reply**, and the connection is left empty for the tunnel.
-/

set_option linter.unusedVariables false

namespace Bill
open Go

/-- calls that may fail, on a connection -/
abbrev Talk := ExceptT String Party

def Talk.send (b : Bytes) : Talk Unit := ExceptT.mk (.write b (.done (.ok ())))

/-- `io.ReadFull` -/
def Talk.readFull (n : Nat) : Talk Bytes :=
  ExceptT.mk (.read n fun
    | some b => .done (.ok b)
    | none => .done (.error "unexpected EOF"))

/-! ## the client -/

structure User where
  username : Bytes
  password : Bytes
deriving DecidableEq

def methodNoAuth : UInt8 := 0x00
def methodUserPass : UInt8 := 0x02
def maxAuthLen : Nat := 255

def atypIPv4 : UInt8 := 0x01
def atypDomainName : UInt8 := 0x03
def atypIPv6 : UInt8 := 0x04

def commandString (c : UInt8) : String :=
  if c = 0x01 then "CONNECT"
  else if c = 0x02 then "BIND"
  else if c = 0x03 then "UDP ASSOCIATE"
  else "UNDEFINED"

def replyString (r : UInt8) : String :=
  if r = 0x00 then "succeeded"
  else if r = 0x01 then "general SOCKS server failure"
  else if r = 0x02 then "connection not allowed by ruleset"
  else if r = 0x03 then "network unreachable"
  else if r = 0x04 then "host unreachable"
  else if r = 0x05 then "connection refused"
  else if r = 0x06 then "TTL expired"
  else if r = 0x07 then "command not supported"
  else if r = 0x08 then "address type not supported"
  else "unassigned <0x" ++ (if r < 16 then "0" else "") ++ String.ofList (Nat.toDigits 16 r.toNat) ++ ">"

/-- the rest of an address, by its type -/
def readAddr : Talk Bytes := do
  let atyp ← Talk.readFull 1
  if atyp.getD 0 0 = atypDomainName then do
    let domainLength ← Talk.readFull 1
    let rest ← Talk.readFull ((domainLength.getD 0 0).toNat + 2)
    pure (atyp ++ domainLength ++ rest)
  else if atyp.getD 0 0 = atypIPv4 then do
    let rest ← Talk.readFull 6
    pure (atyp ++ rest)
  else if atyp.getD 0 0 = atypIPv6 then do
    let rest ← Talk.readFull 18
    pure (atyp ++ rest)
  else throw "invalid address type"

/-- the answer to the method that the server chose -/
def authenticate (user : Option User) (method : UInt8) : Talk Unit :=
  if method = methodUserPass then
    match user with
    | none => throw "auth required"
    | some user =>
      let uLen := user.username.length
      let pLen := user.password.length
      if uLen = 0 ∨ pLen = 0 then throw "auth username/password empty"
      else if maxAuthLen < uLen ∨ maxAuthLen < pLen then throw "auth username/password too long"
      else do
        Talk.send ([0x01, UInt8.ofNat uLen] ++ user.username ++ [UInt8.ofNat pLen] ++ user.password)
        let status ← Talk.readFull 2
        if status.getD 1 0 ≠ 0x00 then throw "rejected username/password" else pure ()
  else if method ≠ methodNoAuth then throw "unsupported method"
  else pure ()

/-- the end of `ClientHandshake`: the reply -/
def clientReply (command : UInt8) : Talk Bytes := do
  let reply ← Talk.readFull 3
  if reply.getD 1 0 ≠ 0x00 then
    throw (commandString command ++ ": " ++ replyString (reply.getD 1 0))
  else readAddr

def clientHandshake (addr : Bytes) (command : UInt8) (user : Option User) : Talk Bytes := do
  let method := if user.isSome then methodUserPass else methodNoAuth
  Talk.send [0x05, 0x01, method]
  let chosen ← Talk.readFull 2
  if chosen.getD 0 0 ≠ 0x05 then throw "socks version mismatched"
  else do
    authenticate user (chosen.getD 1 0)
    Talk.send ([0x05, command, 0x00] ++ addr)
    clientReply command

/-- a zero address gives no bytes of its own -/
def serializeAddr (domainName : Bytes) (dstIP : Option Addr) (dstPort : Nat) : Bytes :=
  if domainName ≠ [] then
    [atypDomainName, UInt8.ofNat domainName.length] ++ domainName ++ be16 dstPort
  else
    match dstIP with
    | some (.v4 n) => [atypIPv4] ++ toBytes 4 n.val ++ be16 dstPort
    | some (.v6 n _) => [atypIPv6] ++ toBytes 16 n.val ++ be16 dstPort
    | none => [atypIPv6] ++ be16 dstPort

/-! ## the server -/

/-- the bound address of a reply; without one it is all zeros -/
def boundAddr : Option UDPAddr → Bytes
  | none => [0x01, 0, 0, 0, 0, 0, 0]
  | some a =>
    if to4 a.ip ≠ [] then [0x01] ++ to4 a.ip ++ be16 (a.port % 65536).toNat
    else if to16 a.ip ≠ [] then [0x04] ++ to16 a.ip ++ be16 (a.port % 65536).toNat
    else [0x01, 0, 0, 0, 0, 0, 0]

/-- `sendReplyWithAddr` -/
def replyBytes (rep : UInt8) (addr : Option UDPAddr) : Bytes := [0x05, rep, 0x00] ++ boundAddr addr

namespace Talk

def sendReply (rep : UInt8) : Talk Unit := send (replyBytes rep none)

/-- an unknown address type is answered and ends the request -/
def readSocksAddr (atyp : UInt8) : Talk Bytes :=
  if atyp = 0x01 then do
    let ip ← readFull 4
    pure (ipString ip)
  else if atyp = 0x04 then do
    let ip ← readFull 16
    pure (ipString ip)
  else if atyp = 0x03 then do
    let len ← readFull 1
    readFull (len.getD 0 0).toNat
  else do
    sendReply socks5RepAtypNotSupported
    throw "invalid address type"

def negotiate : Talk Unit := do
  let header ← readFull 2
  if header.getD 0 0 ≠ 0x05 then throw "Expected socks version 5"
  else do
    let methods ← readFull (header.getD 1 0).toNat
    let authMethod : UInt8 := if 0x00 ∈ methods then 0x00 else 0xFF
    send [0x05, authMethod]
    if authMethod = 0xFF then throw "no auth method not found" else pure ()

def readSocksRequest : Talk SocksRequest := do
  let header ← readFull 4
  let cmd := header.getD 1 0
  if header.getD 0 0 ≠ 0x05 then throw "Expected socks version 5"
  else if cmd ≠ socks5CmdConnect ∧ cmd ≠ socks5CmdUDPAssociate then do
    sendReply socks5RepCmdNotSupported
    throw "Expected cmd CONNECT/UDP ASSOCIATE"
  else do
    let host ← readSocksAddr (header.getD 3 0)
    let portBytes ← readFull 2
    if cmd = socks5CmdUDPAssociate then pure .udpAssociate
    else pure (.connect (header.getD 3 0) host (u16At portBytes 0))

/-- what the server decides on a request: the reply, its bound address, and whether the connection
stays open after it -/
structure Answer where
  rep : UInt8
  bound : Option UDPAddr := none
  stays : Bool := rep == socks5RepSuccess

/-- the end of the handshake: the reply -/
def answerRequest (answer : SocksRequest → Answer) (req : SocksRequest) :
    Talk (SocksRequest × Answer) := do
  send (replyBytes (answer req).rep (answer req).bound)
  pure (req, answer req)

def socks5Handler (answer : SocksRequest → Answer) : Talk (SocksRequest × Answer) := do
  negotiate
  let req ← readSocksRequest
  answerRequest answer req

end Talk

/-! ## the server on a given input -/

/-- a reply as bytes -/
def Reply.wire : Reply → Bytes
  | .bytes b => b
  | .socks rep => replyBytes rep none
  | .http _ _ => []

/-- the handler of the front ends and the server on a connection, on the same input -/
def Alike {σ α : Type} (x : Proc (World σ) α) (y : Talk α) : Prop :=
  ∀ w : World σ, (∀ n, w.replyFails n = none) →
    (x w).1 = Res.ofExcept (y.run.alone w.input).2.1 ∧
      (x w).2.input = (y.run.alone w.input).2.2 ∧
      (x w).2.replies.flatMap Reply.wire = w.replies.flatMap Reply.wire ++ (y.run.alone w.input).1 ∧
      (x w).2.replyFails = w.replyFails

section
variable {σ α β : Type}

theorem Alike.pure (a : α) : Alike (Pure.pure a : Proc (World σ) α) (Pure.pure a) :=
  fun w hw => ⟨rfl, rfl, (List.append_nil _).symm, rfl⟩

theorem Alike.fail (e : String) : Alike (Proc.fail e : Proc (World σ) α) (throw e) :=
  fun w hw => ⟨rfl, rfl, (List.append_nil _).symm, rfl⟩

theorem Alike.readN (n : Nat) : Alike (Bill.readN n : Proc (World σ) Bytes) (Talk.readFull n) := by
  intro w hw
  have hrun : (Talk.readFull n).run.alone w.input =
      if n ≤ w.input.length then ([], .ok (w.input.take n), w.input.drop n)
      else ([], .error "unexpected EOF", []) := rfl
  rw [hrun]
  unfold Bill.readN
  split_ifs
  · exact ⟨rfl, rfl, (List.append_nil _).symm, rfl⟩
  · exact ⟨rfl, rfl, (List.append_nil _).symm, rfl⟩

theorem writeReply_run {w : World σ} (hw : ∀ n, w.replyFails n = none) (r : Reply) :
    writeReply r w = (.ok (), { w with replies := w.replies ++ [r] }) := by
  unfold writeReply
  rw [hw]

theorem Alike.writeReply (r : Reply) :
    Alike (Bill.writeReply r : Proc (World σ) Unit) (Talk.send r.wire) := by
  intro w hw
  rw [writeReply_run hw]
  refine ⟨rfl, rfl, ?_, rfl⟩
  show (w.replies ++ [r]).flatMap Reply.wire = w.replies.flatMap Reply.wire ++ (r.wire ++ [])
  rw [List.flatMap_append, List.flatMap_singleton, List.append_nil]

theorem Alike.reply (r : Reply) : Alike (Bill.reply r : Proc (World σ) Unit) (Talk.send r.wire) := by
  intro w hw
  have hrun : Bill.reply r w = Bill.writeReply r w := by
    unfold Bill.reply
    rw [Proc.run_bind_ok (Proc.attempt_ok (writeReply_run hw r)), writeReply_run hw r]
    rfl
  rw [hrun]
  exact Alike.writeReply r w hw

theorem Alike.bind {x : Proc (World σ) α} {y : Talk α} {f : α → Proc (World σ) β} {g : α → Talk β}
    (h : Alike x y) (hf : ∀ a, Alike (f a) (g a)) : Alike (x >>= f) (y >>= g) := by
  intro w hw
  obtain ⟨hval, hin, hrep, hfails⟩ := h w hw
  have hrun : (y >>= g).run.alone w.input =
      ((y.run.alone w.input).1 ++ ((ExceptT.bindCont g (y.run.alone w.input).2.1).alone
        (y.run.alone w.input).2.2).1,
        ((ExceptT.bindCont g (y.run.alone w.input).2.1).alone (y.run.alone w.input).2.2).2) :=
    Party.alone_bind _ y.run w.input
  rw [hrun]
  rcases hx : x w with ⟨r, w'⟩
  rw [hx] at hval hin hrep hfails
  cases hy : (y.run.alone w.input).2.1 with
  | error e =>
    rw [hy] at hval
    have hr : r = .err e := hval
    subst hr
    rw [Proc.run_bind_err hx]
    exact ⟨rfl, hin, by rw [hrep]; exact congrArg _ (List.append_nil _).symm, hfails⟩
  | ok a =>
    rw [hy] at hval
    have hr : r = .ok a := hval
    subst hr
    rw [Proc.run_bind_ok hx]
    obtain ⟨hval', hin', hrep', hfails'⟩ := hf a w' (by rw [show w'.replyFails = _ from hfails]; exact hw)
    rw [show w'.input = _ from hin] at hval' hin' hrep'
    rw [show w'.replies.flatMap Reply.wire = _ from hrep, List.append_assoc] at hrep'
    exact ⟨hval', hin', hrep', hfails'.trans hfails⟩

theorem Alike.ite {c : Prop} [Decidable c] {x x' : Proc (World σ) α} {y y' : Talk α}
    (h : Alike x y) (h' : Alike x' y') : Alike (if c then x else x') (if c then y else y') := by
  split_ifs
  · exact h
  · exact h'

theorem readSocksAddr_alike (atyp : UInt8) :
    Alike (Bill.readSocksAddr atyp : Proc (World σ) Bytes) (Talk.readSocksAddr atyp) := by
  refine Alike.ite (Alike.bind (Alike.readN 4) fun ip => Alike.pure _) ?_
  refine Alike.ite (Alike.bind (Alike.readN 16) fun ip => Alike.pure _) ?_
  refine Alike.ite (Alike.bind (Alike.readN 1) fun len => Alike.readN _) ?_
  exact Alike.bind (Alike.reply (.socks socks5RepAtypNotSupported)) fun _ => Alike.fail _

theorem negotiate_alike : Alike (Bill.negotiate : Proc (World σ) Unit) Talk.negotiate := by
  refine Alike.bind (Alike.readN 2) fun header => Alike.ite (Alike.fail _) ?_
  refine Alike.bind (Alike.readN _) fun methods => ?_
  refine Alike.bind (Alike.writeReply (.bytes [0x05, if 0x00 ∈ methods then 0x00 else 0xFF])) fun _ => ?_
  exact Alike.ite (Alike.fail _) (Alike.pure _)

/-- **On every input, complete or cut off anywhere, the handler of the front ends reads the same
request, leaves the same rest, and has written the same bytes.** -/
theorem talk_alone :
    Alike (Bill.negotiate >>= fun _ => Bill.readSocksRequest : Proc (World σ) SocksRequest)
      (Talk.negotiate >>= fun _ => Talk.readSocksRequest) := by
  refine Alike.bind negotiate_alike fun _ => ?_
  refine Alike.bind (Alike.readN 4) fun header => Alike.ite (Alike.fail _) ?_
  refine Alike.ite ?_ ?_
  · exact Alike.bind (Alike.reply (.socks socks5RepCmdNotSupported)) fun _ => Alike.fail _
  · refine Alike.bind (readSocksAddr_alike _) fun host => Alike.bind (Alike.readN 2) fun portBytes => ?_
    exact Alike.ite (Alike.pure _) (Alike.pure _)

end

/-! ## both -/

/-- `safeConnClose`: the client closes the connection on an error -/
def clientCloses : Except String Bytes → Bool
  | .error _ => true
  | .ok _ => false

def serverCloses : Except String (SocksRequest × Talk.Answer) → Bool
  | .error _ => true
  | .ok (_, a) => !a.stays

def hostOf (domainName : Bytes) (dstIP : Option Addr) : Bytes :=
  if domainName ≠ [] then domainName
  else
    match dstIP with
    | some (.v4 n) => ipString (toBytes 4 n.val)
    | some (.v6 n _) => ipString (toBytes 16 n.val)
    | none => []

def atypFor (domainName : Bytes) (dstIP : Option Addr) : UInt8 :=
  if domainName ≠ [] then atypDomainName
  else
    match dstIP with
    | some (.v4 _) => atypIPv4
    | _ => atypIPv6

/-- an address that has a form on the wire: a name of at most 255 bytes, or an address -/
def Serializable (domainName : Bytes) (dstIP : Option Addr) : Prop :=
  if domainName ≠ [] then domainName.length ≤ 255 else dstIP.isSome

def requestOf (command : UInt8) (domainName : Bytes) (dstIP : Option Addr) (port : Nat) : SocksRequest :=
  if command = socks5CmdUDPAssociate then .udpAssociate
  else .connect (atypFor domainName dstIP) (hostOf domainName dstIP) port

def clientResult (command : UInt8) (a : Talk.Answer) : Except String Bytes :=
  if a.rep = 0x00 then .ok (boundAddr a.bound)
  else .error (commandString command ++ ": " ++ replyString a.rep)

section
variable {answer : SocksRequest → Talk.Answer} {command : UInt8}
  {t : Conf (Except String Bytes) (Except String (SocksRequest × Talk.Answer))}

/-! ## the request -/

/-- both commands of the client are known to the server -/
def IsCommand (command : UInt8) : Prop := command = socks5CmdConnect ∨ command = socks5CmdUDPAssociate

theorem settles_negotiated {addr : Bytes}
    (h : Settles clientCloses serverCloses
      ⟨clientReply command, (Talk.readSocksRequest >>= Talk.answerRequest answer : Talk _),
        [5, command, 0] ++ addr, []⟩ t) :
    Settles clientCloses serverCloses
      ⟨clientHandshake addr command none, Talk.socks5Handler answer, [], []⟩ t := by
  refine Settles.writeL ?_
  refine Settles.readR [5, 1] rfl ?_
  refine Settles.readR [0] rfl ?_
  refine Settles.writeR ?_
  refine Settles.readL [5, 0] rfl ?_
  exact Settles.writeL h

theorem settles_ip {a : UInt8} {ip portBytes : Bytes} (hcmd : IsCommand command)
    (ha : a = atypIPv4 ∧ ip.length = 4 ∨ a = atypIPv6 ∧ ip.length = 16) (hport : portBytes.length = 2)
    (h : Settles clientCloses serverCloses
      ⟨clientReply command, Talk.answerRequest answer (if command = socks5CmdUDPAssociate
        then .udpAssociate else .connect a (ipString ip) (u16At portBytes 0)), [], []⟩ t) :
    Settles clientCloses serverCloses
      ⟨clientHandshake ([a] ++ ip ++ portBytes) command none, Talk.socks5Handler answer, [], []⟩ t := by
  refine settles_negotiated (Settles.readR [5, command, 0, a] rfl ?_)
  rw [← List.append_nil portBytes]
  rcases hcmd with rfl | rfl <;> rcases ha with ⟨rfl, hip⟩ | ⟨rfl, hip⟩
  all_goals exact Settles.readR ip hip (Settles.readR portBytes hport h)

theorem settles_domain {name portBytes : Bytes} (hcmd : IsCommand command) (hname : name.length ≤ 255)
    (hport : portBytes.length = 2)
    (h : Settles clientCloses serverCloses
      ⟨clientReply command, Talk.answerRequest answer (if command = socks5CmdUDPAssociate
        then .udpAssociate else .connect atypDomainName name (u16At portBytes 0)), [], []⟩ t) :
    Settles clientCloses serverCloses
      ⟨clientHandshake ([atypDomainName, UInt8.ofNat name.length] ++ name ++ portBytes) command none,
        Talk.socks5Handler answer, [], []⟩ t := by
  have hlen : name.length = (UInt8.ofNat name.length).toNat := by
    rw [UInt8.toNat_ofNat']
    omega
  refine settles_negotiated (Settles.readR [5, command, 0, atypDomainName] rfl ?_)
  rw [← List.append_nil portBytes]
  rcases hcmd with rfl | rfl
  all_goals
    refine Settles.readR [UInt8.ofNat name.length] rfl ?_
    exact Settles.readR name hlen (Settles.readR portBytes hport h)

theorem settles_request {domainName : Bytes} {dstIP : Option Addr} {port : Nat}
    (hcmd : IsCommand command) (hs : Serializable domainName dstIP) (hport : port < 65536)
    (h : Settles clientCloses serverCloses
      ⟨clientReply command, Talk.answerRequest answer (requestOf command domainName dstIP port), [], []⟩
      t) :
    Settles clientCloses serverCloses
      ⟨clientHandshake (serializeAddr domainName dstIP port) command none,
        Talk.socks5Handler answer, [], []⟩ t := by
  have hp : u16At (be16 port) 0 = port := At.u16At hport (At.whole _)
  unfold requestOf atypFor hostOf at h
  unfold Serializable at hs
  unfold serializeAddr
  rw [← hp] at h
  by_cases hd : domainName ≠ []
  · rw [if_pos hd] at hs ⊢
    rw [if_pos hd, if_pos hd] at h
    exact settles_domain hcmd hs rfl h
  · rw [if_neg hd] at hs ⊢
    rw [if_neg hd, if_neg hd] at h
    rcases dstIP with _ | n | ⟨n, z⟩
    · cases hs
    · exact settles_ip hcmd (.inl ⟨rfl, length_toBytes 4 _⟩) rfl h
    · exact settles_ip hcmd (.inr ⟨rfl, length_toBytes 16 _⟩) rfl h

/-! ## the reply -/

theorem to16_length {ip : IP} (h : to16 ip ≠ []) : (to16 ip).length = 16 := by
  unfold to16 at h ⊢
  split_ifs at h ⊢ with h4 h16
  · rw [List.length_append, h4]
    rfl
  · exact h16
  · exact absurd rfl h

theorem boundAddr_form (b : Option UDPAddr) :
    ∃ rest, boundAddr b = atypIPv4 :: rest ∧ rest.length = 6 ∨
      boundAddr b = atypIPv6 :: rest ∧ rest.length = 18 := by
  cases b with
  | none => exact ⟨_, .inl ⟨rfl, rfl⟩⟩
  | some a =>
    unfold boundAddr
    dsimp only
    split_ifs with h4 h16
    · exact ⟨to4 a.ip ++ be16 (a.port % 65536).toNat, .inl ⟨rfl, by
        rw [List.length_append, to4_length h4, be16_length]⟩⟩
    · exact ⟨to16 a.ip ++ be16 (a.port % 65536).toNat, .inr ⟨rfl, by
        rw [List.length_append, to16_length h16, be16_length]⟩⟩
    · exact ⟨_, .inl ⟨rfl, rfl⟩⟩

theorem settles_reply (req : SocksRequest) :
    Settles clientCloses serverCloses ⟨clientReply command, Talk.answerRequest answer req, [], []⟩
      ⟨.done (clientResult command (answer req)), .done (.ok (req, answer req)), [],
        if (answer req).rep = 0x00 then [] else boundAddr (answer req).bound⟩ := by
  refine Settles.writeR ?_
  refine Settles.readL [5, (answer req).rep, 0] rfl ?_
  unfold clientResult
  by_cases hrep : (answer req).rep = 0x00
  · rw [if_pos hrep, if_pos hrep]
    show Settles _ _ ⟨(if (answer req).rep ≠ 0x00 then _ else readAddr : Talk Bytes), _, _, _⟩ _
    rw [if_neg (not_not_intro hrep)]
    obtain ⟨rest, ⟨hb, hlen⟩ | ⟨hb, hlen⟩⟩ := boundAddr_form (answer req).bound
    · rw [hb, show (atypIPv4 :: rest : Bytes) = [atypIPv4] ++ (rest ++ []) by rw [List.append_nil]; rfl]
      refine Settles.readL [atypIPv4] rfl (Settles.readL rest hlen ?_)
      rw [List.append_nil]
      exact Settles.stop _ _ _ _
    · rw [hb, show (atypIPv6 :: rest : Bytes) = [atypIPv6] ++ (rest ++ []) by rw [List.append_nil]; rfl]
      refine Settles.readL [atypIPv6] rfl (Settles.readL rest hlen ?_)
      rw [List.append_nil]
      exact Settles.stop _ _ _ _
  · rw [if_neg hrep, if_neg hrep]
    show Settles _ _ ⟨(if (answer req).rep ≠ 0x00 then _ else readAddr : Talk Bytes), _, _, _⟩ _
    rw [if_pos hrep]
    exact Settles.stop _ _ _ _

theorem settles_user {addr : Bytes} (user : User) :
    Settles clientCloses serverCloses
      ⟨clientHandshake addr command (some user), Talk.socks5Handler answer, [], []⟩
      ⟨.done (.error "unsupported method"), .done (.error "no auth method not found"), [], []⟩ := by
  refine Settles.writeL ?_
  refine Settles.readR [5, 1] rfl ?_
  refine Settles.readR [2] rfl ?_
  refine Settles.writeR ?_
  refine Settles.readL [5, 0xFF] rfl ?_
  exact Settles.stop _ _ _ _

end

/-! ## every schedule -/

/-- where both come to rest -/
def handshakeEnd (user : Option User) (command : UInt8) (req : SocksRequest) (a : Talk.Answer) :
    Conf (Except String Bytes) (Except String (SocksRequest × Talk.Answer)) :=
  match user with
  | some _ => ⟨.done (.error "unsupported method"), .done (.error "no auth method not found"), [], []⟩
  | none =>
    ⟨.done (clientResult command a), .done (.ok (req, a)), [],
      if a.rep = 0x00 then [] else boundAddr a.bound⟩

/-- a client and a server, before the first byte -/
def handshake (addr : Bytes) (command : UInt8) (user : Option User) (answer : SocksRequest → Talk.Answer) :
    Link (Except String Bytes) (Except String (SocksRequest × Talk.Answer)) :=
  { left := clientHandshake addr command user, right := Talk.socks5Handler answer }

/-- **Whatever the order of the steps and the pieces in which the bytes arrive, client and server agree**:
the server has read the request that the client made and the client has read the reply that the server
gave, nothing is left on the connection after a success, and from every point the handshake can be
completed. -/
theorem socks_handshake (command : UInt8) (hcmd : IsCommand command) (domainName : Bytes)
    (dstIP : Option Addr) (hs : Serializable domainName dstIP) (port : Nat) (hport : port < 65536)
    (user : Option User) (answer : SocksRequest → Talk.Answer) (es : List LinkEvent)
    {req : SocksRequest} (hreq : requestOf command domainName dstIP port = req)
    {k : Link (Except String Bytes) (Except String (SocksRequest × Talk.Answer))}
    (hk : runAll (Link.step clientCloses serverCloses) es
      (handshake (serializeAddr domainName dstIP port) command user answer) = k) :
    (∃ fs, (runAll (Link.step clientCloses serverCloses) fs k).conf =
        handshakeEnd user command req (answer req)) ∧
      (∀ r, k.left = .done r → (handshakeEnd user command req (answer req)).left = .done r) ∧
      (∀ r, k.right = .done r → (handshakeEnd user command req (answer req)).right = .done r) := by
  have hend : Settles clientCloses serverCloses
      (handshake (serializeAddr domainName dstIP port) command user answer).conf
      (handshakeEnd user command req (answer req)) := by
    cases user with
    | some user => exact settles_user user
    | none =>
      refine settles_request hcmd hs hport ?_
      rw [hreq]
      exact settles_reply req
  obtain ⟨⟨fs, hfs⟩, hl, hr⟩ := Link.confluent hend es
  rw [hk] at hl hr
  rw [runAll_append, hk] at hfs
  exact ⟨⟨fs, hfs⟩, hl, hr⟩

/-- a request for an address, delivered byte by byte at first -/
theorem socks_handshake_cut :
    ∃ fs, (runAll (Link.step clientCloses serverCloses) fs
      (runAll (Link.step clientCloses serverCloses) [.left, .carryRight 1, .right, .carryRight 1, .right]
        (handshake (serializeAddr [] (some (.v4 1)) 443) socks5CmdConnect none fun _ => ⟨0, none, true⟩))).conf =
      ⟨.done (.ok [1, 0, 0, 0, 0, 0, 0]),
        .done (.ok (.connect 1 (lit "0.0.0.1") 443, ⟨0, none, true⟩)), [], []⟩ := by
  have hreq : requestOf socks5CmdConnect [] (some (.v4 1)) 443 = .connect 1 (lit "0.0.0.1") 443 := by
    decide +kernel
  exact (socks_handshake socks5CmdConnect (.inl rfl) [] (some (.v4 1)) rfl 443 (by decide) none
    (fun _ => ⟨0, none, true⟩) [.left, .carryRight 1, .right, .carryRight 1, .right] hreq rfl).1

end Bill
