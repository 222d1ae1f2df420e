import BillVpn.Front.SocksHandshake
import BillVpn.Front.SocksUdp

/-!
# A UDP association

The server listens on a port of its own.  Whoever sends first is its client; packets of the client go
to the address in their header, packets of anybody else go to the client with a header in front.  The
socket is bound to `127.0.0.1`, so it cannot send everywhere; a packet that it does not take is dropped.

* `associateTurn`, `associateLoop`            the loop of `handleUDPAssociate`;
* `encodeUDPPacket`, `decodeUDPPacket`, `socksReadFrom`   the client of `tun2socks`; it decodes the
                                              whole buffer, not only the packet in it;
* `associate_relays`                          **the client never changes, and each packet is relayed by
                                              its sender alone**, in order;
* `associate_transparent`                     **the app and the remote hosts get each other's payloads**,
                                              with the addresses.
-/

set_option linter.unusedVariables false

namespace Bill
open Go Proc

/-! ## the server -/

/-- a packet that `ReadFrom` returns, and the addresses (by their texts) that `WriteTo` can send to then -/
structure Arrival where
  addr : UDPAddr
  data : Bytes
  takes : Bytes → Bool

/-- an error of `WriteTo` is only logged -/
def Arrival.sends {α : Type} (d : Arrival) (target : Bytes) (packet : α) : List α :=
  if d.takes target then [packet] else []

section
variable (resolveUDPAddr : Bytes → Except String UDPAddr)

/-- a packet of the client; its sender is the client from now on -/
def associateForward (d : Arrival) : Res (List (UDPAddr × Bytes)) × Option UDPAddr :=
  match decodeSocksUDPPacket resolveUDPAddr d.data with
  | .ok (target, payload) => (.ok (d.sends target.text (target, payload)), some d.addr)
  | .err _ => (.ok [], some d.addr)
  | .panic => (.panic, some d.addr)

/-- a packet of anybody else -/
def associateReturn (client : UDPAddr) (d : Arrival) :
    Res (List (UDPAddr × Bytes)) × Option UDPAddr :=
  match encodeSocksUDPAddr d.addr.text with
  | .ok addrBytes =>
    (.ok (d.sends client.text (client, [0, 0, 0] ++ addrBytes ++ d.data)), some client)
  | .err _ => (.ok [], some client)
  | .panic => (.panic, some client)

/-- what is sent for one packet -/
def associateTurn (d : Arrival) : Proc (Option UDPAddr) (List (UDPAddr × Bytes))
  | none => associateForward resolveUDPAddr d
  | some client =>
    if d.addr.text = client.text then associateForward resolveUDPAddr d
    else associateReturn client d

def associateLoop : List Arrival → Proc (Option UDPAddr) (List (UDPAddr × Bytes))
  | [] => pure []
  | d :: rest => do
    let sent ← associateTurn resolveUDPAddr d
    let later ← associateLoop rest
    pure (sent ++ later)

end

/-! ## the client -/

def cutAddr (addrLen : Nat) (b : Bytes) : Bytes := if b.length < addrLen then [] else b.take addrLen

/-- `nil` is the empty address -/
def splitAddr (b : Bytes) : Bytes :=
  if b.length < 1 then []
  else if b.getD 0 0 = atypDomainName then
    if b.length < 2 then [] else cutAddr (1 + 1 + (b.getD 1 0).toNat + 2) b
  else if b.getD 0 0 = atypIPv4 then cutAddr 7 b
  else if b.getD 0 0 = atypIPv6 then cutAddr 19 b
  else []

def decodeUDPPacket (packet : Bytes) : Res (Bytes × Bytes) :=
  if packet.length < 5 then .err "insufficient length of packet"
  else if packet.take 2 ≠ [0, 0] then .err "reserved fields should be zero"
  else if packet.getD 2 0 ≠ 0 then .err "discarding fragmented payload"
  else
    let addr := splitAddr (packet.drop 3)
    if addr = [] then .err "socks5 UDP addr is nil" else .ok (addr, packet.drop (3 + addr.length))

def encodeUDPPacket (addr payload : Bytes) : Res Bytes :=
  if addr = [] then .err "address is invalid" else .ok ([0, 0, 0] ++ addr ++ payload)

def validAddr (a : Bytes) : Bool :=
  if a.length < 4 then false
  else if a.getD 0 0 = atypDomainName then !decide (a.length < 1 + 1 + (a.getD 1 0).toNat + 2)
  else if a.getD 0 0 = atypIPv4 then !decide (a.length < 7)
  else if a.getD 0 0 = atypIPv6 then !decide (a.length < 19)
  else true

/-- `Addr.UDPAddr`: no name, and nothing for an unknown type -/
def addrUDPAddr (a : Bytes) : Option UDPAddr :=
  if validAddr a = false then none
  else if a.getD 0 0 = atypDomainName then none
  else if a.getD 0 0 = atypIPv4 then some ⟨(a.take 5).drop 1, u16At a 5, []⟩
  else if a.getD 0 0 = atypIPv6 then some ⟨(a.take 17).drop 1, u16At a 17, []⟩
  else some ⟨[], 0, []⟩

/-- `ParseAddr` of a UDP address, through its `AddrPort` -/
def parseAddrOf (a : UDPAddr) : Bytes := serializeAddr [] (addrFromSlice a.ip) (a.port % 65536).toNat

/-- `WriteTo` of the client: the packet for the server -/
def socksWriteTo (b : Bytes) (addr : UDPAddr) : Res Bytes := encodeUDPPacket (parseAddrOf addr) b

/-- the end of `ReadFrom`: the payload moves to the front of the buffer -/
def socksReadResult (n : Nat) (buf : Bytes) (r : Bytes × Bytes) : Res (Int × UDPAddr × Bytes) :=
  match addrUDPAddr r.1 with
  | none => .err "convert addr to UDPAddr is nil"
  | some udpAddr => .ok ((n : Int) - r.1.length - 3, udpAddr, r.2 ++ buf.drop r.2.length)

/-- `ReadFrom` of the client into the buffer `b`: the count, the sender, and the buffer after it -/
def socksReadFrom (b datagram : Bytes) : Res (Int × UDPAddr × Bytes) := do
  let n := min datagram.length b.length
  let buf := datagram.take n ++ b.drop n
  let r ← decodeUDPPacket buf
  socksReadResult n buf r

/-! ## the loop -/

section
variable {resolveUDPAddr : Bytes → Except String UDPAddr}

/-- where a packet goes, and what of it: only its sender and the socket decide -/
def relayed (resolveUDPAddr : Bytes → Except String UDPAddr) (client : Bytes) (d : Arrival) :
    List (Bytes × Bytes) :=
  if d.addr.text = client then
    match decodeSocksUDPPacket resolveUDPAddr d.data with
    | .ok (target, payload) => d.sends target.text (target.text, payload)
    | _ => []
  else
    match encodeSocksUDPAddr d.addr.text with
    | .ok addrBytes => d.sends client (client, [0, 0, 0] ++ addrBytes ++ d.data)
    | _ => []

/-- a packet as it is sent, with its destination as text -/
def onWire (o : UDPAddr × Bytes) : Bytes × Bytes := (o.1.text, o.2)

theorem encode_ne_panic (addr : Bytes) : encodeSocksUDPAddr addr ≠ .panic := by
  have hhost : ∀ host, encodeSocksHost host ≠ .panic := by
    intro host
    unfold encodeSocksHost
    dsimp only
    split_ifs
    · exact fun h => (nomatch h)
    · exact fun h => (nomatch h)
    · exact fun h => (nomatch h)
    · exact fun h => (nomatch h)
  unfold encodeSocksUDPAddr
  split
  · exact fun h => (nomatch h)
  · split
    · exact fun h => (nomatch h)
    · intro h
      rcases Res.bind_eq_panic.mp h with h | ⟨buf, -, h⟩
      · exact hhost _ h
      · cases h

theorem sends_map {α β : Type} (d : Arrival) (target : Bytes) (packet : α) (f : α → β) :
    (d.sends target packet).map f = d.sends target (f packet) := by
  unfold Arrival.sends
  split_ifs
  · rfl
  · rfl

theorem forward_run (hres : ResolvesLiterals resolveUDPAddr) (d : Arrival) :
    ∃ out, associateForward resolveUDPAddr d = (.ok out, some d.addr) ∧
      out.map onWire = relayed resolveUDPAddr d.addr.text d := by
  unfold associateForward relayed
  rw [if_pos rfl]
  have hp := (decode_total hres d.data).1
  cases hd : decodeSocksUDPPacket resolveUDPAddr d.data with
  | ok r => exact ⟨_, rfl, sends_map d _ _ _⟩
  | err e => exact ⟨_, rfl, rfl⟩
  | panic => exact absurd hd hp

theorem return_run {client : UDPAddr} {d : Arrival} (h : d.addr.text ≠ client.text) :
    ∃ out, associateReturn client d = (.ok out, some client) ∧
      out.map onWire = relayed resolveUDPAddr client.text d := by
  unfold associateReturn relayed
  rw [if_neg h]
  cases hd : encodeSocksUDPAddr d.addr.text with
  | ok r => exact ⟨_, rfl, sends_map d _ _ _⟩
  | err e => exact ⟨_, rfl, rfl⟩
  | panic => exact absurd hd (encode_ne_panic _)

theorem turn_run (hres : ResolvesLiterals resolveUDPAddr) (client : UDPAddr) (d : Arrival) :
    ∃ out client', associateTurn resolveUDPAddr d (some client) = (.ok out, some client') ∧
      client'.text = client.text ∧ out.map onWire = relayed resolveUDPAddr client.text d := by
  unfold associateTurn
  dsimp only
  split_ifs with h
  · obtain ⟨out, hrun, hout⟩ := forward_run hres d
    exact ⟨out, d.addr, hrun, h, by rw [hout, h]⟩
  · obtain ⟨out, hrun, hout⟩ := return_run h
    exact ⟨out, client, hrun, rfl, hout⟩

theorem loop_cons {d : Arrival} {ds : List Arrival} {out later : List (UDPAddr × Bytes)}
    {s s1 s2 : Option UDPAddr} (h : associateTurn resolveUDPAddr d s = (.ok out, s1))
    (h' : associateLoop resolveUDPAddr ds s1 = (.ok later, s2)) :
    associateLoop resolveUDPAddr (d :: ds) s = (.ok (out ++ later), s2) := by
  show (associateTurn resolveUDPAddr d >>= _) s = _
  rw [run_bind_ok h]
  show (associateLoop resolveUDPAddr ds >>= _) s1 = _
  rw [run_bind_ok h']
  rfl

theorem loop_run (hres : ResolvesLiterals resolveUDPAddr) (ds : List Arrival) :
    ∀ client : UDPAddr, ∃ out client',
      associateLoop resolveUDPAddr ds (some client) = (.ok out, some client') ∧
      client'.text = client.text ∧
      out.map onWire = ds.flatMap (relayed resolveUDPAddr client.text) := by
  induction ds with
  | nil => exact fun client => ⟨[], client, rfl, rfl, rfl⟩
  | cons d ds ih =>
    intro client
    obtain ⟨out, c1, h1, ht1, ho1⟩ := turn_run hres client d
    obtain ⟨later, c2, h2, ht2, ho2⟩ := ih c1
    refine ⟨out ++ later, c2, loop_cons h1 h2, ht2.trans ht1, ?_⟩
    rw [List.map_append, ho1, ho2, ht1, List.flatMap_cons]

theorem relayed_taken {client : Bytes} {d : Arrival} {o : Bytes × Bytes}
    (h : o ∈ relayed resolveUDPAddr client d) : d.takes o.1 = true := by
  have hsends : ∀ {target : Bytes} {payload : Bytes}, o ∈ d.sends target (target, payload) →
      d.takes o.1 = true := by
    intro target payload h
    unfold Arrival.sends at h
    split_ifs at h with ht
    · rw [List.mem_singleton.mp h]
      exact ht
    · cases h
  unfold relayed at h
  split at h
  · split at h
    · exact hsends h
    · cases h
  · split at h
    · exact hsends h
    · cases h

end

/-- **The first sender is the client for good, and each packet is relayed by its sender alone**: the
client's to the address in its header, everybody else's to the client, in order, as far as the socket
takes them, and nothing panics; nothing goes to an address that the socket never takes. -/
theorem associate_relays (resolveUDPAddr : Bytes → Except String UDPAddr)
    (hres : ResolvesLiterals resolveUDPAddr) (first : Arrival) (ds : List Arrival) :
    ∃ out client, associateLoop resolveUDPAddr (first :: ds) none = (.ok out, some client) ∧
      client.text = first.addr.text ∧
      out.map onWire = (first :: ds).flatMap (relayed resolveUDPAddr first.addr.text) ∧
      ∀ near : Bytes → Prop, (∀ d ∈ first :: ds, ∀ a, d.takes a = true → near a) →
        ∀ o ∈ out, near o.1.text := by
  obtain ⟨out, h1, ho1⟩ := forward_run hres first
  obtain ⟨later, client, h2, ht2, ho2⟩ := loop_run hres ds first.addr
  have hout : (out ++ later).map onWire =
      (first :: ds).flatMap (relayed resolveUDPAddr first.addr.text) := by
    rw [List.map_append, ho1, ho2, List.flatMap_cons]
  refine ⟨out ++ later, client, loop_cons h1 h2, ht2, hout, fun near hnear o ho => ?_⟩
  have hmem := List.mem_map_of_mem (f := onWire) ho
  rw [hout] at hmem
  obtain ⟨d, hd, hrel⟩ := List.mem_flatMap.mp hmem
  exact hnear d hd o.1.text (relayed_taken hrel)

/-- a socket that is bound to `127.0.0.1`, for the two addresses of the examples -/
def loopbackOnly (target : Bytes) : Bool :=
  target == lit "127.0.0.1:5000" || target == lit "127.0.0.1:53"

/-- a garbled packet makes its sender the client; the next sender's goes there; what the client sends to
another host is dropped -/
theorem associate_relays_two :
    ∃ out client, associateLoop resolveLiteral
        [⟨⟨[127, 0, 0, 1], 5000, []⟩, [7], loopbackOnly⟩, ⟨⟨[127, 0, 0, 1], 53, []⟩, [42], loopbackOnly⟩,
          ⟨⟨[127, 0, 0, 1], 5000, []⟩, [0, 0, 0, 1, 192, 0, 2, 7, 0, 53, 1], loopbackOnly⟩] none =
          (.ok out, some client) ∧
      client.text = UDPAddr.text ⟨[127, 0, 0, 1], 5000, []⟩ ∧
      out.map onWire = [(lit "127.0.0.1:5000", [0, 0, 0, 1, 127, 0, 0, 1, 0, 53, 42])] := by
  obtain ⟨out, client, hrun, ht, hout, -⟩ := associate_relays resolveLiteral resolveLiteral_literals
    ⟨⟨[127, 0, 0, 1], 5000, []⟩, [7], loopbackOnly⟩ [⟨⟨[127, 0, 0, 1], 53, []⟩, [42], loopbackOnly⟩,
      ⟨⟨[127, 0, 0, 1], 5000, []⟩, [0, 0, 0, 1, 192, 0, 2, 7, 0, 53, 1], loopbackOnly⟩]
  exact ⟨out, client, hrun, ht, hout.trans (by decide +kernel)⟩

/-! ## from end to end -/

/-- an address without a zone and its port -/
structure Endpoint where
  ip : IP
  port : Nat
  isAddr : ip.length = 4 ∨ ip.length = 16
  isPort : port < 65536

def Endpoint.udp (e : Endpoint) : UDPAddr := ⟨e.ip, e.port, []⟩

theorem text_congr {ip ip' : IP} (h : ip.length = 4 ∨ ip.length = 16)
    (h' : ip'.length = 4 ∨ ip'.length = 16) (hs : ipString ip = ipString ip') (port : Int) :
    UDPAddr.text ⟨ip, port, []⟩ = UDPAddr.text ⟨ip', port, []⟩ := by
  unfold UDPAddr.text
  dsimp only
  rw [if_neg (ip_ne_nil h), if_neg (ip_ne_nil h'), hs]

theorem ipString_to16 {ip : IP} (h : ip.length = 4 ∨ ip.length = 16) : ipString (to16 ip) = ipString ip := by
  rcases h with h | h
  · have hlen : ([0, 0, 0, 0, 0, 0, 0, 0, 0, 0, 0xff, 0xff] ++ ip).length = 16 := by
      rw [List.length_append, h]
      rfl
    have h4 : to4 (to16 ip) = ip := by
      rw [to16, if_pos h, to4, if_neg (by omega), if_pos ⟨hlen, rfl⟩]
      rfl
    have hne : to4 (to16 ip) ≠ [] := by
      rw [h4]
      exact ip_ne_nil (.inl h)
    rw [ipString_to4 hne, h4]
  · rw [to16_of_length h]

theorem to16_text (e : Endpoint) : UDPAddr.text ⟨to16 e.ip, e.port, []⟩ = e.udp.text :=
  text_congr (.inr (to16_length (to16_ne_nil e.isAddr))) e.isAddr (ipString_to16 e.isAddr) _

theorem parseAddrOf_endpoint (e : Endpoint) :
    ∃ atyp : UInt8, (atyp = 1 ∧ e.ip.length = 4 ∨ atyp = 4 ∧ e.ip.length = 16) ∧
      parseAddrOf e.udp = atyp :: e.ip ++ be16 e.port := by
  have hport : ((e.port : Int) % 65536).toNat = e.port := by
    have := e.isPort
    omega
  have hlt := ofBytes_lt e.ip
  have hbytes := toBytes_ofBytes e.ip
  unfold parseAddrOf Endpoint.udp
  dsimp only
  rw [hport]
  rcases e.isAddr with h | h
  · rw [h] at hlt hbytes
    refine ⟨1, .inl ⟨rfl, h⟩, ?_⟩
    rw [addrFromSlice_v4 h (by omega)]
    show [atypIPv4] ++ toBytes 4 (ofBytes e.ip) ++ be16 e.port = _
    rw [hbytes]
    rfl
  · rw [h] at hlt hbytes
    refine ⟨4, .inr ⟨rfl, h⟩, ?_⟩
    rw [addrFromSlice_v6 h (by omega)]
    show [atypIPv6] ++ toBytes 16 (ofBytes e.ip) ++ be16 e.port = _
    rw [hbytes]
    rfl

theorem splitAddr_wire {atyp : UInt8} {x rest : Bytes}
    (hx : atyp = atypIPv4 ∧ x.length = 6 ∨ atyp = atypIPv6 ∧ x.length = 18) :
    splitAddr (atyp :: x ++ rest) = atyp :: x := by
  have hlen : (atyp :: x ++ rest).length = 1 + x.length + rest.length := by
    rw [List.length_append, List.length_cons]
    omega
  have hhead : (atyp :: x ++ rest).getD 0 0 = atyp := rfl
  have hcut : cutAddr (x.length + 1) (atyp :: x ++ rest) = atyp :: x := by
    unfold cutAddr
    rw [if_neg (by omega)]
    exact List.take_left' rfl
  unfold splitAddr
  rw [if_neg (by omega), hhead]
  rcases hx with ⟨rfl, hx⟩ | ⟨rfl, hx⟩
  · rw [if_neg (by decide), if_pos rfl, show 7 = x.length + 1 by omega]
    exact hcut
  · rw [if_neg (by decide), if_neg (by decide), if_pos rfl, show 19 = x.length + 1 by omega]
    exact hcut

theorem decodeUDPPacket_wire {atyp : UInt8} {x rest : Bytes}
    (hx : atyp = atypIPv4 ∧ x.length = 6 ∨ atyp = atypIPv6 ∧ x.length = 18) :
    decodeUDPPacket ([0, 0, 0] ++ (atyp :: x) ++ rest) = .ok (atyp :: x, rest) := by
  have hlen : ([0, 0, 0] ++ (atyp :: x) ++ rest).length = 4 + x.length + rest.length := by
    simp only [List.length_append, List.length_cons, List.length_nil]
    omega
  have hdrop : ([0, 0, 0] ++ (atyp :: x) ++ rest).drop 3 = atyp :: x ++ rest := rfl
  have htake : ([0, 0, 0] ++ (atyp :: x) ++ rest).take 2 = [0, 0] := rfl
  have hfrag : ([0, 0, 0] ++ (atyp :: x) ++ rest).getD 2 0 = 0 := rfl
  unfold decodeUDPPacket
  rw [if_neg (by omega), if_neg (not_not_intro htake), if_neg (not_not_intro hfrag), hdrop,
    splitAddr_wire hx]
  dsimp only
  rw [if_neg (List.cons_ne_nil _ _)]
  congr 2
  exact List.drop_left' (by simp; omega)

theorem addrUDPAddr_wire {atyp : UInt8} {ip : IP} {port : Nat} (hport : port < 65536)
    (hx : atyp = atypIPv4 ∧ ip.length = 4 ∨ atyp = atypIPv6 ∧ ip.length = 16) :
    addrUDPAddr (atyp :: (ip ++ be16 port)) = some ⟨ip, port, []⟩ := by
  have hlen : (atyp :: (ip ++ be16 port)).length = ip.length + 3 := by
    rw [List.length_cons, List.length_append, be16_length]
  have hhead : (atyp :: (ip ++ be16 port)).getD 0 0 = atyp := rfl
  have hip : ((atyp :: (ip ++ be16 port)).take (ip.length + 1)).drop 1 = ip := by
    show ((ip ++ be16 port).take ip.length) = ip
    exact List.take_left
  have hp : u16At (atyp :: (ip ++ be16 port)) (ip.length + 1) = port :=
    At.u16At hport ⟨atyp :: ip, [], by simp, rfl⟩
  have hvalid : validAddr (atyp :: (ip ++ be16 port)) = true := by
    unfold validAddr
    rw [hlen, hhead]
    rcases hx with ⟨rfl, h⟩ | ⟨rfl, h⟩
    · rw [h]
      rfl
    · rw [h]
      rfl
  unfold addrUDPAddr
  rw [hvalid, hhead, if_neg (by decide)]
  rcases hx with ⟨rfl, h⟩ | ⟨rfl, h⟩
  · rw [h] at hip hp
    rw [if_neg (by decide), if_pos rfl, hip, hp]
  · rw [h] at hip hp
    rw [if_neg (by decide), if_neg (by decide), if_pos rfl, hip, hp]

theorem socksReadFrom_wire {atyp : UInt8} {ip : IP} {port : Nat} (hport : port < 65536)
    (hx : atyp = atypIPv4 ∧ ip.length = 4 ∨ atyp = atypIPv6 ∧ ip.length = 16) {payload b : Bytes}
    (hb : ([0, 0, 0] ++ (atyp :: (ip ++ be16 port)) ++ payload).length ≤ b.length) :
    ∃ buf, socksReadFrom b ([0, 0, 0] ++ (atyp :: (ip ++ be16 port)) ++ payload) =
        .ok (payload.length, ⟨ip, port, []⟩, buf) ∧ buf.take payload.length = payload := by
  generalize hp : [0, 0, 0] ++ (atyp :: (ip ++ be16 port)) ++ payload = packet at hb ⊢
  have hlen : packet.length = 6 + ip.length + payload.length := by
    rw [← hp]
    simp only [List.length_append, List.length_cons, List.length_nil, be16_length]
    omega
  have hmin : min packet.length b.length = packet.length := Nat.min_eq_left hb
  have hdec : decodeUDPPacket (packet ++ b.drop packet.length) =
      .ok (atyp :: (ip ++ be16 port), payload ++ b.drop packet.length) := by
    rw [← hp, List.append_assoc]
    refine decodeUDPPacket_wire (hx.imp (fun h => ⟨h.1, ?_⟩) fun h => ⟨h.1, ?_⟩)
    · rw [List.length_append, h.2, be16_length]
    · rw [List.length_append, h.2, be16_length]
  refine ⟨payload ++ b.drop packet.length ++
    (packet ++ b.drop packet.length).drop (payload ++ b.drop packet.length).length, ?_, ?_⟩
  · unfold socksReadFrom
    dsimp only
    rw [hmin, List.take_length, hdec]
    show socksReadResult packet.length (packet ++ b.drop packet.length)
      (atyp :: (ip ++ be16 port), payload ++ b.drop packet.length) = _
    unfold socksReadResult
    rw [addrUDPAddr_wire hport hx]
    have hcount : (packet.length : Int) - (atyp :: (ip ++ be16 port)).length - 3 = payload.length := by
      rw [List.length_cons, List.length_append, be16_length]
      omega
    dsimp only
    rw [hcount]
  · rw [List.append_assoc]
    exact List.take_left

/-- what the app sends and what the remote hosts send -/
inductive Traffic where
  | out (dst : Endpoint) (payload : Bytes)
  | back (src : Endpoint) (payload : Bytes)

/-- as a packet at the server, whose socket takes what is to be sent for it -/
inductive Arrives (client : Endpoint) : Traffic → Arrival → Prop where
  | out {dst payload packet takes} (h : socksWriteTo payload dst.udp = .ok packet)
      (ht : takes dst.udp.text = true) : Arrives client (.out dst payload) ⟨client.udp, packet, takes⟩
  | back {src payload takes} (h : src.udp.text ≠ client.udp.text)
      (ht : takes client.udp.text = true) : Arrives client (.back src payload) ⟨src.udp, payload, takes⟩

/-- The packet that leaves the server for it: the payload, to the destination; or a packet to the
client, from which it reads the payload and the address of the remote host. -/
def Relays (client : Endpoint) : Traffic → Bytes × Bytes → Prop
  | .out dst payload, sent => sent = (dst.udp.text, payload)
  | .back src payload, sent => sent.1 = client.udp.text ∧
      ∀ b : Bytes, sent.2.length ≤ b.length → ∃ sender buf,
        socksReadFrom b sent.2 = .ok (payload.length, sender, buf) ∧ sender.text = src.udp.text ∧
          buf.take payload.length = payload

section
variable {resolveUDPAddr : Bytes → Except String UDPAddr} {client : Endpoint}

theorem wireIP_form (e : Endpoint) : ∃ atyp : UInt8, wireAddr e.ip = atyp :: wireIP e.ip ∧
    (atyp = atypIPv4 ∧ (wireIP e.ip).length = 4 ∨ atyp = atypIPv6 ∧ (wireIP e.ip).length = 16) ∧
      ipString (wireIP e.ip) = ipString e.ip := by
  unfold wireAddr wireIP
  by_cases h4 : to4 e.ip ≠ []
  · rw [if_pos h4, if_pos h4]
    exact ⟨atypIPv4, rfl, .inl ⟨rfl, to4_length h4⟩, (ipString_to4 h4).symm⟩
  · rw [if_neg h4, if_neg h4]
    exact ⟨atypIPv6, rfl, .inr ⟨rfl, length_of_to4_nil e.isAddr (not_not.mp h4)⟩, rfl⟩

theorem arrives_relays (hres : ResolvesLiterals resolveUDPAddr) {t : Traffic} {d : Arrival}
    (h : Arrives client t d) :
    ∃ sent, relayed resolveUDPAddr client.udp.text d = [sent] ∧ Relays client t sent := by
  cases h with
  | @out dst payload packet takes h ht =>
    obtain ⟨atyp, hx, hhead⟩ := parseAddrOf_endpoint dst
    unfold socksWriteTo encodeUDPPacket at h
    rw [hhead, if_neg (show atyp :: dst.ip ++ be16 dst.port ≠ [] from List.cons_ne_nil _ _)] at h
    cases h
    refine ⟨_, ?_, rfl⟩
    unfold relayed
    rw [if_pos rfl]
    dsimp only
    rw [decode_wire hres hx dst.isPort]
    dsimp only
    rw [to16_text]
    exact if_pos ht
  | @back src payload takes h ht =>
    obtain ⟨atyp, hwire, hx, hs⟩ := wireIP_form src
    refine ⟨(client.udp.text, [0, 0, 0] ++ (wireAddr src.ip ++ be16 src.port) ++ payload), ?_, rfl, ?_⟩
    · unfold relayed
      rw [if_neg h]
      dsimp only
      rw [show encodeSocksUDPAddr src.udp.text = _ from encode_text src.isAddr src.isPort]
      exact if_pos ht
    · intro b hb
      rw [hwire] at hb ⊢
      obtain ⟨buf, hread, htake⟩ := socksReadFrom_wire src.isPort hx hb
      refine ⟨_, buf, hread, ?_, htake⟩
      exact text_congr (hx.imp (·.2) (·.2)) src.isAddr hs _

theorem relays_all (hres : ResolvesLiterals resolveUDPAddr) {ts : List Traffic}
    {ds : List Arrival} (h : List.Forall₂ (Arrives client) ts ds) :
    List.Forall₂ (Relays client) ts (ds.flatMap (relayed resolveUDPAddr client.udp.text)) := by
  induction h with
  | nil => exact .nil
  | cons h _ ih =>
    obtain ⟨sent, hsent, hrel⟩ := arrives_relays hres h
    rw [List.flatMap_cons, hsent]
    exact .cons hrel ih

end

/-- **Through the association, every payload of the app is sent to the host it names, and every payload
of a remote host to the app, which reads it with that host's address, in order and each once**, if the
app sends first and the socket can send to all of them. -/
theorem associate_transparent (resolveUDPAddr : Bytes → Except String UDPAddr)
    (hres : ResolvesLiterals resolveUDPAddr) (client dst : Endpoint) (payload : Bytes)
    (ts : List Traffic) (ds : List Arrival)
    (h : List.Forall₂ (Arrives client) (.out dst payload :: ts) ds) :
    ∃ sent client', associateLoop resolveUDPAddr ds none = (.ok sent, client') ∧
      List.Forall₂ (Relays client) (.out dst payload :: ts) (sent.map onWire) := by
  have hall := relays_all hres h
  cases h with
  | cons hfirst hrest =>
    cases hfirst with
    | @out _ _ packet takes hw ht =>
      obtain ⟨out, h1, ho1⟩ := forward_run hres ⟨client.udp, packet, takes⟩
      obtain ⟨later, client', h2, -, ho2⟩ := loop_run hres _ client.udp
      refine ⟨out ++ later, some client', loop_cons h1 h2, ?_⟩
      rw [List.map_append, ho1, ho2, ← List.flatMap_cons]
      exact hall

def localEnd : Endpoint := ⟨[127, 0, 0, 1], 5000, by decide, by decide⟩

def remoteEnd : Endpoint := ⟨[127, 0, 0, 1], 53, by decide, by decide⟩

theorem associate_transparent_pair :
    ∃ sent client', associateLoop resolveLiteral
        [⟨localEnd.udp, [0, 0, 0, 1, 127, 0, 0, 1, 0, 53, 1], loopbackOnly⟩,
          ⟨remoteEnd.udp, [2], loopbackOnly⟩] none = (.ok sent, client') ∧
      List.Forall₂ (Relays localEnd) [.out remoteEnd [1], .back remoteEnd [2]] (sent.map onWire) := by
  refine associate_transparent resolveLiteral resolveLiteral_literals localEnd remoteEnd [1]
    [.back remoteEnd [2]] _ (.cons (.out ?_ ?_) (.cons (.back ?_ ?_) .nil))
  · decide +kernel
  · decide +kernel
  · decide +kernel
  · decide +kernel

end Bill
