import BillVpn.Go.HostPortText
import BillVpn.Go.Window

/-!
# The addresses of SOCKS5 UDP packets

A packet of a UDP association starts with two reserved bytes, a fragment number, an address in one of
three forms and a port; the payload follows.

* `encodeSocksUDPAddr`, `decodeSocksUDPPacket`   as in the source; `resolveUDPAddr` is the library's;
* `headerLen`, `Rejected`   what a packet must have, by its address type;
* `decode_cases`            the decoder on every byte string;
* `decode_encode`           the decoder on what the encoder wrote;
* `socks_udp_codec`         **both**.
-/

set_option linter.unusedVariables false

namespace Bill
open Go Res

/-! ## the functions of the source -/

/-- the address part -/
def encodeSocksHost (host : Bytes) : Res Bytes :=
  let ip := parseIP host
  if ip ≠ [] then
    if to4 ip ≠ [] then .ok (0x01 :: to4 ip) else .ok (0x04 :: to16 ip)
  else if 255 < host.length then .err ("host too long: " ++ textOf host)
  else .ok (0x03 :: UInt8.ofNat host.length :: host)

def encodeSocksUDPAddr (addr : Bytes) : Res Bytes :=
  match splitHostPort addr with
  | none => .err "missing port in address"
  | some (host, portStr) =>
    match atoi portStr with
    | none => .err "invalid syntax"
    | some port => do
      let buf ← encodeSocksHost host
      pure (buf ++ be16 (port % 65536).toNat)

/-- the `switch` over the address type: the host, and the offset of the port -/
def decodeSocksHost (packet : Bytes) (atyp : UInt8) : Res (Bytes × Nat) :=
  if atyp = 0x01 then
    if packet.length < 10 then .err "udp ipv4 packet too short"
    else do
      let ip ← slice packet 4 8
      pure (ipString ip, 8)
  else if atyp = 0x04 then
    if packet.length < 22 then .err "udp ipv6 packet too short"
    else do
      let ip ← slice packet 4 20
      pure (ipString ip, 20)
  else if atyp = 0x03 then
    if packet.length < 5 then .err "udp domain packet too short"
    else do
      let hostLen ← idx packet 4
      if packet.length < 5 + hostLen.toNat + 2 then .err "udp domain packet too short"
      else do
        let host ← slice packet 5 ↑(5 + hostLen.toNat)
        pure (host, 5 + hostLen.toNat)
  else .err ("unsupported udp atyp: " ++ toString atyp)

def decodeSocksUDPPacket (resolveUDPAddr : Bytes → Except String UDPAddr) (packet : Bytes) :
    Res (UDPAddr × Bytes) :=
  if packet.length < 4 then .err "udp packet too short"
  else do
    let frag ← idx packet 2
    if frag ≠ 0 then .err "fragmented udp packets are not supported"
    else do
      let atyp ← idx packet 3
      let (host, offset) ← decodeSocksHost packet atyp
      let port ← rd16 packet ↑offset
      let addr ← Res.ofExcept (resolveUDPAddr (joinHostPort host (itoa port)))
      let payload ← sliceFrom packet ↑(offset + 2)
      pure (addr, payload)

/-! ## what a packet must have -/

def atypOf (packet : Bytes) : UInt8 := packet.getD 3 0

def nameLen (packet : Bytes) : Nat := (packet.getD 4 0).toNat

/-- the shortest packet with this beginning -/
def headerLen (packet : Bytes) : Nat :=
  if atypOf packet = 1 then 10
  else if atypOf packet = 4 then 22
  else if atypOf packet = 3 then 5 + nameLen packet + 2
  else 4

def domainTarget (packet : Bytes) : Bytes :=
  joinHostPort ((packet.take (5 + nameLen packet)).drop 5) (itoa (u16At packet (5 + nameLen packet)))

structure Rejected (resolveUDPAddr : Bytes → Except String UDPAddr) (packet : Bytes) : Prop where
  why : packet.length < headerLen packet ∨ packet.getD 2 0 ≠ 0 ∨
    (atypOf packet ≠ 1 ∧ atypOf packet ≠ 4 ∧ atypOf packet ≠ 3) ∨
    atypOf packet = 3 ∧ ∃ e, resolveUDPAddr (domainTarget packet) = .error e

/-- `net.ResolveUDPAddr` on an address -/
def ResolvesLiterals (resolveUDPAddr : Bytes → Except String UDPAddr) : Prop :=
  ∀ ip port, ip.length = 4 ∨ ip.length = 16 → port < 65536 →
    resolveUDPAddr (joinHostPort (ipString ip) (itoa port)) = .ok ⟨to16 ip, port, []⟩

/-! ## every packet -/

section
variable {packet : Bytes}

/-- the host of a packet with a complete header -/
inductive HostAt (packet : Bytes) : Bytes → Nat → Prop where
  | ipv4 (h : atypOf packet = 1) : HostAt packet (ipString ((packet.take 8).drop 4)) 8
  | ipv6 (h : atypOf packet = 4) : HostAt packet (ipString ((packet.take 20).drop 4)) 20
  | domain (h : atypOf packet = 3) :
      HostAt packet ((packet.take (5 + nameLen packet)).drop 5) (5 + nameLen packet)

theorem idx_getD {i : Nat} (h : i < packet.length) : idx packet ↑i = .ok (packet.getD i 0) := by
  rw [idx_nat h, List.getD_eq_getElem?_getD, List.getElem?_eq_getElem h]
  rfl

theorem decodeSocksHost_short (h : packet.length < headerLen packet) (h4 : 4 ≤ packet.length) :
    ∃ e, decodeSocksHost packet (atypOf packet) = .err e := by
  unfold decodeSocksHost
  unfold headerLen at h
  by_cases h1 : atypOf packet = 1
  · rw [if_pos h1] at h
    rw [if_pos h1, if_pos h]
    exact ⟨_, rfl⟩
  rw [if_neg h1] at h ⊢
  by_cases h2 : atypOf packet = 4
  · rw [if_pos h2] at h
    rw [if_pos h2, if_pos h]
    exact ⟨_, rfl⟩
  rw [if_neg h2] at h ⊢
  by_cases h3 : atypOf packet = 3
  · rw [if_pos h3] at h
    rw [if_pos h3]
    by_cases h5 : packet.length < 5
    · rw [if_pos h5]
      exact ⟨_, rfl⟩
    · have hidx : idx packet 4 = .ok (packet.getD 4 0) := idx_getD (i := 4) (by omega)
      rw [if_neg h5, hidx]
      show ∃ e, (if packet.length < 5 + nameLen packet + 2 then _ else _) = _
      rw [if_pos h]
      exact ⟨_, rfl⟩
  · rw [if_neg h3] at h
    omega

theorem decodeSocksHost_unknown (h : atypOf packet ≠ 1 ∧ atypOf packet ≠ 4 ∧ atypOf packet ≠ 3) :
    ∃ e, decodeSocksHost packet (atypOf packet) = .err e := by
  unfold decodeSocksHost
  rw [if_neg h.1, if_neg h.2.1, if_neg h.2.2]
  exact ⟨_, rfl⟩

theorem decodeSocksHost_ok (h : headerLen packet ≤ packet.length)
    (hatyp : ¬ (atypOf packet ≠ 1 ∧ atypOf packet ≠ 4 ∧ atypOf packet ≠ 3)) :
    ∃ host off, decodeSocksHost packet (atypOf packet) = .ok (host, off) ∧ off + 2 = headerLen packet ∧
      HostAt packet host off := by
  unfold decodeSocksHost
  unfold headerLen at h ⊢
  by_cases h1 : atypOf packet = 1
  · rw [if_pos h1] at h
    have hslice : slice packet 4 8 = .ok ((packet.take 8).drop 4) :=
      slice_of_le (by omega) (by omega) (by omega)
    rw [if_pos h1, if_pos h1, if_neg (by omega), hslice]
    exact ⟨_, 8, rfl, rfl, .ipv4 h1⟩
  rw [if_neg h1] at h
  rw [if_neg h1, if_neg h1]
  by_cases h2 : atypOf packet = 4
  · rw [if_pos h2] at h
    have hslice : slice packet 4 20 = .ok ((packet.take 20).drop 4) :=
      slice_of_le (by omega) (by omega) (by omega)
    rw [if_pos h2, if_pos h2, if_neg (by omega), hslice]
    exact ⟨_, 20, rfl, rfl, .ipv6 h2⟩
  rw [if_neg h2] at h
  rw [if_neg h2, if_neg h2]
  have h3 : atypOf packet = 3 := by
    by_contra h3
    exact hatyp ⟨h1, h2, h3⟩
  rw [if_pos h3] at h
  have hidx : idx packet 4 = .ok (packet.getD 4 0) := idx_getD (i := 4) (by omega)
  have hslice : slice packet 5 ↑(5 + nameLen packet) =
      .ok ((packet.take (5 + nameLen packet)).drop 5) := by
    rw [slice_of_le (by omega) (by omega) (by omega), Int.toNat_natCast]
    rfl
  rw [if_pos h3, if_pos h3, if_neg (by omega), hidx]
  show ∃ host off, (if packet.length < 5 + nameLen packet + 2 then _
    else slice packet 5 ↑(5 + nameLen packet) >>= _) = _ ∧ _
  rw [if_neg (by omega), hslice]
  exact ⟨_, 5 + nameLen packet, rfl, rfl, .domain h3⟩

theorem decode_header (resolveUDPAddr : Bytes → Except String UDPAddr)
    (h : headerLen packet ≤ packet.length) (h4 : 4 ≤ packet.length) (hfrag : packet.getD 2 0 = 0)
    (hatyp : ¬ (atypOf packet ≠ 1 ∧ atypOf packet ≠ 4 ∧ atypOf packet ≠ 3)) :
    ∃ host off, off + 2 = headerLen packet ∧ HostAt packet host off ∧
      decodeSocksUDPPacket resolveUDPAddr packet =
        (Res.ofExcept (resolveUDPAddr (joinHostPort host (itoa (u16At packet off)))) >>= fun addr =>
          .ok (addr, packet.drop (headerLen packet))) := by
  obtain ⟨host, off, hhost, hoff, hat⟩ := decodeSocksHost_ok h hatyp
  refine ⟨host, off, hoff, hat, ?_⟩
  have h2 : idx packet 2 = .ok (packet.getD 2 0) := idx_getD (i := 2) (by omega)
  have h3 : idx packet 3 = .ok (atypOf packet) := idx_getD (i := 3) (by omega)
  have hport : rd16 packet ↑off = .ok (u16At packet off) := rd16_nat (by omega)
  have hrest : sliceFrom packet ↑(off + 2) = .ok (packet.drop (headerLen packet)) := by
    rw [hoff]
    exact sliceFrom_nat h
  unfold decodeSocksUDPPacket
  rw [if_neg (by omega), h2, bind_ok, hfrag, if_neg (not_not_intro rfl), h3, bind_ok, hhost, bind_ok]
  show (rd16 packet ↑off >>= _) = _
  rw [hport, bind_ok, hrest]
  rfl

theorem decode_bad (resolveUDPAddr : Bytes → Except String UDPAddr)
    (h : packet.length < headerLen packet ∨ packet.getD 2 0 ≠ 0 ∨
      (atypOf packet ≠ 1 ∧ atypOf packet ≠ 4 ∧ atypOf packet ≠ 3)) :
    ∃ e, decodeSocksUDPPacket resolveUDPAddr packet = .err e := by
  unfold decodeSocksUDPPacket
  by_cases h4 : packet.length < 4
  · rw [if_pos h4]
    exact ⟨_, rfl⟩
  have h2 : idx packet 2 = .ok (packet.getD 2 0) := idx_getD (i := 2) (by omega)
  have h3 : idx packet 3 = .ok (atypOf packet) := idx_getD (i := 3) (by omega)
  rw [if_neg h4, h2, bind_ok]
  by_cases hfrag : packet.getD 2 0 = 0
  · have hhost : ∃ e, decodeSocksHost packet (atypOf packet) = .err e := by
      rcases h with h | h | h
      · exact decodeSocksHost_short h (by omega)
      · exact absurd hfrag h
      · exact decodeSocksHost_unknown h
    obtain ⟨e, he⟩ := hhost
    rw [if_neg (not_not_intro hfrag), h3, bind_ok, he]
    exact ⟨e, rfl⟩
  · rw [if_pos hfrag]
    exact ⟨_, rfl⟩

/-- **the decoder on every byte string**: it stays in the packet, and rejects exactly what lacks
something -/
theorem decode_total {resolveUDPAddr : Bytes → Except String UDPAddr}
    (hres : ResolvesLiterals resolveUDPAddr) (packet : Bytes) :
    decodeSocksUDPPacket resolveUDPAddr packet ≠ .panic ∧
      ((∃ e, decodeSocksUDPPacket resolveUDPAddr packet = .err e) ↔ Rejected resolveUDPAddr packet) := by
  by_cases hbad : packet.length < headerLen packet ∨ packet.getD 2 0 ≠ 0 ∨
      (atypOf packet ≠ 1 ∧ atypOf packet ≠ 4 ∧ atypOf packet ≠ 3)
  · obtain ⟨e, he⟩ := decode_bad resolveUDPAddr hbad
    rw [he]
    refine ⟨fun h => (nomatch h), fun _ => ⟨?_⟩, fun _ => ⟨e, rfl⟩⟩
    rcases hbad with h | h | h
    · exact .inl h
    · exact .inr (.inl h)
    · exact .inr (.inr (.inl h))
  · obtain ⟨hlen, hrest⟩ := not_or.mp hbad
    obtain ⟨hfrag, hatyp⟩ := not_or.mp hrest
    have hfrag := not_not.mp hfrag
    have hle : headerLen packet ≤ packet.length := Nat.le_of_not_lt hlen
    have h4 : 4 ≤ packet.length := by
      have : 4 ≤ headerLen packet := by
        unfold headerLen
        split_ifs <;> omega
      omega
    obtain ⟨host, off, hoff, hat, hdec⟩ := decode_header resolveUDPAddr hle h4 hfrag hatyp
    -- an address resolves to itself, so only a name can be refused
    have hliteral : ∀ ip : IP, ip.length = 4 ∨ ip.length = 16 → host = ipString ip →
        ∃ a, resolveUDPAddr (joinHostPort host (itoa (u16At packet off))) = .ok a := by
      rintro ip hip rfl
      exact ⟨_, hres ip _ hip (u16At_lt packet off)⟩
    rw [hdec]
    constructor
    · cases resolveUDPAddr (joinHostPort host (itoa (u16At packet off))) with
      | error e => exact fun h => nomatch h
      | ok a => exact fun h => nomatch h
    · constructor
      · rintro ⟨e, he⟩
        refine ⟨.inr (.inr (.inr ?_))⟩
        have herr : ∃ e, resolveUDPAddr (joinHostPort host (itoa (u16At packet off))) = .error e := by
          cases hr : resolveUDPAddr (joinHostPort host (itoa (u16At packet off))) with
          | error e => exact ⟨e, rfl⟩
          | ok a =>
            rw [hr] at he
            exact nomatch he
        cases hat with
        | ipv4 h =>
          obtain ⟨a, ha⟩ := hliteral _ (.inl (by rw [List.length_drop, List.length_take]; omega)) rfl
          obtain ⟨e, he⟩ := herr
          rw [ha] at he
          exact nomatch he
        | ipv6 h =>
          obtain ⟨a, ha⟩ := hliteral _ (.inr (by rw [List.length_drop, List.length_take]; omega)) rfl
          obtain ⟨e, he⟩ := herr
          rw [ha] at he
          exact nomatch he
        | domain h => exact ⟨h, herr⟩
      · intro hrej
        rcases hrej.why with h | h | h | ⟨h, e, he⟩
        · exact absurd h hlen
        · exact absurd hfrag h
        · exact absurd h hatyp
        · cases hat with
          | ipv4 h' => rw [h] at h'; exact absurd h' (by decide)
          | ipv6 h' => rw [h] at h'; exact absurd h' (by decide)
          | domain h' =>
            refine ⟨e, ?_⟩
            show (Res.ofExcept (resolveUDPAddr (domainTarget packet)) >>= _) = _
            rw [he]
            rfl

end

/-! ## what the encoder wrote -/

/-- the bytes of an address: four for IPv4 in either form -/
def wireIP (ip : IP) : IP := if to4 ip ≠ [] then to4 ip else ip

def wireAddr (ip : IP) : Bytes := (if to4 ip ≠ [] then 0x01 else 0x04) :: wireIP ip

section
variable {ip : IP}

theorem encodeSocksHost_ipString (h : ip.length = 4 ∨ ip.length = 16) :
    encodeSocksHost (ipString ip) = .ok (wireAddr ip) := by
  have hip := parseIP_ipString h
  have hne : to16 ip ≠ [] := to16_ne_nil h
  have h16 : (to16 ip).length = 16 := by
    rw [← hip] at hne ⊢
    exact parseIP_length hne
  have hto : to4 (to16 ip) = to4 ip := by
    rcases h with h | h
    · have hlen : ([0, 0, 0, 0, 0, 0, 0, 0, 0, 0, 0xff, 0xff] ++ ip).length = 16 := by
        rw [List.length_append, h]
        rfl
      rw [to16, if_pos h, to4, if_neg (by omega), if_pos ⟨hlen, rfl⟩, to4, if_pos h]
      rfl
    · rw [to16_of_length h]
  unfold encodeSocksHost wireAddr wireIP
  dsimp only
  rw [hip, if_pos hne, hto]
  by_cases h4 : to4 ip = []
  · rw [if_neg (not_not_intro h4), if_neg (not_not_intro h4), if_neg (not_not_intro h4),
      to16_of_length h16, to16_of_length (length_of_to4_nil h h4)]
  · rw [if_pos h4, if_pos h4, if_pos h4]

theorem encode_text (h : ip.length = 4 ∨ ip.length = 16) {port : Nat} (hport : port < 65536) :
    encodeSocksUDPAddr (UDPAddr.text ⟨ip, port, []⟩) = .ok (wireAddr ip ++ be16 port) := by
  have hneg : ¬ ((port : Int) < 0) := by omega
  have htext : UDPAddr.text ⟨ip, port, []⟩ = joinHostPort (ipString ip) (itoa port) := by
    unfold UDPAddr.text itoaInt
    dsimp only
    rw [if_neg (ip_ne_nil h), if_pos rfl, if_neg hneg]
    rfl
  have hmod : ((port : Int) % 65536).toNat = port := by omega
  unfold encodeSocksUDPAddr
  rw [htext, splitHostPort_ipString h]
  dsimp only
  rw [atoi_itoa (by omega)]
  dsimp only
  rw [encodeSocksHost_ipString h, hmod]
  rfl

theorem decode_wire {resolveUDPAddr : Bytes → Except String UDPAddr}
    (hres : ResolvesLiterals resolveUDPAddr) {atyp : UInt8} {x payload : Bytes} {port : Nat}
    (hx : atyp = 1 ∧ x.length = 4 ∨ atyp = 4 ∧ x.length = 16) (hport : port < 65536) :
    decodeSocksUDPPacket resolveUDPAddr ([0, 0, 0] ++ (atyp :: x ++ be16 port) ++ payload) =
      .ok (⟨to16 x, port, []⟩, payload) := by
  generalize hp : [0, 0, 0] ++ (atyp :: x ++ be16 port) ++ payload = packet
  have hatyp : atypOf packet = atyp := by rw [← hp]; rfl
  have hfrag : packet.getD 2 0 = 0 := by rw [← hp]; rfl
  have hlen : packet.length = 4 + x.length + 2 + payload.length := by
    rw [← hp]
    simp only [List.length_append, List.length_cons, List.length_nil, be16_length]
    omega
  have hhead : headerLen packet = 4 + x.length + 2 := by
    unfold headerLen
    rw [hatyp]
    rcases hx with ⟨rfl, hx⟩ | ⟨rfl, hx⟩
    · rw [if_pos rfl]
      omega
    · rw [if_neg (by decide), if_pos rfl]
      omega
  have hknown : ¬ (atypOf packet ≠ 1 ∧ atypOf packet ≠ 4 ∧ atypOf packet ≠ 3) := by
    rw [hatyp]
    rcases hx with ⟨rfl, _⟩ | ⟨rfl, _⟩
    · exact fun hc => hc.1 rfl
    · exact fun hc => hc.2.1 rfl
  obtain ⟨host, off, hoff, hat, hdec⟩ := decode_header resolveUDPAddr (by omega) (by omega) hfrag hknown
  have hoff : off = 4 + x.length := by omega
  -- the fields, by their offsets
  have hdrop : packet.drop (headerLen packet) = payload := by
    rw [hhead, ← hp]
    refine List.drop_left' ?_
    simp only [List.length_append, List.length_cons, List.length_nil, be16_length]
    omega
  have hbytes : (packet.take (4 + x.length)).drop 4 = x := by
    have hsplit : packet = ([0, 0, 0, atyp] ++ x) ++ (be16 port ++ payload) := by
      rw [← hp]
      simp
    rw [hsplit, List.take_left' (by simp; omega)]
    rfl
  have hport' : u16At packet off = port := by
    refine At.u16At hport ⟨[0, 0, 0, atyp] ++ x, payload, ?_, ?_⟩
    · rw [← hp]
      simp
    · rw [hoff]
      simp
      omega
  have hhost : host = ipString x := by
    cases hat with
    | ipv4 h => rw [hoff, hbytes]
    | ipv6 h => rw [hoff, hbytes]
    | domain h =>
      rw [hatyp] at h
      rcases hx with ⟨rfl, _⟩ | ⟨rfl, _⟩
      · exact absurd h (by decide)
      · exact absurd h (by decide)
  rw [hdec, hdrop, hport', hhost, hres x port (hx.imp (·.2) (·.2)) hport]
  rfl

theorem decode_encode {resolveUDPAddr : Bytes → Except String UDPAddr}
    (hres : ResolvesLiterals resolveUDPAddr) (h : ip.length = 4 ∨ ip.length = 16) {port : Nat}
    (hport : port < 65536) (payload : Bytes) :
    decodeSocksUDPPacket resolveUDPAddr ([0, 0, 0] ++ (wireAddr ip ++ be16 port) ++ payload) =
      .ok (⟨to16 ip, port, []⟩, payload) := by
  unfold wireAddr wireIP
  by_cases h4 : to4 ip ≠ []
  · rw [if_pos h4, if_pos h4, ← to16_to4 h4]
    exact decode_wire hres (.inl ⟨rfl, to4_length h4⟩) hport
  · rw [if_neg h4, if_neg h4]
    exact decode_wire hres (.inr ⟨rfl, length_of_to4_nil h (not_not.mp h4)⟩) hport

end

structure SocksCodec (resolveUDPAddr : Bytes → Except String UDPAddr) : Prop where
  roundTrip : ∀ (ip : IP) (port : Nat) (payload : Bytes), ip.length = 4 ∨ ip.length = 16 → port < 65536 →
    (encodeSocksUDPAddr (UDPAddr.text ⟨ip, port, []⟩) >>= fun body =>
      decodeSocksUDPPacket resolveUDPAddr ([0, 0, 0] ++ body ++ payload)) =
        .ok (⟨to16 ip, port, []⟩, payload)
  inside : ∀ packet, decodeSocksUDPPacket resolveUDPAddr packet ≠ .panic
  rejects : ∀ packet, (∃ e, decodeSocksUDPPacket resolveUDPAddr packet = .err e) ↔
    Rejected resolveUDPAddr packet

/-- **The codec round-trips and is total.** -/
theorem socks_udp_codec (resolveUDPAddr : Bytes → Except String UDPAddr)
    (hres : ResolvesLiterals resolveUDPAddr) : SocksCodec resolveUDPAddr where
  roundTrip := by
    intro ip port payload h hport
    rw [encode_text h hport]
    exact decode_encode hres h hport payload
  inside := fun packet => (decode_total hres packet).1
  rejects := fun packet => (decode_total hres packet).2

/-- a resolver that knows no names -/
def resolveLiteral (hostport : Bytes) : Except String UDPAddr :=
  match splitHostPort hostport with
  | none => .error "missing port in address"
  | some (host, port) =>
    match atoi port with
    | none => .error "unknown port"
    | some n => if parseIP host = [] then .error "no such host" else .ok ⟨parseIP host, n, []⟩

theorem resolveLiteral_literals : ResolvesLiterals resolveLiteral := by
  intro ip port h hport
  have hne : to16 ip ≠ [] := to16_ne_nil h
  unfold resolveLiteral
  rw [splitHostPort_ipString h]
  dsimp only
  rw [atoi_itoa (by omega)]
  dsimp only
  rw [parseIP_ipString h, if_neg hne]

theorem socks_udp_codec_literals : SocksCodec resolveLiteral :=
  socks_udp_codec resolveLiteral resolveLiteral_literals

example : decodeSocksUDPPacket resolveLiteral [0, 0, 0, 1, 192, 0, 2, 7, 0, 53, 42] =
    .ok (⟨to16 [192, 0, 2, 7], 53, []⟩, [42]) := by decide +kernel

end Bill
