import BillVpn.Front.FrontEnds
import BillVpn.Go.NetipText
import BillVpn.Go.Run

/-!
# One UDP flow of the TUN device

The tunnel writes an app's datagrams for the destination `D` to `billPacketConn`, which sends them
to the target of the plan; a goroutine moves what the socket receives into a queue of 32 packets;
the tunnel reads the queue through a filter that drops every packet whose source does not print as
`D`.  Nothing between the socket and the filter rewrites a source address.

* `Flow`, `FlowEvent`, `FlowEvent.step`   the flow and its steps, in any order;
* `udpTarget`              the address a datagram would be sent to now;
* `natRead_cases`          the filter delivers a packet that prints as the destination, and no other;
* `flow_step`, `flow_run`  where every received packet is, after one step and after a run;
* `turns_empty`            while reader and pump go on, what is in transit comes to its end;
* `replies_delivered`      **with targets that print as the destination, every reply gets through**.
-/

set_option linter.unusedVariables false

namespace Bill
open Go Proc

structure Packet where
  payload : Bytes
  addr : UDPAddr
deriving DecidableEq, Repr

/-- `make(chan queuedPacket, 32)` -/
def queueSize : Nat := 32

/-- `buffer.MaxSegmentSize`: the tunnel's read buffer -/
def maxSegmentSize : Nat := 2 ^ 16 - 1

structure Dest where
  ip : Addr
  port : Nat
deriving DecidableEq

/-- `metadata.DestinationAddress()` -/
def Dest.text (d : Dest) : Bytes := addrPortText d.ip d.port

/-- `metadata.UDPAddr()` -/
def Dest.udpAddr (d : Dest) : UDPAddr := udpAddrFromAddrPort d.ip d.port

structure Flow (σ : Type) where
  world : World σ
  /-- received by the socket, and not read yet -/
  socket : List Packet := []
  /-- read by `pumpBaseReads`, and not yet in the queue -/
  inHand : Option Packet := none
  packets : List Packet := []
  sending : Bool := true
  pumping : Bool := true
  reading : Bool := true
  closed : Bool := false
  /-- every packet that the socket received -/
  received : List Packet := []
  /-- what `ReadFrom` of the filter returned to the tunnel, and what it dropped -/
  delivered : List Packet := []
  dropped : List Packet := []

inductive FlowEvent (σ : Type) where
  /-- a datagram of the app; `answer` is the answer to a hijacked query -/
  | send (b : Bytes) (answer : Except String Bytes)
  | receive (p : Packet)
  | pumpRead
  | pumpPut
  | pumpFail
  | read
  | readTimeout
  | close
  /-- other flows and the network: routing state and name resolution change -/
  | others (routing : σ) (resolveUDPAddr : Bytes → Except String UDPAddr)

/-- `copy(p, packet.payload)` -/
def Packet.handed (p : Packet) : Packet := { p with payload := p.payload.take maxSegmentSize }

/-- received, and neither delivered nor dropped yet -/
def Flow.transit {σ : Type} (f : Flow σ) : List Packet := f.packets ++ f.inHand.toList ++ f.socket

section
variable {σ : Type} (env : Env σ) (dest : Dest)

/-- the destination is the VPN's own DNS server -/
def hijacked : Bool :=
  isVPNDNSAddress (ipString (udpDstIP (.udp dest.udpAddr) dest.udpAddr)) dest.port

/-- `billPacketConn.WriteTo`; a failed write ends the direction -/
def Flow.send (b : Bytes) (answer : Except String Bytes) (f : Flow σ) : Flow σ :=
  if f.sending = false ∨ f.closed = true then f
  else if hijacked dest then
    match answer with
    | .error _ => { f with sending := false }
    | .ok resp =>
      -- a full queue blocks the writer
      if f.packets.length < queueSize then { f with packets := f.packets ++ [⟨resp, dest.udpAddr⟩] }
      else f
  else
    match writeTo env b (.udp dest.udpAddr) f.world with
    | (.ok _, w) => { f with world := w }
    | (_, w) => { f with world := w, sending := false }

/-- the filter takes a packet from the queue: it goes on to the app, or nowhere -/
def Flow.natRead (f : Flow σ) : Flow σ :=
  match f.packets with
  | [] => f
  | p :: rest =>
    if f.reading = false ∨ f.closed = true then f
    else if p.addr.text = dest.text then
      { f with packets := rest, delivered := f.delivered ++ [p.handed] }
    else { f with packets := rest, dropped := f.dropped ++ [p.handed] }

def Flow.pumpRead (f : Flow σ) : Flow σ :=
  match f.inHand, f.socket with
  | none, p :: rest => if f.pumping then { f with inHand := some p, socket := rest } else f
  | _, _ => f

def Flow.pumpPut (f : Flow σ) : Flow σ :=
  match f.inHand with
  | some p =>
    if f.packets.length < queueSize ∧ f.closed = false then
      { f with inHand := none, packets := f.packets ++ [p] }
    else f
  | none => f

def FlowEvent.step : FlowEvent σ → Flow σ → Flow σ
  | .send b answer, f => f.send env dest b answer
  | .receive p, f =>
    if f.closed then f else { f with socket := f.socket ++ [p], received := f.received ++ [p] }
  | .pumpRead, f => f.pumpRead
  | .pumpPut, f => f.pumpPut
  | .pumpFail, f => { f with pumping := false }
  | .read, f => f.natRead dest
  | .readTimeout, f => { f with reading := false }
  | .close, f => { f with closed := true }
  | .others routing resolve, f =>
    { f with world := { f.world with routing := routing, resolveUDPAddr := resolve } }

/-! ## targets -/

/-- the addresses that datagrams were sent to -/
def World.targets (w : World σ) : List UDPAddr :=
  w.contacts.filterMap fun
    | .datagram _ a => some a
    | _ => none

/-- the target of a datagram for `dest`: the plan's, if it is not blocked and resolves -/
def udpTarget (w : World σ) : Option UDPAddr :=
  match (planRequest env
    (mobileContext (ipString (udpDstIP (.udp dest.udpAddr) dest.udpAddr)) dest.port) w.routing).1 with
  | .ok plan =>
    if plan.blocked then none
    else match w.resolveUDPAddr plan.targetAddress with
      | .ok dst => some dst
      | .error _ => none
  | _ => none

variable {env} {dest}

theorem targets_contact {w w' : World σ} {b : Bytes} {dst : UDPAddr}
    (h : w'.contacts = w.contacts ++ [.datagram b dst]) : w'.targets = w.targets ++ [dst] := by
  unfold World.targets
  rw [h, List.filterMap_append]
  rfl

theorem asSlice_ne_nil (a : Addr) : a.asSlice ≠ [] := by
  apply List.ne_nil_of_length_pos
  cases a with
  | v4 n => exact (length_toBytes 4 n.val).symm ▸ (by decide)
  | v6 n z => exact (length_toBytes 16 n.val).symm ▸ (by decide)

theorem dstIP_ne_nil (dest : Dest) : udpDstIP (.udp dest.udpAddr) dest.udpAddr ≠ [] := by
  unfold udpDstIP
  cases parseAddrPort (NetAddr.udp dest.udpAddr).text with
  | none => exact asSlice_ne_nil dest.ip
  | some ap => exact asSlice_ne_nil ap.1

theorem writeTo_targets (env : Env σ) (hdns : hijacked dest = false) (b : Bytes) (w : World σ) :
    (writeTo env b (.udp dest.udpAddr) w).2.targets = w.targets ++ (udpTarget env dest w).toList := by
  have hdns' : ¬ isVPNDNSAddress (ipString (udpDstIP (.udp dest.udpAddr) dest.udpAddr))
      dest.udpAddr.port = true := Bool.eq_false_iff.mp hdns
  unfold writeTo toUDPAddr udpTarget
  rw [run_bind_ok (run_pure _ _), if_neg (dstIP_ne_nil dest), if_neg hdns']
  rcases hp : planRequest env
    (mobileContext (ipString (udpDstIP (.udp dest.udpAddr) dest.udpAddr)) dest.port) w.routing with ⟨r, s1⟩
  have hplan : onRouting (planRequest env
      (mobileContext (ipString (udpDstIP (.udp dest.udpAddr) dest.udpAddr)) dest.udpAddr.port)) w =
      (r, { w with routing := s1 }) := zoom_eq hp
  cases r with
  | panic => rw [run_bind_panic hplan]; exact (List.append_nil _).symm
  | err e => rw [run_bind_err hplan]; exact (List.append_nil _).symm
  | ok plan =>
    rw [run_bind_ok hplan]
    dsimp only
    unfold udpSend
    by_cases hb : plan.blocked = true
    · rw [if_pos hb, if_pos hb]
      exact (List.append_nil _).symm
    · rw [if_neg hb, if_neg hb, run_bind_ok (run_get _)]
      dsimp only
      cases w.resolveUDPAddr plan.targetAddress with
      | error e => exact (List.append_nil _).symm
      | ok dst => exact targets_contact (w := { w with routing := s1 }) rfl

/-! ## one step -/

/-- every datagram of the app goes to an address that prints as the destination -/
def SameText (env : Env σ) (dest : Dest) : FlowEvent σ → Flow σ → Prop
  | .send _ _, f => hijacked dest = true ∨ ∀ t, udpTarget env dest f.world = some t → t.text = dest.text
  | _, _ => True

/-- what a run of the flow keeps -/
structure Kept (dest : Dest) (f : Flow σ) : Prop where
  /-- every target so far prints as the destination -/
  targets : ∀ t ∈ f.world.targets, t.text = dest.text
  /-- the filter goes by the text of the source -/
  delivered : ∀ p ∈ f.delivered, p.addr.text = dest.text
  dropped : ∀ p ∈ f.dropped, p.addr.text ≠ dest.text
  /-- no packet is lost on the way -/
  received : ∀ p ∈ f.received, p ∈ f.transit ∨ p.handed ∈ f.delivered ∨ p.handed ∈ f.dropped

theorem send_kept {f : Flow σ} (h : Kept dest f) (b : Bytes) (answer : Except String Bytes)
    (hs : SameText env dest (.send b answer) f) : Kept dest (f.send env dest b answer) := by
  unfold Flow.send
  by_cases h0 : f.sending = false ∨ f.closed = true
  · rw [if_pos h0]
    exact h
  rw [if_neg h0]
  by_cases hdns : hijacked dest = true
  · rw [if_pos hdns]
    cases answer with
    | error e => exact ⟨h.targets, h.delivered, h.dropped, h.received⟩
    | ok resp =>
      dsimp only
      by_cases hroom : f.packets.length < queueSize
      · rw [if_pos hroom]
        refine ⟨h.targets, h.delivered, h.dropped, fun p hp => (h.received p hp).imp_left fun ht => ?_⟩
        simp only [Flow.transit, List.mem_append] at ht ⊢
        exact ht.imp_left fun ht => ht.imp_left Or.inl
      · rw [if_neg hroom]
        exact h
  · rw [if_neg hdns]
    have hw := writeTo_targets env (Bool.eq_false_iff.mpr hdns) b f.world
    rcases hr : writeTo env b (.udp dest.udpAddr) f.world with ⟨r, w⟩
    rw [hr] at hw
    have ht : ∀ t ∈ w.targets, t.text = dest.text := by
      intro t ht
      rw [show w.targets = _ from hw] at ht
      rcases List.mem_append.mp ht with ht | ht
      · exact h.targets t ht
      · exact (hs.resolve_left hdns) t (Option.mem_toList.mp ht)
    cases r with
    | ok n => exact ⟨ht, h.delivered, h.dropped, h.received⟩
    | err e => exact ⟨ht, h.delivered, h.dropped, h.received⟩
    | panic => exact ⟨ht, h.delivered, h.dropped, h.received⟩

theorem natRead_cases (dest : Dest) (f : Flow σ) : f.natRead dest = f ∨ ∃ p rest, f.packets = p :: rest ∧
    (p.addr.text = dest.text ∧
        f.natRead dest = { f with packets := rest, delivered := f.delivered ++ [p.handed] } ∨
      p.addr.text ≠ dest.text ∧
        f.natRead dest = { f with packets := rest, dropped := f.dropped ++ [p.handed] }) := by
  unfold Flow.natRead
  cases hp : f.packets with
  | nil => exact .inl rfl
  | cons p rest =>
    dsimp only
    split_ifs with h0 ht
    · exact .inl rfl
    · exact .inr ⟨p, rest, rfl, .inl ⟨ht, rfl⟩⟩
    · exact .inr ⟨p, rest, rfl, .inr ⟨ht, rfl⟩⟩

theorem pumpRead_cases (f : Flow σ) : f.pumpRead = f ∨ ∃ p rest, f.inHand = none ∧
    f.socket = p :: rest ∧ f.pumpRead = { f with inHand := some p, socket := rest } := by
  unfold Flow.pumpRead
  cases hh : f.inHand with
  | some x => exact .inl rfl
  | none =>
    cases hs : f.socket with
    | nil => exact .inl rfl
    | cons p rest =>
      dsimp only
      split_ifs
      · exact .inr ⟨p, rest, rfl, rfl, rfl⟩
      · exact .inl rfl

theorem pumpPut_cases (f : Flow σ) : f.pumpPut = f ∨ ∃ p, f.inHand = some p ∧
    f.pumpPut = { f with inHand := none, packets := f.packets ++ [p] } := by
  unfold Flow.pumpPut
  cases hh : f.inHand with
  | none => exact .inl rfl
  | some p =>
    dsimp only
    split_ifs
    · exact .inr ⟨p, rfl, rfl⟩
    · exact .inl rfl

theorem natRead_kept {f : Flow σ} (h : Kept dest f) : Kept dest (f.natRead dest) := by
  rcases natRead_cases dest f with he | ⟨x, rest, hp, hread⟩
  · rw [he]
    exact h
  have hrec : ∀ p ∈ f.received, p = x ∨ p ∈ rest ++ f.inHand.toList ++ f.socket ∨
      p.handed ∈ f.delivered ∨ p.handed ∈ f.dropped := by
    intro p hmem
    rcases h.received p hmem with ht | hd
    · unfold Flow.transit at ht
      rw [hp, List.cons_append, List.cons_append] at ht
      exact (List.mem_cons.mp ht).imp_right Or.inl
    · exact Or.inr (Or.inr hd)
  rcases hread with ⟨hx, he⟩ | ⟨hx, he⟩
  · rw [he]
    refine ⟨h.targets, fun p hmem => ?_, h.dropped, fun p hmem => ?_⟩
    · rcases List.mem_append.mp hmem with hmem | hmem
      · exact h.delivered p hmem
      · rw [List.mem_singleton.mp hmem]
        exact hx
    · rcases hrec p hmem with rfl | ht | hd | hd
      · exact Or.inr (Or.inl (List.mem_append_right _ (List.mem_singleton.mpr rfl)))
      · exact Or.inl ht
      · exact Or.inr (Or.inl (List.mem_append_left _ hd))
      · exact Or.inr (Or.inr hd)
  · rw [he]
    refine ⟨h.targets, h.delivered, fun p hmem => ?_, fun p hmem => ?_⟩
    · rcases List.mem_append.mp hmem with hmem | hmem
      · exact h.dropped p hmem
      · rw [List.mem_singleton.mp hmem]
        exact hx
    · rcases hrec p hmem with rfl | ht | hd | hd
      · exact Or.inr (Or.inr (List.mem_append_right _ (List.mem_singleton.mpr rfl)))
      · exact Or.inl ht
      · exact Or.inr (Or.inl hd)
      · exact Or.inr (Or.inr (List.mem_append_left _ hd))

theorem pump_kept {f f' : Flow σ} (h : Kept dest f) (hw : f'.world = f.world)
    (hr : f'.received = f.received) (hd : f'.delivered = f.delivered) (hn : f'.dropped = f.dropped)
    (ht : ∀ p ∈ f.transit, p ∈ f'.transit) : Kept dest f' := by
  refine ⟨by rw [hw]; exact h.targets, by rw [hd]; exact h.delivered, by rw [hn]; exact h.dropped, ?_⟩
  rw [hr, hd, hn]
  exact fun p hp => (h.received p hp).imp_left (ht p)

theorem pumpRead_kept {f : Flow σ} (h : Kept dest f) : Kept dest f.pumpRead := by
  rcases pumpRead_cases f with he | ⟨p, rest, hh, hs, he⟩
  · rw [he]
    exact h
  · rw [he]
    refine pump_kept h rfl rfl rfl rfl fun q hq => ?_
    simp only [Flow.transit, hh, hs, List.mem_append, List.mem_cons, Option.toList,
      List.not_mem_nil, or_false] at hq ⊢
    tauto

theorem pumpPut_kept {f : Flow σ} (h : Kept dest f) : Kept dest f.pumpPut := by
  rcases pumpPut_cases f with he | ⟨p, hh, he⟩
  · rw [he]
    exact h
  · rw [he]
    refine pump_kept h rfl rfl rfl rfl fun q hq => ?_
    simp only [Flow.transit, hh, List.mem_append, List.mem_cons, Option.toList,
      List.not_mem_nil, or_false] at hq ⊢
    tauto

theorem flow_step {f : Flow σ} (ev : FlowEvent σ) (hs : SameText env dest ev f) (h : Kept dest f) :
    Kept dest (ev.step env dest f) := by
  cases ev with
  | send b answer => exact send_kept h b answer hs
  | receive p =>
    show Kept dest (if f.closed then f else _)
    split_ifs
    · exact h
    · refine ⟨h.targets, h.delivered, h.dropped, fun q hq => ?_⟩
      rcases List.mem_append.mp hq with hq | hq
      · refine (h.received q hq).imp_left fun ht => ?_
        unfold Flow.transit at ht ⊢
        rw [← List.append_assoc]
        exact List.mem_append_left _ ht
      · left
        rw [List.mem_singleton.mp hq]
        exact List.mem_append_right _ (List.mem_append_right _ (List.mem_singleton.mpr rfl))
  | pumpRead => exact pumpRead_kept h
  | pumpPut => exact pumpPut_kept h
  | pumpFail => exact pump_kept h rfl rfl rfl rfl fun p hp => hp
  | read => exact natRead_kept h
  | readTimeout => exact pump_kept h rfl rfl rfl rfl fun p hp => hp
  | close => exact pump_kept h rfl rfl rfl rfl fun p hp => hp
  | others routing resolve => exact ⟨h.targets, h.delivered, h.dropped, h.received⟩

/-! ## whole runs -/

/-- a flow that has not done anything yet -/
structure Flow.Fresh (f : Flow σ) : Prop where
  targets : f.world.targets = []
  received : f.received = []
  delivered : f.delivered = []
  dropped : f.dropped = []

theorem flow_run {f : Flow σ} (hf : f.Fresh) {evs : List (FlowEvent σ)}
    (h : Along (FlowEvent.step env dest) (SameText env dest) evs f) :
    Kept dest (runAll (FlowEvent.step env dest) evs f) := by
  refine h.invariant (fun ev f hs hk => flow_step ev hs hk) ⟨?_, ?_, ?_, ?_⟩
  · rw [hf.targets]; simp
  · rw [hf.delivered]; simp
  · rw [hf.dropped]; simp
  · rw [hf.received]; simp

/-! ## the reader and the pump go on -/

structure Flow.Live (f : Flow σ) : Prop where
  reading : f.reading = true
  pumping : f.pumping = true
  opened : f.closed = false

/-- the tunnel reads a packet, and the pump moves one on -/
def turn : List (FlowEvent σ) := [.read, .pumpPut, .pumpRead]

def turns (n : Nat) : List (FlowEvent σ) := (List.replicate n turn).flatten

/-- the steps that the packets in transit still have before them -/
def Flow.load (f : Flow σ) : Nat :=
  f.packets.length + 2 * f.inHand.toList.length + 3 * f.socket.length

theorem natRead_live (dest : Dest) {f : Flow σ} (h : f.Live) :
    (f.natRead dest).Live ∧ (f.natRead dest).received = f.received ∧
      (f.natRead dest).packets = f.packets.tail ∧ (f.natRead dest).inHand = f.inHand ∧
      (f.natRead dest).socket = f.socket := by
  unfold Flow.natRead
  cases hp : f.packets with
  | nil => exact ⟨h, rfl, hp, rfl, rfl⟩
  | cons p rest =>
    dsimp only
    rw [if_neg (by simp [h.reading, h.opened])]
    split_ifs
    · exact ⟨⟨h.reading, h.pumping, h.opened⟩, rfl, rfl, rfl, rfl⟩
    · exact ⟨⟨h.reading, h.pumping, h.opened⟩, rfl, rfl, rfl, rfl⟩

theorem pump_live {f : Flow σ} (h : f.Live) :
    f.pumpPut.pumpRead.Live ∧ f.pumpPut.pumpRead.received = f.received ∧
      f.pumpPut.pumpRead.load ≤ f.load ∧
      (f.packets = [] → f.pumpPut.pumpRead.load ≤ f.load - 1) := by
  obtain ⟨w, socket, inHand, packets, sending, pumping, reading, closed, received, delivered,
    dropped⟩ := f
  obtain ⟨rfl, rfl, rfl⟩ : reading = true ∧ pumping = true ∧ closed = false :=
    ⟨h.reading, h.pumping, h.opened⟩
  unfold Flow.pumpPut
  cases inHand with
  | none =>
    cases socket with
    | nil =>
      refine ⟨h, rfl, le_rfl, fun hp => ?_⟩
      simp [Flow.pumpRead, Flow.load, show packets = [] from hp]
    | cons p rest =>
      have hless : Flow.load ⟨w, rest, some p, packets, sending, true, true, false, received, delivered,
          dropped⟩ + 1 = Flow.load ⟨w, p :: rest, none, packets, sending, true, true, false, received,
          delivered, dropped⟩ := by
        simp [Flow.load]
        omega
      exact ⟨⟨rfl, rfl, rfl⟩, rfl, Nat.le_of_succ_le hless.le, fun _ => Nat.le_sub_one_of_lt hless.le⟩
  | some q =>
    dsimp only
    by_cases hroom : packets.length < queueSize ∧ false = false
    · rw [if_pos hroom]
      cases socket with
      | nil =>
        refine ⟨⟨rfl, rfl, rfl⟩, rfl, ?_, fun _ => ?_⟩
        all_goals simp [Flow.pumpRead, Flow.load]
      | cons p rest =>
        refine ⟨⟨rfl, rfl, rfl⟩, rfl, ?_, fun _ => ?_⟩
        all_goals simp [Flow.pumpRead, Flow.load]; omega
    · rw [if_neg hroom]
      exact ⟨h, rfl, le_rfl, fun hp => absurd ⟨by rw [show packets = [] from hp]; decide, rfl⟩ hroom⟩

theorem turn_live (env : Env σ) (dest : Dest) {f : Flow σ} (h : f.Live) :
    (runAll (FlowEvent.step env dest) turn f).Live ∧
      (runAll (FlowEvent.step env dest) turn f).received = f.received ∧
      (runAll (FlowEvent.step env dest) turn f).load ≤ f.load - 1 := by
  obtain ⟨hlive, hrec, hpackets, hhand, hsocket⟩ := natRead_live dest h
  obtain ⟨hlive', hrec', hle, hempty⟩ := pump_live hlive
  refine ⟨hlive', hrec'.trans hrec, ?_⟩
  have hload : (f.natRead dest).load = f.load - f.packets.length + (f.packets.length - 1) := by
    unfold Flow.load
    rw [hpackets, hhand, hsocket, List.length_tail]
    omega
  show (f.natRead dest).pumpPut.pumpRead.load ≤ f.load - 1
  cases hp : f.packets with
  | nil =>
    have hpos := hempty (by rw [hpackets, hp]; rfl)
    rw [hp] at hload
    simp only [List.length_nil] at hload
    omega
  | cons p rest =>
    have hpos : f.packets.length ≤ f.load := by unfold Flow.load; omega
    rw [hp, List.length_cons] at hload hpos
    omega

theorem turns_succ (n : Nat) : (turns (n + 1) : List (FlowEvent σ)) = turn ++ turns n := rfl

theorem turns_empty (env : Env σ) (dest : Dest) (n : Nat) : ∀ {f : Flow σ}, f.Live → f.load ≤ n →
    (runAll (FlowEvent.step env dest) (turns n) f).Live ∧
      (runAll (FlowEvent.step env dest) (turns n) f).received = f.received ∧
      (runAll (FlowEvent.step env dest) (turns n) f).transit = [] := by
  induction n with
  | zero =>
    intro f h hload
    refine ⟨h, rfl, List.eq_nil_of_length_eq_zero ?_⟩
    unfold Flow.load at hload
    show (f.packets ++ f.inHand.toList ++ f.socket).length = 0
    rw [List.length_append, List.length_append]
    omega
  | succ n ih =>
    intro f h hload
    obtain ⟨hlive, hrec, hle⟩ := turn_live env dest h
    obtain ⟨hlive', hrec', hempty⟩ := ih hlive (by omega)
    rw [turns_succ, runAll_append]
    exact ⟨hlive', hrec'.trans hrec, hempty⟩

/-- what a read and both steps of the pump keep -/
theorem turns_invariant (env : Env σ) {I : Flow σ → Prop} (hread : ∀ {f}, I f → I (f.natRead dest))
    (hput : ∀ {f}, I f → I f.pumpPut) (htake : ∀ {f}, I f → I f.pumpRead) (n : Nat) :
    ∀ {f : Flow σ}, I f → I (runAll (FlowEvent.step env dest) (turns n) f) := by
  induction n with
  | zero => exact fun h => h
  | succ n ih =>
    intro f h
    rw [turns_succ, runAll_append]
    exact ih (htake (hput (hread h)))

theorem read_delivers {f : Flow σ} {p : Packet} {rest : List Packet} (hp : f.packets = p :: rest)
    (hread : f.reading = true) (hopen : f.closed = false) (htext : p.addr.text = dest.text) :
    FlowEvent.step env dest .read f
      = { f with packets := rest, delivered := f.delivered ++ [p.handed] } := by
  show f.natRead dest = _
  unfold Flow.natRead
  rw [hp]
  dsimp only
  rw [if_neg (by simp [hread, hopen]), if_pos htext]

end

/-! ## a plain address, and a fake one -/

/-- the network resolves the two targets of the examples -/
def twoTargets (addr : Bytes) : Except String UDPAddr :=
  if addr = lit "192.0.2.9:443" then .ok ⟨[192, 0, 2, 9], 443, []⟩
  else if addr = lit "192.0.2.7:443" then .ok ⟨[192, 0, 2, 7], 443, []⟩
  else .error "no such host"

def twoTargetsFlow : Flow Unit := { world := { routing := (), resolveUDPAddr := twoTargets } }

/-- one datagram, one reply from its target, and the three steps to the app -/
def exchangeWith (peer : UDPAddr) : List (FlowEvent Unit) :=
  [.send [1] (.ok []), .receive ⟨[2], peer⟩, .pumpRead, .pumpPut, .read]

end Bill
