import BillVpn.Front.DnsTcp
import BillVpn.Front.UdpFlow
import BillVpn.Go.Run

/-!
# DNS over UDP to the VPN's own server

The datagrams of an app for the DNS server of the VPN do not leave the phone.  `billPacketConn`
answers each of them and puts the answer into the packet queue of the flow, from where the other
copier of the tunnel takes it to the app.  The copier that writes waits while the queue is full, and
ends at the first query that cannot be answered, as the loop of the TCP server does.  The socket of
the flow is open all the same: what others send to it goes into the same queue.

* `Hijack`, `HijackEvent.step`   the flow with the state that answers are made from;
* `HoldsAnswers`                 the answers are with the app, in the queue, or waiting for room in it;
* `Hijack.Answered`, `hijack_run`   what was asked has been answered, in every order of the steps;
* `drain_delivers`               while the copiers and the pump go on, the app gets every answer;
* `dns_paths_agree`              **queries of UDP get the answers that they would get over TCP.**
-/

set_option linter.unusedVariables false

namespace Bill
open Go Proc

/-- `172.19.0.2:53` -/
def vpnDNSDest : Dest := ⟨.v4 0xac130002, 53⟩

theorem vpnDNSDest_hijacked : hijacked vpnDNSDest = true := by decide +kernel

/-- the filter of the tunnel knows the answers by this text -/
theorem vpnDNSDest_text : vpnDNSDest.udpAddr.text = vpnDNSDest.text := by decide +kernel

structure Hijack (σ τ : Type) where
  flow : Flow σ
  state : τ
  /-- the queries that the copier has read -/
  asked : List Bytes := []
  /-- a query that `WriteTo` has not returned from, with what `HandleDNSQueryPacket` gave for it -/
  pending : Option (Bytes × Except String Bytes) := none
  crashed : Bool := false

inductive HijackEvent (σ : Type) where
  /-- the copier reads a datagram of the app, and it is answered -/
  | query (b : Bytes)
  /-- `EnqueuePacket`, or the error -/
  | reply
  /-- the other copier, the pump, the network -/
  | flow (e : FlowEvent σ)

section
variable {σ τ : Type} (env : Env σ) (answer : Nat → Bytes → Proc τ Bytes)

/-- the copier that writes is at its read -/
def Hijack.idle (s : Hijack σ τ) : Bool := s.flow.sending && s.pending.isNone && !s.crashed

def Hijack.query (b : Bytes) (s : Hijack σ τ) : Hijack σ τ :=
  if s.idle then
    match answer s.asked.length b s.state with
    | (.ok resp, t) => { s with state := t, asked := s.asked ++ [b], pending := some (b, .ok resp) }
    | (.err e, t) => { s with state := t, asked := s.asked ++ [b], pending := some (b, .error e) }
    | (.panic, _) => { s with crashed := true }
  else s

/-- an answer for which there is no room stays where it is -/
def Hijack.reply (s : Hijack σ τ) : Hijack σ τ :=
  match s.pending with
  | none => s
  | some (b, result) =>
    if s.flow.sending = false ∨ s.flow.closed = true then s
    else if result.isOk ∧ queueSize ≤ s.flow.packets.length then s
    else { s with flow := s.flow.send env vpnDNSDest b result, pending := none }

def HijackEvent.act : HijackEvent σ → Hijack σ τ → Hijack σ τ
  | .query b, s => s.query answer b
  | .reply, s => s.reply env
  -- the copier sends by `query` and `reply` only
  | .flow (.send _ _), s => s
  | .flow e, s => { s with flow := FlowEvent.step env vpnDNSDest e s.flow }

/-- a panic ends the process -/
def HijackEvent.step (e : HijackEvent σ) (s : Hijack σ τ) : Hijack σ τ :=
  if s.crashed then s else e.act env answer s

/-- a session that has just been opened -/
def newHijack (w : World σ) (s : τ) : Hijack σ τ := { flow := { world := w }, state := s }

/-! ## the answers in the flow -/

def answerPacket (resp : Bytes) : Packet := ⟨resp, vpnDNSDest.udpAddr⟩

/-- the filter of the tunnel lets it through -/
def Packet.fromDNS (p : Packet) : Bool := p.addr.text = vpnDNSDest.text

/-- the answers that were delivered, that are in the queue, and that wait for it, among packets of others -/
structure HoldsAnswers (waiting answers : List Packet) (sending : Bool) (f : Flow σ) : Prop where
  behind : ∀ p ∈ f.inHand.toList ++ f.socket, p.fromDNS = false
  dropped : ∀ p ∈ f.dropped, p.fromDNS = false
  conserved : f.delivered ++ (f.packets.filter Packet.fromDNS ++ waiting).map Packet.handed = answers
  sends : f.sending = sending

section
variable {waiting answers : List Packet} {b : Bool} {f : Flow σ}

theorem natRead_holds (h : HoldsAnswers waiting answers b f) :
    HoldsAnswers waiting answers b (f.natRead vpnDNSDest) := by
  rcases natRead_cases vpnDNSDest f with he | ⟨p, rest, hp, hread⟩
  · rw [he]
    exact h
  have hcons := h.conserved
  rw [hp] at hcons
  rcases hread with ⟨ht, he⟩ | ⟨ht, he⟩
  · rw [List.filter_cons_of_pos (show p.fromDNS = true from decide_eq_true ht)] at hcons
    rw [he]
    refine ⟨h.behind, h.dropped, ?_, h.sends⟩
    show (f.delivered ++ [p.handed]) ++ (rest.filter Packet.fromDNS ++ waiting).map Packet.handed = _
    rw [List.append_assoc]
    exact hcons
  · rw [List.filter_cons_of_neg (by simpa [Packet.fromDNS] using ht)] at hcons
    rw [he]
    refine ⟨h.behind, fun q hq => ?_, hcons, h.sends⟩
    rcases List.mem_append.mp hq with hq | hq
    · exact h.dropped q hq
    · rw [List.mem_singleton.mp hq]
      exact decide_eq_false ht

theorem pumpRead_holds (h : HoldsAnswers waiting answers b f) :
    HoldsAnswers waiting answers b f.pumpRead := by
  rcases pumpRead_cases f with he | ⟨p, rest, hh, hs, he⟩
  · rw [he]
    exact h
  · have hb := h.behind
    rw [hh, hs] at hb
    rw [he]
    exact ⟨hb, h.dropped, h.conserved, h.sends⟩

/-- what the pump brings is not from the VPN's server -/
theorem pumpPut_holds (h : HoldsAnswers waiting answers b f) :
    HoldsAnswers waiting answers b f.pumpPut := by
  rcases pumpPut_cases f with he | ⟨p, hh, he⟩
  · rw [he]
    exact h
  · have hb := h.behind
    rw [hh] at hb
    rw [he]
    refine ⟨fun q hq => hb q (List.mem_cons_of_mem _ hq), h.dropped, ?_, h.sends⟩
    show f.delivered ++ ((f.packets ++ [p]).filter Packet.fromDNS ++ waiting).map Packet.handed = _
    rw [List.filter_append, List.filter_cons_of_neg (Bool.eq_false_iff.mp (hb p List.mem_cons_self)),
      List.filter_nil, List.append_nil]
    exact h.conserved

/-- the packets of the network are not from the VPN's server -/
def Foreign : HijackEvent σ → Prop
  | .flow (.receive p) => p.addr.text ≠ vpnDNSDest.text
  | _ => True

theorem receive_holds {p : Packet} (hp : p.addr.text ≠ vpnDNSDest.text)
    (h : HoldsAnswers waiting answers b f) :
    HoldsAnswers waiting answers b (FlowEvent.step env vpnDNSDest (.receive p) f) := by
  show HoldsAnswers _ _ _ (if f.closed then f else _)
  split_ifs
  · exact h
  · refine ⟨fun q hq => ?_, h.dropped, h.conserved, h.sends⟩
    rw [← List.append_assoc] at hq
    rcases List.mem_append.mp hq with hq | hq
    · exact h.behind q hq
    · rw [List.mem_singleton.mp hq]
      exact decide_eq_false hp

end

/-! ## what the steps keep -/

def Hijack.waiting (s : Hijack σ τ) : List Packet :=
  match s.pending with
  | some (_, .ok resp) => [answerPacket resp]
  | _ => []

/-- no query has failed so far -/
def Hijack.open (s : Hijack σ τ) : Bool :=
  s.flow.sending && (match s.pending with | some (_, .error _) => false | _ => true)

/-- the answers, as the app reads them -/
def answersRead (resps : List Bytes) : List Packet := resps.map fun r => (answerPacket r).handed

structure Hijack.Answered (s0 : τ) (resps : List Bytes) (s : Hijack σ τ) : Prop where
  answers : answerAll answer 0 s.asked s0 = (.ok resps, s.state)
  all : s.open = true → resps.length = s.asked.length
  sending : s.pending ≠ none → s.flow.sending = true
  holds : HoldsAnswers s.waiting (answersRead resps) s.flow.sending s.flow

variable {env} {answer} {s0 : τ} {s : Hijack σ τ} {resps : List Bytes}

theorem query_answered (b : Bytes) (h : s.Answered answer s0 resps) :
    ∃ resps', (s.query answer b).Answered answer s0 resps' := by
  unfold Hijack.query
  by_cases hi : s.idle = true
  · rw [if_pos hi]
    obtain ⟨⟨hsend, hnone⟩, -⟩ : (s.flow.sending = true ∧ s.pending.isNone = true) ∧ _ := by
      simpa [Hijack.idle] using hi
    have hpend : s.pending = none := Option.isNone_iff_eq_none.mp hnone
    have hlen : resps.length = s.asked.length := h.all (by simp [Hijack.open, hsend, hpend])
    have hcar := h.holds
    rw [show s.waiting = [] by unfold Hijack.waiting; rw [hpend]] at hcar
    have hsnoc := answerAll_snoc b h.answers hlen
    rw [Nat.zero_add] at hsnoc
    rcases ha : answer s.asked.length b s.state with ⟨r, t⟩
    cases r with
    | panic => exact ⟨resps, h.answers, h.all, h.sending, h.holds⟩
    | err e =>
      rw [run_bind_ok (answerAll_cons_err ha)] at hsnoc
      refine ⟨resps, ?_, fun ho => ?_, fun _ => hsend, hcar⟩
      · rw [hsnoc, List.append_nil]
        rfl
      · simp [Hijack.open] at ho
    | ok resp =>
      have hone : answerAll answer s.asked.length [b] s.state = (.ok [resp], t) := by
        rw [answerAll_cons_ok ha]
        rfl
      rw [run_bind_ok hone] at hsnoc
      refine ⟨resps ++ [resp], hsnoc, fun ho => ?_, fun _ => hsend, hcar.behind, hcar.dropped, ?_, rfl⟩
      · show (resps ++ [resp]).length = (s.asked ++ [b]).length
        rw [List.length_append, List.length_append, hlen]
        rfl
      · have hcons := hcar.conserved
        rw [List.append_nil] at hcons
        show s.flow.delivered ++
          (s.flow.packets.filter Packet.fromDNS ++ [answerPacket resp]).map Packet.handed = _
        unfold answersRead at hcons ⊢
        rw [List.map_append, ← List.append_assoc, hcons, List.map_append]
        rfl
  · rw [if_neg hi]
    exact ⟨resps, h⟩

theorem reply_answered (env : Env σ) (h : s.Answered answer s0 resps) : (s.reply env).Answered answer s0 resps := by
  unfold Hijack.reply
  cases hp : s.pending with
  | none => exact h
  | some p =>
    obtain ⟨b, result⟩ := p
    dsimp only
    by_cases hclosed : s.flow.sending = false ∨ s.flow.closed = true
    · rw [if_pos hclosed]
      exact h
    rw [if_neg hclosed]
    by_cases hfull : result.isOk ∧ queueSize ≤ s.flow.packets.length
    · rw [if_pos hfull]
      exact h
    rw [if_neg hfull]
    have hcar := h.holds
    unfold Hijack.waiting at hcar
    rw [hp] at hcar
    unfold Flow.send
    rw [if_neg hclosed, if_pos vpnDNSDest_hijacked]
    cases result with
    | error e =>
      exact ⟨h.answers, fun ho => by simp [Hijack.open] at ho, fun hn => absurd rfl hn,
        hcar.behind, hcar.dropped, hcar.conserved, rfl⟩
    | ok resp =>
      have hroom : s.flow.packets.length < queueSize := by
        by_contra hle
        exact hfull ⟨rfl, Nat.not_lt.mp hle⟩
      have hsend : s.flow.sending = true := h.sending (by rw [hp]; exact Option.some_ne_none _)
      dsimp only
      rw [if_pos hroom]
      refine ⟨h.answers, fun ho => h.all ?_, fun hn => absurd rfl hn, hcar.behind, hcar.dropped, ?_, rfl⟩
      · simp [Hijack.open, hp, hsend]
      · show s.flow.delivered ++
          ((s.flow.packets ++ [answerPacket resp]).filter Packet.fromDNS ++ []).map Packet.handed = _
        rw [List.filter_append, List.append_nil,
          List.filter_cons_of_pos (show (answerPacket resp).fromDNS = true from
            decide_eq_true vpnDNSDest_text)]
        exact hcar.conserved

theorem flow_answered {f : Flow σ} (hf : HoldsAnswers s.waiting (answersRead resps) s.flow.sending f)
    (h : s.Answered answer s0 resps) : Hijack.Answered answer s0 resps { s with flow := f } := by
  refine ⟨h.answers, fun ho => h.all ?_, fun hp => hf.sends.trans (h.sending hp), ?_⟩
  · unfold Hijack.open at ho ⊢
    rw [← hf.sends]
    exact ho
  · exact ⟨hf.behind, hf.dropped, hf.conserved, rfl⟩

variable (env) (answer)

theorem step_answered (s0 : τ) (e : HijackEvent σ) (s : Hijack σ τ) (he : Foreign e)
    (hs : ∃ resps, s.Answered answer s0 resps) :
    ∃ resps, (e.step env answer s).Answered answer s0 resps := by
  unfold HijackEvent.step
  split_ifs
  · exact hs
  obtain ⟨resps, h⟩ := hs
  have hc := h.holds
  cases e with
  | query b => exact query_answered b h
  | reply => exact ⟨resps, reply_answered env h⟩
  | flow e =>
    refine ⟨resps, ?_⟩
    cases e with
    | send b result => exact h
    | receive p => exact flow_answered (receive_holds env he hc) h
    | pumpRead => exact flow_answered (pumpRead_holds hc) h
    | pumpPut => exact flow_answered (pumpPut_holds hc) h
    | read => exact flow_answered (natRead_holds hc) h
    | pumpFail | readTimeout | close | others routing resolve =>
      exact flow_answered ⟨hc.behind, hc.dropped, hc.conserved, rfl⟩ h

theorem hijack_run (w : World σ) (s0 : τ) (es : List (HijackEvent σ)) (hes : ∀ e ∈ es, Foreign e) :
    ∃ resps, (runAll (HijackEvent.step env answer) es (newHijack w s0)).Answered answer s0 resps :=
  runAll_invariant_of (step_answered env answer s0) hes
    ⟨[], rfl, fun _ => rfl, fun _ => rfl, (fun p hp => nomatch hp), (fun p hp => nomatch hp), rfl, rfl⟩

/-! ## to the app -/

/-- the queue is read until it is empty, the answer that waits is put into it and read -/
def drain (n : Nat) : List (HijackEvent σ) :=
  (turns n).map .flow ++ [.reply] ++ (turns 1).map .flow

theorem run_turn {s : Hijack σ τ} (hc : s.crashed = false) :
    runAll (HijackEvent.step env answer) (turn.map .flow) s
      = { s with flow := runAll (FlowEvent.step env vpnDNSDest) turn s.flow } := by
  simp only [turn, List.map_cons, List.map_nil, runAll_cons, runAll_nil, HijackEvent.step,
    HijackEvent.act, hc, Bool.false_eq_true, if_false]

theorem run_turns (n : Nat) : ∀ {s : Hijack σ τ}, s.crashed = false →
    runAll (HijackEvent.step env answer) ((turns n).map .flow) s
      = { s with flow := runAll (FlowEvent.step env vpnDNSDest) (turns n) s.flow } := by
  induction n with
  | zero => exact fun _ => rfl
  | succ n ih =>
    intro s hc
    rw [turns_succ, List.map_append, runAll_append, runAll_append, run_turn env answer hc]
    refine ih ?_
    exact hc

variable {answer}

theorem turns_answered (n : Nat) (hc : s.crashed = false) (h : s.Answered answer s0 resps) :
    (runAll (HijackEvent.step env answer) ((turns n).map .flow) s).Answered answer s0 resps := by
  rw [run_turns env answer n hc]
  exact flow_answered (turns_invariant env
    (I := HoldsAnswers s.waiting (answersRead resps) s.flow.sending) natRead_holds pumpPut_holds
    pumpRead_holds n h.holds) h

theorem reply_crashed (s : Hijack σ τ) : (s.reply env).crashed = s.crashed := by
  unfold Hijack.reply
  split
  · rfl
  · split_ifs <;> rfl

theorem load_of_transit {f : Flow σ} (h : f.transit = []) : f.load = 0 := by
  unfold Flow.transit at h
  rw [List.append_eq_nil_iff, List.append_eq_nil_iff] at h
  unfold Flow.load
  rw [h.1.1, h.1.2, h.2]
  rfl

theorem reply_drained (h : s.Answered answer s0 resps) (hl : s.flow.Live) (ht : s.flow.transit = []) :
    (s.reply env).waiting = [] ∧ (s.reply env).flow.Live ∧ (s.reply env).flow.load ≤ 1 := by
  have h0 := load_of_transit ht
  unfold Hijack.reply
  cases hp : s.pending with
  | none =>
    refine ⟨?_, hl, h0 ▸ Nat.zero_le 1⟩
    unfold Hijack.waiting
    rw [hp]
  | some p =>
    obtain ⟨b, result⟩ := p
    have hsend : s.flow.sending = true := h.sending (by rw [hp]; exact Option.some_ne_none _)
    have hopen : ¬ (s.flow.sending = false ∨ s.flow.closed = true) := by simp [hsend, hl.opened]
    have hempty : s.flow.packets = [] := by
      unfold Flow.load at h0
      exact List.eq_nil_of_length_eq_zero (by omega)
    dsimp only
    rw [if_neg hopen, if_neg (by rw [hempty]; exact fun hf => absurd hf.2 (by decide))]
    unfold Flow.send
    rw [if_neg hopen, if_pos vpnDNSDest_hijacked]
    cases result with
    | error e => exact ⟨rfl, ⟨hl.reading, hl.pumping, hl.opened⟩, h0 ▸ Nat.zero_le 1⟩
    | ok resp =>
      dsimp only
      rw [if_pos (by rw [hempty]; decide)]
      refine ⟨rfl, ⟨hl.reading, hl.pumping, hl.opened⟩, ?_⟩
      unfold Flow.load at h0 ⊢
      rw [hempty] at h0 ⊢
      simp only [List.nil_append, List.length_singleton, List.length_nil] at h0 ⊢
      omega

/-- while the copiers and the pump go on, the app gets every answer -/
theorem drain_delivers (h : s.Answered answer s0 resps) (hl : s.flow.Live) (hc : s.crashed = false)
    {n : Nat} (hn : s.flow.load ≤ n) :
    (runAll (HijackEvent.step env answer) (drain n) s).flow.delivered = answersRead resps := by
  obtain ⟨hl1, -, ht1⟩ := turns_empty env vpnDNSDest n hl hn
  have h1 := turns_answered env n hc h
  rw [run_turns env answer n hc] at h1
  obtain ⟨hwait, hl2, hload2⟩ := reply_drained env h1 hl1 ht1
  obtain ⟨-, -, ht3⟩ := turns_empty env vpnDNSDest 1 hl2 hload2
  have hc2 : (Hijack.reply env { s with
      flow := runAll (FlowEvent.step env vpnDNSDest) (turns n) s.flow }).crashed = false :=
    (reply_crashed env _).trans hc
  have h3 := turns_answered env 1 hc2 (reply_answered env h1)
  have hpackets := (List.append_eq_nil_iff.mp (List.append_eq_nil_iff.mp ht3).1).1
  have hcons := h3.holds.conserved
  rw [run_turns env answer 1 hc2] at hcons
  unfold Hijack.waiting at hcons hwait
  rw [hpackets, hwait] at hcons
  unfold drain
  rw [runAll_append, runAll_append, run_turns env answer n hc, ← hcons]
  have hreply : ∀ t : Hijack σ τ, t.crashed = false →
      runAll (HijackEvent.step env answer) [.reply] t = t.reply env :=
    fun t ht => if_neg (Bool.eq_false_iff.mp ht)
  rw [hreply, run_turns env answer 1 hc2]
  · exact (List.append_nil _).symm
  · exact hc

end

theorem queriesOf_frames {qs : List Bytes} (hq : ∀ q ∈ qs, q ≠ [] ∧ q.length < 65536) :
    queriesOf (frames qs) = qs := by
  unfold queriesOf
  rw [← List.append_nil (frames qs), unframe_frames (fun q h => (hq q h).2) rfl]
  exact List.takeWhile_eq_self_iff.mpr fun q h => by simpa using (hq q h).1

/-- **Queries of UDP get the answers that they would get over TCP.**  In every order of the steps of
the flow, among packets of other senders: what was asked has been answered, up to a query that fails;
the answers are with the app, in the queue or waiting for room in it, in the order of the queries and
each once; while the copiers and the pump go on, the app gets all of them; and a TCP connection with
the same queries is served the same answers and leaves the same state. -/
theorem dns_paths_agree {σ : Type} (env : Env σ) (dnsCacheTTL : Int) (wire : DnsWire)
    (around : Nat → QueryAround) (w : World σ) (s0 : DnsState) (es : List (HijackEvent σ))
    (hes : ∀ e ∈ es, Foreign e) (s : Hijack σ DnsState)
    (hs : s = runAll (HijackEvent.step env (answerAt env dnsCacheTTL wire around)) es
      (newHijack w s0)) :
    ∃ resps, answerAll (answerAt env dnsCacheTTL wire around) 0 s.asked s0 = (.ok resps, s.state) ∧
      (∀ p ∈ s.flow.dropped, p.fromDNS = false) ∧
      s.flow.delivered ++ (s.flow.packets.filter Packet.fromDNS ++ s.waiting).map Packet.handed
        = answersRead resps ∧
      (s.flow.Live → s.crashed = false → ∀ n, s.flow.load ≤ n →
        (runAll (HijackEvent.step env (answerAt env dnsCacheTTL wire around)) (drain n) s).flow.delivered
          = answersRead resps) ∧
      ((∀ q ∈ s.asked, q ≠ [] ∧ q.length < 65536) → ∀ c : DnsTcpConn DnsState, c.state = s0 →
        c.sent = [] → (∀ i, c.writeFails i = none) → c.input.rest = frames s.asked →
        ∃ e c', serveLocalDNSTCP (answerAt env dnsCacheTTL wire around) c = (.ok (some e), c') ∧
          c'.state = s.state ∧ c'.sent = resps.map frame) := by
  obtain ⟨resps, h⟩ := hijack_run env (answerAt env dnsCacheTTL wire around) w s0 es hes
  rw [← hs] at h
  refine ⟨resps, h.answers, h.holds.dropped, h.holds.conserved,
    fun hl hc n hn => drain_delivers env h hl hc hn, fun hq c hst hsent hw hin => ?_⟩
  have hans : answerAll (answerAt env dnsCacheTTL wire around) c.sent.length
      (queriesOf c.input.rest) c.state = (.ok resps, s.state) := by
    rw [hin, queriesOf_frames hq, hsent, hst]
    exact h.answers
  obtain ⟨e, c', hserve, hst', hs'⟩ := serveLocalDNSTCP_run hw hans
  exact ⟨e, c', hserve, hst', by rw [hs', hsent]; rfl⟩

/-- two queries, the second of them answered and not in the queue yet, and a packet of another host -/
def twoQueries : List (HijackEvent Unit) :=
  [.query (List.replicate 12 5), .flow (.receive ⟨[9], ⟨[192, 0, 2, 7], 443, []⟩⟩), .flow .pumpRead,
    .flow .pumpPut, .reply, .query (List.replicate 13 6)]

theorem dns_paths_agree_two :
    (runAll (HijackEvent.step (oneRuleEnv {} {}) (answerAt (oneRuleEnv {} {}) 0 lengthWire fun _ => echoed))
      (twoQueries ++ drain 2) (newHijack { routing := () } {})).flow.delivered
      = [answerPacket (List.replicate 12 1), answerPacket (List.replicate 13 1)] ∧
    ∃ e c', serveLocalDNSTCP (answerAt (oneRuleEnv {} {}) 0 lengthWire fun _ => echoed)
        { state := {}, input := { segs := [frames [List.replicate 12 5], frames [List.replicate 13 6]] } }
          = (.ok (some e), c') ∧
      c'.sent = [frame (List.replicate 12 1), frame (List.replicate 13 1)] := by
  have hrun : ∀ s0, runAll (HijackEvent.step (oneRuleEnv {} {})
      (answerAt (oneRuleEnv {} {}) 0 lengthWire fun _ => echoed)) twoQueries
      (newHijack { routing := () } s0)
      = { flow := { world := { routing := () },
                    packets := [⟨[9], ⟨[192, 0, 2, 7], 443, []⟩⟩, answerPacket (List.replicate 12 1)],
                    received := [⟨[9], ⟨[192, 0, 2, 7], 443, []⟩⟩] },
          state := s0, asked := [List.replicate 12 5, List.replicate 13 6],
          pending := some (List.replicate 13 6, .ok (List.replicate 13 1)) } := fun s0 => rfl
  have hall : ∀ s0, answerAll (answerAt (oneRuleEnv {} {}) 0 lengthWire fun _ => echoed) 0
      [List.replicate 12 5, List.replicate 13 6] s0
      = (.ok [List.replicate 12 1, List.replicate 13 1], s0) := fun s0 => rfl
  have hforeign : ∀ e ∈ twoQueries, Foreign e := by
    simp only [twoQueries, List.forall_mem_cons, Foreign]
    exact ⟨trivial, by decide +kernel, trivial, trivial, trivial, trivial, fun _ h => nomatch h⟩
  obtain ⟨resps, hans, -, -, hdrain, htcp⟩ := dns_paths_agree (oneRuleEnv {} {}) 0 lengthWire
    (fun _ => echoed) { routing := () } {} twoQueries hforeign _ rfl
  rw [hrun {}] at hans hdrain htcp
  have hresps : resps = [List.replicate 12 1, List.replicate 13 1] :=
    (Res.ok.inj (congrArg Prod.fst ((hall {}).symm.trans hans))).symm
  obtain ⟨e, c', hserve, -, hsent⟩ := htcp (by decide)
    { state := {}, input := { segs := [frames [List.replicate 12 5], frames [List.replicate 13 6]] } }
    rfl rfl (fun i => rfl) rfl
  refine ⟨?_, e, c', hserve, by rw [hsent, hresps]; rfl⟩
  rw [runAll_append, hrun {}, hdrain ⟨rfl, rfl, rfl⟩ rfl 2 (by decide), hresps]
  rfl

end Bill
