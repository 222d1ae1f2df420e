import BillVpn.Front.FrontEnds
import BillVpn.Go.NetipText

/-!
# Blocked destinations

Blocking is encoded twice: a `Verdict` may be `blocked` (with a zeroed policy), or carry a policy
of mode `block` without the flag.  The second happens when a domain rule sets no mode, the default
policy blocks, and no rule for the address was merged (`unflagged_block`).

* `Quiet`                   a procedure that contacts nobody, with a rule for each construct;
* `forbids_cases`           the two encodings, and that they exclude each other;
* `frontEnds_blocked_iff`   **which entrance keeps quiet on which encoding.**
-/

set_option linter.unusedVariables false

namespace Bill
open Go Proc

/-! ## quiet procedures -/

section
variable {σ α β : Type}

/-- `x` contacts nobody -/
abbrev Quiet (x : Proc (World σ) α) : Prop := Keeps (·.contacts) x

theorem Quiet.writeReply (r : Reply) : Quiet (writeReply r : Proc (World σ) Unit) := by
  intro w
  unfold Bill.writeReply
  cases w.replyFails w.replies.length <;> rfl

theorem Quiet.reply (r : Reply) : Quiet (reply r : Proc (World σ) Unit) :=
  (Quiet.writeReply r).attempt.bind fun _ => Keeps.pure ()

theorem Quiet.writeHeader (status : Int) (r : Reply) :
    Quiet (writeHeader status r : Proc (World σ) Unit) := by
  refine Keeps.ite (Keeps.lift _) (Keeps.ite ?_ (Quiet.reply r))
  exact (Quiet.reply r).bind fun _ => Quiet.reply _

theorem Quiet.readN (n : Nat) : Quiet (readN n : Proc (World σ) Bytes) := by
  intro w
  unfold Bill.readN
  split_ifs <;> rfl

theorem Quiet.readSocksAddr (atyp : UInt8) : Quiet (readSocksAddr atyp : Proc (World σ) Bytes) := by
  unfold Bill.readSocksAddr
  refine Keeps.ite ?_ (Keeps.ite ?_ (Keeps.ite ?_ ?_))
  · exact (Quiet.readN 4).bind fun _ => Keeps.pure _
  · exact (Quiet.readN 16).bind fun _ => Keeps.pure _
  · exact (Quiet.readN 1).bind fun _ => Quiet.readN _
  · exact (Quiet.reply _).bind fun _ => Keeps.fail _

theorem Quiet.negotiate : Quiet (negotiate : Proc (World σ) Unit) := by
  unfold Bill.negotiate
  refine (Quiet.readN 2).bind fun header => Keeps.ite (Keeps.fail _) ?_
  refine (Quiet.readN _).bind fun methods => (Quiet.writeReply _).bind fun _ => ?_
  exact Keeps.ite (Keeps.fail _) (Keeps.pure ())

theorem Quiet.readSocksRequest : Quiet (readSocksRequest : Proc (World σ) SocksRequest) := by
  unfold Bill.readSocksRequest
  refine (Quiet.readN 4).bind fun header => Keeps.ite (Keeps.fail _) (Keeps.ite ?_ ?_)
  · exact (Quiet.reply _).bind fun _ => Keeps.fail _
  · refine (Quiet.readSocksAddr _).bind fun host => (Quiet.readN 2).bind fun port => ?_
    exact Keeps.ite (Keeps.pure _) (Keeps.pure _)

/-! ## the two encodings -/

variable {env : Env σ}

/-- a destination that must not be contacted -/
def Forbids (v : Verdict) : Prop := v.blocked = true ∨ v.policy.mode = .block

theorem forbids_cases {host : Bytes} {v : Verdict} (ho : Outcome env host v) (hf : Forbids v) :
    v.failed = false ∧
      (v.blocked = true ∧ v.policy = {} ∧ v.dstHost = [] ∨
        v.blocked = false ∧ v.policy.mode = .block) := by
  cases ho with
  | failed md => rcases hf with h | h <;> cases h
  | blocked md mi => exact ⟨rfl, Or.inl ⟨rfl, rfl, rfl⟩⟩
  | planned dst md mi happ hun =>
    refine ⟨rfl, Or.inr ⟨rfl, ?_⟩⟩
    rcases hf with h | h
    · cases h
    · exact h

/-- a block without the flag: a domain rule that sets no mode, under a default policy that blocks -/
theorem unflagged_block {host : Bytes} {v : Verdict} (ho : Outcome env host v)
    (hb : v.blocked = false) (hm : v.policy.mode = .block) :
    ∃ d, (routeDomain env host).domainPolicy = some d ∧ d.mode = .unknown ∧
      env.defaultPolicy.mode = .block := by
  cases ho with
  | failed md => cases hm
  | blocked md mi => cases hb
  | @planned ps dst md mi happ hun =>
    obtain ⟨hps, hblk⟩ := hun hm
    have hmode := merge_mode_eq (by decide) hm
    rw [hps] at hmode
    rcases routeDomain_cases env host with ⟨d, -, hr⟩ | hr | hr <;> rw [hr] at hmode
    · rw [hr] at hblk ⊢
      have hne : d.mode ≠ .block := fun he => hblk (congrArg some he)
      refine ⟨d, rfl, ?_⟩
      by_cases hu : d.mode = .unknown
      · refine ⟨hu, ?_⟩
        rw [List.map_cons, hu, firstSet_cons_unset] at hmode
        have hmem := firstSet_mem (u := Mode.unknown) (l := [env.defaultPolicy.mode])
          (by rw [show firstSet _ [env.defaultPolicy.mode] = _ from hmode]; decide)
        rw [show firstSet _ [env.defaultPolicy.mode] = _ from hmode] at hmem
        exact (List.mem_singleton.mp hmem).symm
      · rw [List.map_cons, firstSet_cons_set hu] at hmode
        exact absurd hmode hne
    -- the two fallbacks set a mode of their own
    · rw [List.map_cons, firstSet_cons_set (by decide)] at hmode
      cases hmode
    · rw [List.map_cons, firstSet_cons_set (by decide)] at hmode
      cases hmode

theorem planVerdict_outcome {req : RequestContext} {s s' : σ} {d : Bytes} {v : Verdict}
    (h : planVerdict env req s = (.ok (d, v), s')) : ∃ host, Outcome env host v := by
  obtain ⟨d', s1, -, h⟩ := run_bind_eq_ok.mp h
  obtain ⟨v', s2, hv, h⟩ := run_bind_eq_ok.mp h
  cases h
  exact ⟨_, genPolicy_outcome hv⟩

theorem planRequest_run {req : RequestContext} {s s' : σ} {d : Bytes} {v : Verdict}
    (hne : req.host ≠ []) (h : planVerdict env req s = (.ok (d, v), s')) (hf : v.failed = false) :
    planRequest env req s = (.ok (planOf req d v), s') := by
  unfold planRequest
  rw [if_neg hne, run_bind_ok h]
  dsimp only
  rw [if_neg (by rw [hf]; simp)]
  rfl

/-- what a front end gets from the planner for a forbidden destination: an error for an empty host,
and otherwise a plan with one of the two encodings -/
theorem plan_forbidden {req : RequestContext} {w : World σ} {s' : σ} {d : Bytes} {v : Verdict}
    (h : planVerdict env req w.routing = (.ok (d, v), s')) (hf : Forbids v) (hne : req.host ≠ []) :
    onRouting (planRequest env req) w = (.ok (planOf req d v), { w with routing := s' }) := by
  obtain ⟨host, ho⟩ := planVerdict_outcome h
  exact zoom_eq (planRequest_run hne h (forbids_cases ho hf).1)

theorem plan_empty {req : RequestContext} {w : World σ} (hne : req.host = []) :
    onRouting (planRequest env req) w = (.err "request host is empty", w) := by
  refine zoom_eq ?_
  unfold planRequest
  rw [if_pos hne]
  rfl

/-! ## the desktop entrances -/

theorem socks5Dial_quiet {atyp : UInt8} {plan : DialPlan}
    (h : plan.blocked = true ∨ plan.policy.mode = .block) :
    Quiet (socks5Dial atyp plan : Proc (World σ) Unit) := by
  unfold socks5Dial
  by_cases hb : plan.blocked = true
  · rw [if_pos hb]; exact Quiet.reply _
  · rw [if_neg hb, if_pos (h.resolve_left hb)]; exact Quiet.reply _

theorem connectDial_quiet {hijack : Except String Unit} {plan : DialPlan}
    (h : plan.blocked = true ∨ plan.policy.mode = .block) :
    Quiet (connectDial hijack plan : Proc (World σ) Unit) := by
  unfold connectDial
  by_cases hb : plan.blocked = true
  · rw [if_pos hb]; exact Quiet.reply _
  · rw [if_neg hb, if_pos (h.resolve_left hb)]; exact Quiet.reply _

theorem plan_then_quiet {req : RequestContext} {w : World σ} {s' : σ} {d : Bytes} {v : Verdict}
    (h : planVerdict env req w.routing = (.ok (d, v), s')) (hf : Forbids v)
    {k : Except String DialPlan → Proc (World σ) Unit} (herr : ∀ e, Quiet (k (.error e)))
    (hok : Quiet (k (.ok (planOf req d v)))) :
    ((attempt (onRouting (planRequest env req)) >>= k) w).2.contacts = w.contacts := by
  by_cases hne : req.host = []
  · rw [run_bind_ok (attempt_err (plan_empty hne))]
    exact herr _ w
  · rw [run_bind_ok (attempt_ok (plan_forbidden h hf hne))]
    exact hok _

theorem socks5_quiet {atyp : UInt8} {host : Bytes} {port : Nat} {w w1 w2 : World σ} {s' : σ}
    {d : Bytes} {v : Verdict} (hneg : negotiate w = (.ok (), w1))
    (hreq : readSocksRequest w1 = (.ok (.connect atyp host port), w2))
    (h : planVerdict env (socksContext host port) w2.routing = (.ok (d, v), s'))
    (hf : Forbids v) : (socks5Handler env w).2.contacts = w.contacts := by
  have h1 : w1.contacts = w.contacts := by
    have := Quiet.negotiate w
    rwa [hneg] at this
  have h2 : w2.contacts = w1.contacts := by
    have := Quiet.readSocksRequest w1
    rwa [hreq] at this
  unfold socks5Handler
  rw [run_bind_ok hneg, run_bind_ok hreq]
  refine Eq.trans (plan_then_quiet h hf ?_ (socks5Dial_quiet hf)) (h2.trans h1)
  intro e
  exact Quiet.reply _

theorem connect_quiet {hijack : Except String Unit} {reqHost originHost dstPort : Bytes} {port : Int}
    {w : World σ} {s' : σ} {d : Bytes} {v : Verdict}
    (hsplit : splitHostPort reqHost = some (originHost, dstPort)) (hport : atoi dstPort = some port)
    (h : planVerdict env (connectContext originHost port) w.routing = (.ok (d, v), s'))
    (hf : Forbids v) : (handleConnect env hijack reqHost w).2.contacts = w.contacts := by
  unfold handleConnect
  by_cases hr : reqHost = []
  · rw [if_pos hr]; exact Quiet.reply _ w
  rw [if_neg hr, hsplit]
  dsimp only
  rw [hport]
  refine plan_then_quiet h hf ?_ (connectDial_quiet hf)
  intro e
  exact Quiet.reply _

/-- the forward proxy contacts the empty host of a blocked plan, if the transport takes the request -/
theorem forward_quiet_iff {req : HttpRequest} {host originHost portText : Bytes} {port : Int}
    {w : World σ} {s' : σ} {d : Bytes} {v : Verdict}
    (htarget : forwardTarget req = some (host, originHost, portText)) (hport : atoi portText = some port)
    (hne : originHost ≠ [])
    (h : planVerdict env (forwardContext originHost port) w.routing = (.ok (d, v), s'))
    (hf : Forbids v) :
    (forwardHTTPRequest env req w).2.contacts = w.contacts ↔
      ¬ (v.blocked = true ∧ httpScheme req.scheme = true ∧ 0 < port) := by
  obtain ⟨hst, ho⟩ := planVerdict_outcome h
  unfold forwardHTTPRequest
  rw [htarget]
  dsimp only
  rw [hport]
  dsimp only
  rw [run_bind_ok (attempt_ok (plan_forbidden h hf hne))]
  dsimp only
  rcases (forbids_cases ho hf).2 with ⟨hb, hp, hd⟩ | ⟨hb, hm⟩
  · -- a zeroed policy: no status, no mode, an empty target host
    have haddr : (planOf (forwardContext originHost port) d v).targetAddress =
        if port ≤ 0 then [] else joinHostPort [] (itoaInt port) := by
      unfold DialPlan.targetAddress planOf forwardContext
      dsimp only
      rw [hp, hd]
      rfl
    have hrun : forwardDial req host (planOf (forwardContext originHost port) d v) =
        (roundTrip req.scheme (planOf (forwardContext originHost port) d v).targetAddress :
          Proc (World σ) Unit) := by
      unfold forwardDial
      rw [show (planOf (forwardContext originHost port) d v).policy = {} from hp]
      rfl
    rw [hrun, haddr]
    unfold roundTrip
    by_cases hc : httpScheme req.scheme = true ∧ 0 < port
    · have hj : joinHostPort [] (itoaInt port) ≠ [] := by simp [joinHostPort]
      rw [if_neg (show ¬ port ≤ 0 by omega), if_pos ⟨hc.1, hj⟩]
      exact ⟨fun hq => absurd hq (by simp [contact]), fun hq => absurd ⟨hb, hc⟩ hq⟩
    · have hno : ¬ (httpScheme req.scheme = true ∧
          (if port ≤ 0 then [] else joinHostPort [] (itoaInt port)) ≠ []) := by
        rintro ⟨hs, hp0⟩
        refine hc ⟨hs, ?_⟩
        by_contra hle
        exact hp0 (if_pos (by omega))
      rw [if_neg hno]
      exact ⟨fun _ hq => hc hq.2, fun _ => Quiet.reply _ _⟩
  · have hq : Quiet (forwardDial req host (planOf (forwardContext originHost port) d v) :
        Proc (World σ) Unit) := by
      unfold forwardDial
      dsimp only [planOf]
      rw [if_pos hm]
      exact Keeps.ite (Quiet.writeHeader _ _) (Quiet.reply _)
    rw [hb]
    exact ⟨fun _ => by simp, fun _ => hq _⟩

/-! ## the TUN device -/

theorem dialUpstream_contacts (addr : Bytes) (timeout : Int) (w : World σ) :
    (dialUpstream addr timeout w).2.contacts = w.contacts ++ [.dial addr timeout] := by
  unfold dialUpstream
  cases w.dialFails addr <;> rfl

theorem mobileDial_contacts {originHost : Bytes} {plan : DialPlan} {w : World σ}
    (hb : plan.blocked = false) : (mobileDial originHost plan w).2.contacts ≠ w.contacts := by
  have hd := dialUpstream_contacts plan.targetAddress (defaultDialTimeout plan.policy) w
  have hrest : Quiet (if plan.policy.mode = .ttld then
      (pure (.plain plan.targetAddress) : Proc (World σ) MobileConn) else
      pure (.policy plan.targetAddress plan)) := Keeps.ite (Keeps.pure _) (Keeps.pure _)
  have hall : (mobileDial originHost plan w).2.contacts =
      w.contacts ++ [.dial plan.targetAddress (defaultDialTimeout plan.policy)] := by
    unfold mobileDial
    rw [if_neg (by rw [hb]; simp), run_bind]
    rcases hr : dialUpstream plan.targetAddress (defaultDialTimeout plan.policy) w with ⟨r, w'⟩
    rw [hr] at hd
    cases r with
    | panic => exact hd
    | err e => exact hd
    | ok u => exact (hrest w').trans hd
  rw [hall]
  simp

theorem dialContext_quiet_iff {ip : Addr} {dstPort : Nat} {w : World σ} {s' : σ} {d : Bytes}
    {v : Verdict}
    (h : planVerdict env (mobileContext ip.text dstPort) w.routing = (.ok (d, v), s'))
    (hf : Forbids v) :
    (dialContext env (some ip) dstPort w).2.contacts = w.contacts ↔
      isVPNDNSAddress ip.text dstPort = true ∨ v.blocked = true := by
  unfold dialContext
  dsimp only
  by_cases hdns : isVPNDNSAddress ip.text dstPort = true
  · rw [if_pos hdns]
    exact ⟨fun _ => Or.inl hdns, fun _ => rfl⟩
  rw [if_neg hdns, run_bind_ok (plan_forbidden h hf (text_ne_nil ip))]
  by_cases hb : v.blocked = true
  · refine ⟨fun _ => Or.inr hb, fun _ => ?_⟩
    unfold mobileDial
    rw [if_pos (show (planOf (mobileContext ip.text dstPort) d v).blocked = true from hb)]
    rfl
  · have hb' : (planOf (mobileContext ip.text dstPort) d v).blocked = false := Bool.eq_false_iff.mpr hb
    exact ⟨fun hq => absurd hq (mobileDial_contacts hb'), fun hq => absurd hq (by simp [hdns, hb])⟩

theorem udpSend_contacts {b : Bytes} {plan : DialPlan} {w : World σ} {dst : UDPAddr}
    (hb : plan.blocked = false) (hr : w.resolveUDPAddr plan.targetAddress = .ok dst) :
    (udpSend b plan w).2.contacts ≠ w.contacts := by
  have hall : (udpSend b plan w).2.contacts = w.contacts ++ [.datagram b dst] := by
    unfold udpSend
    rw [if_neg (by rw [hb]; simp), run_bind_ok (run_get w), hr]
    rfl
  rw [hall]
  simp

theorem handleDNSPacket_contacts (b : Bytes) (w : World σ) :
    (handleDNSPacket b w).2.contacts =
      w.contacts ++ if (w.unpackDNS b).isOk = true then [.dnsQuery b] else [] := by
  unfold handleDNSPacket
  rw [run_bind_ok (run_get w)]
  cases w.unpackDNS b with
  | error e => exact (List.append_nil _).symm
  | ok req => rfl

theorem writeTo_quiet_iff {b : Bytes} {a : UDPAddr} {w : World σ} {s' : σ} {d : Bytes} {v : Verdict}
    (hip : udpDstIP (.udp a) a ≠ [])
    (h : planVerdict env (mobileContext (ipString (udpDstIP (.udp a) a)) a.port) w.routing =
      (.ok (d, v), s'))
    (hf : Forbids v) :
    (∀ r, (writeTo env b (.udp a) { w with resolveUDPAddr := r }).2.contacts = w.contacts) ↔
      if isVPNDNSAddress (ipString (udpDstIP (.udp a) a)) a.port = true then (w.unpackDNS b).isOk = false
      else v.blocked = true := by
  have hrun : ∀ r : Bytes → Except String UDPAddr,
      writeTo env b (.udp a) { w with resolveUDPAddr := r } =
        (if isVPNDNSAddress (ipString (udpDstIP (.udp a) a)) a.port then handleDNSPacket b
          else do
            let plan ← onRouting
              (planRequest env (mobileContext (ipString (udpDstIP (.udp a) a)) a.port))
            udpSend b plan : Proc (World σ) Nat) { w with resolveUDPAddr := r } := by
    intro r
    unfold writeTo toUDPAddr
    rw [run_bind_ok (run_pure _ _), if_neg hip]
  by_cases hdns : isVPNDNSAddress (ipString (udpDstIP (.udp a) a)) a.port = true
  · rw [if_pos hdns]
    refine ⟨fun hq => ?_, fun hq r => ?_⟩
    · have h0 := hq w.resolveUDPAddr
      rw [hrun, if_pos hdns, handleDNSPacket_contacts] at h0
      by_cases ha : (w.unpackDNS b).isOk = true
      · rw [if_pos ha] at h0
        exact absurd h0 (by simp)
      · simpa using ha
    · rw [hrun, if_pos hdns, handleDNSPacket_contacts, if_neg (by simp [hq]), List.append_nil]
  rw [if_neg hdns]
  have hplan : ∀ r : Bytes → Except String UDPAddr, onRouting
      (planRequest env (mobileContext (ipString (udpDstIP (.udp a) a)) a.port))
        ({ w with resolveUDPAddr := r } : World σ) = _ :=
    fun r => plan_forbidden (w := { w with resolveUDPAddr := r }) h hf (ipString_ne_nil hip)
  by_cases hb : v.blocked = true
  · refine ⟨fun _ => hb, fun _ r => ?_⟩
    rw [hrun, if_neg hdns, run_bind_ok (hplan r)]
    unfold udpSend
    rw [if_pos (show (planOf _ d v).blocked = true from hb)]
    rfl
  · have hb' : (planOf (mobileContext (ipString (udpDstIP (.udp a) a)) a.port) d v).blocked = false :=
      Bool.eq_false_iff.mpr hb
    refine ⟨fun hq => ?_, fun hq => absurd hq hb⟩
    have h0 := hq fun _ => .ok a
    rw [hrun, if_neg hdns, run_bind_ok (hplan _)] at h0
    exact absurd h0 (udpSend_contacts hb' rfl)

/-- **Which entrance keeps quiet.**  For a destination that the planner forbids, the two CONNECT
entrances never contact anyone.  The forward proxy keeps quiet exactly when the block is not the
flag of the plan (or its transport refuses the request); the TUN device exactly when it is (a query
for the VPN's own DNS address goes upstream if it unpacks). -/
theorem frontEnds_blocked_iff (env : Env σ) (w : World σ) :
    (∀ atyp host port w1 w2 d v s', negotiate w = (.ok (), w1) →
      readSocksRequest w1 = (.ok (.connect atyp host port), w2) →
      planVerdict env (socksContext host port) w2.routing = (.ok (d, v), s') → Forbids v →
      (socks5Handler env w).2.contacts = w.contacts) ∧
    (∀ hijack reqHost originHost dstPort port d v s',
      splitHostPort reqHost = some (originHost, dstPort) → atoi dstPort = some port →
      planVerdict env (connectContext originHost port) w.routing = (.ok (d, v), s') → Forbids v →
      (handleConnect env hijack reqHost w).2.contacts = w.contacts) ∧
    (∀ req host originHost portText port d v s',
      forwardTarget req = some (host, originHost, portText) → atoi portText = some port →
      originHost ≠ [] →
      planVerdict env (forwardContext originHost port) w.routing = (.ok (d, v), s') → Forbids v →
      ((forwardHTTPRequest env req w).2.contacts = w.contacts ↔
        ¬ (v.blocked = true ∧ httpScheme req.scheme = true ∧ 0 < port))) ∧
    (∀ (ip : Addr) (dstPort : Nat) d v s',
      planVerdict env (mobileContext ip.text dstPort) w.routing = (.ok (d, v), s') → Forbids v →
      ((dialContext env (some ip) dstPort w).2.contacts = w.contacts ↔
        isVPNDNSAddress ip.text dstPort = true ∨ v.blocked = true)) ∧
    (∀ b a d v s', udpDstIP (.udp a) a ≠ [] →
      planVerdict env (mobileContext (ipString (udpDstIP (.udp a) a)) a.port) w.routing =
        (.ok (d, v), s') → Forbids v →
      ((∀ r, (writeTo env b (.udp a) { w with resolveUDPAddr := r }).2.contacts = w.contacts) ↔
        if isVPNDNSAddress (ipString (udpDstIP (.udp a) a)) a.port = true then
          (w.unpackDNS b).isOk = false
        else v.blocked = true)) := by
  refine ⟨?_, ?_, ?_, ?_, ?_⟩
  · intro atyp host port w1 w2 d v s' hneg hreq h hf
    exact socks5_quiet hneg hreq h hf
  · intro hijack reqHost originHost dstPort port d v s' hsplit hport h hf
    exact connect_quiet hsplit hport h hf
  · intro req host originHost portText port d v s' htarget hport hne h hf
    exact forward_quiet_iff htarget hport hne h hf
  · intro ip dstPort d v s' h hf
    exact dialContext_quiet_iff h hf
  · intro b a d v s' hip h hf
    exact writeTo_quiet_iff hip h hf

end

/-! ## both encodings at work -/

theorem frontEnds_blocked_connect :
    (handleConnect (oneRuleEnv { mode := .block } {}) (.ok ()) (lit "blocked.example:443")
      { routing := () }).2.contacts = [] :=
  (frontEnds_blocked_iff (oneRuleEnv { mode := .block } {}) { routing := () }).2.1 (.ok ())
    (lit "blocked.example:443") (lit "blocked.example") (lit "443") 443 []
    { blocked := true, matchedDomain := true } () (by decide) (by decide) (by decide +kernel)
    (Or.inl rfl)

/-- The blocked name through the forward proxy goes to the empty host; a rule without a mode under a
blocking default is dialed, and sent datagrams, from the TUN device. -/
theorem frontEnds_contact_blocked :
    (planVerdict (oneRuleEnv { mode := .block } {}) (forwardContext (lit "blocked.example") 80) ()).1 =
      .ok ([], { blocked := true, matchedDomain := true }) ∧
    (forwardHTTPRequest (oneRuleEnv { mode := .block } {})
      { host := lit "blocked.example", scheme := lit "http" } { routing := () }).2.contacts =
      [.roundTrip (lit ":80")] ∧
    (planVerdict (oneRuleEnv {} { mode := .block }) (mobileContext (lit "198.18.0.1") 443) ()).1 =
      .ok (lit "blocked.example", ⟨lit "192.0.2.7", mergePolicies [{}, { mode := .block }],
        false, false, true, false⟩) ∧
    (mergePolicies [{}, { mode := .block }]).mode = .block ∧
    (dialContext (oneRuleEnv {} { mode := .block }) (parseAddr (lit "198.18.0.1")) 443
      { routing := () }).2.contacts = [.dial (lit "192.0.2.7:443") (10 * 10 ^ 9)] ∧
    (writeTo (oneRuleEnv {} { mode := .block }) [1] (.udp ⟨[198, 18, 0, 1], 443, []⟩)
      { routing := (), resolveUDPAddr := fun _ => .ok ⟨[192, 0, 2, 7], 443, []⟩ }).2.contacts =
      [.datagram [1] ⟨[192, 0, 2, 7], 443, []⟩] := by
  refine ⟨?_, ?_, ?_, ?_, ?_, ?_⟩ <;> decide +kernel

end Bill
