import BillVpn.Tls.Lossy
import BillVpn.Tunnel.Tunnel

/-!
# The state in which the relay starts

Between the first byte of the client and the copy loops the tunnel has read, and mostly forwarded, a
record or a request.

* `Forwarded`         what has been sent for the bytes that were read;
* `SoundStart`        there is an upstream connection, and nothing is lost;
* `Swallows`          a record that is accepted and not sent;
* `Unsound`           the first bytes and policies with which something goes wrong;
* `relay_sound_iff`   **the relay starts in a sound state, however the client's bytes arrive and
                      whatever fails, exactly outside these**;
* `relay_unsound`     a malformed request, and bytes of an unknown protocol.
-/

set_option linter.unusedVariables false

namespace Bill
open Go Res Proc Conn

section
variable (lib : HttpLib) (stream : Bytes)

/-- the sends that the first `n` bytes of the stream have become -/
inductive Forwarded : Nat → List Wire → Prop where
  | nothing : Forwarded 0 []
  | record {ws : List Wire} (ht : isTLS stream = true)
      (h : Conveys (stream.take (recordLen stream)) ws) : Forwarded (recordLen stream) ws
  | request {n k : Nat} {req : HttpRequest} {wire : Bytes} (ht : isTLS stream = false)
      (hr : lib.readRequest stream = (n, .ok req))
      (hw : lib.writeRequest req (stream.drop n) = .ok (wire, k)) : Forwarded (n + k) [.data wire]

/-- `sent` is what was sent upstream, and `rest` what can still be read from the client -/
structure SoundStart (dst : Bool) (sent : List Wire) (rest : Bytes) : Prop where
  dialed : dst = true
  whole : ∃ n, rest = stream.drop n ∧ Forwarded lib stream n sent

variable (env : TlsEnv) (p : Policy) (originHost : Bytes)

/-- the record is accepted, not refused, and has a name -/
structure Passes (record : Bytes) (h : Hello) : Prop where
  mode : p.mode ≠ .tlsAlert
  sends : TunnelSends env p originHost record h

/-- neither the mode nor its counts make a send of all of the record -/
def NotSent (record : Bytes) (h : Hello) : Prop :=
  p.mode ≠ .direct ∧ p.mode ≠ .ttld ∧ (p.mode = .tlsrf →
    Lossy p.numRecords p.numSegments (p.oob = .true) (p.oobEx = .true) ∧ NameInside record h)

/-- a complete record that fits into the buffer, passes, and is not sent -/
def Swallows : Prop :=
  recordLen stream ≤ Reader.bufSize ∧ recordLen stream ≤ stream.length ∧
    ∃ h, parseClientHello (stream.take (recordLen stream)) = .ok h ∧
      Passes env p originHost (stream.take (recordLen stream)) h ∧
      NotSent p (stream.take (recordLen stream)) h

/-- A record that is swallowed; a request that cannot be parsed, if that has taken bytes or there is
no connection; another protocol without a connection. -/
def Unsound (replyFirst : Bool) : Prop :=
  p.mode ≠ .raw ∧ 10 ≤ stream.length ∧
    if isTLS stream then Swallows stream env p originHost
    else if bytesHasPrefix (stream.take 10) httpMethods then
      (∃ n e, lib.readRequest stream = (n, .error e) ∧ (0 < n ∨ replyFirst = true))
    else replyFirst = true

end

/-! ## the first bytes -/

theorem isTLS_take {stream : Bytes} {n : Nat} (hn : 2 ≤ n) : isTLS (stream.take n) = isTLS stream := by
  unfold isTLS
  rw [List.take_take, Nat.min_eq_left hn]

theorem recordLen_take {stream : Bytes} {n : Nat} (hn : 5 ≤ n) (h : n ≤ stream.length) :
    recordLen (stream.take n) = recordLen stream := by
  have hsplit := recordLen_append (s := stream.take n) (by rw [List.length_take]; omega) (stream.drop n)
  rwa [List.take_append_drop, eq_comm] at hsplit

theorem five_le_recordLen (stream : Bytes) : 5 ≤ recordLen stream := Nat.le_add_right 5 _

/-! ## TLS -/

section
variable {env : TlsEnv} {p : Policy} {replyFirst : Bool} {originHost target record : Bytes} {h : Hello}
  {t t' : Tunnel}

theorem dialTimeout_dst (target : Bytes) (timeout : Int) (t : Tunnel) :
    (dialTimeout target timeout t).2.dst = t.dst := by
  unfold dialTimeout
  cases t.dialFails t.dials.length with
  | some e => rfl
  | none => rfl

theorem dialLate_dst {r : Res Unit} (hd : dialLate p replyFirst target t = (r, t')) : t'.dst = t.dst := by
  unfold dialLate at hd
  split_ifs at hd
  · have hdst := dialTimeout_dst target p.connectTimeout t
    rwa [hd] at hdst
  · cases hd
    rfl

theorem onDst_ok {α : Type} {x : Proc Upstream α} {a : α} (hx : onDst x t = (.ok a, t')) :
    x t.dst = (.ok a, t'.dst) := by
  obtain ⟨h1, h2⟩ := Prod.mk.inj hx
  exact Prod.ext h1 (by rw [← h2])

theorem send_sent {w : Wire} {c c' : Upstream} (hx : send w c = (.ok (), c')) : c'.sent = c.sent ++ [w] := by
  obtain ⟨ws, hs, hws⟩ := Straight.send w c () c' hx
  have he := hws.sent_eq
  rw [(Sends.send w).sent_eq] at he
  rw [hs, ← he]

theorem onDst_send {w : Wire} (hx : onDst (send w) t = (.ok (), t')) :
    t'.dst.sent = t.dst.sent ++ [w] := send_sent (onDst_ok hx)

theorem onDst_desyncSend {sniPos : Int} {sniLen : Nat} {ttl : Int}
    (hx : onDst (desyncSend record sniPos sniLen ttl) t = (.ok (), t')) :
    t'.dst.sent = t.dst.sent ++ [.desync record sniPos sniLen ttl] := by
  obtain ⟨parts, c, hparts, hsend⟩ := run_bind_eq_ok.mp (onDst_ok hx)
  cases (Prod.mk.inj hparts).2
  exact send_sent hsend

theorem okIf_true {x : Proc Tunnel Unit} (hx : okIf x t = (.ok true, t')) : x t = (.ok (), t') := by
  unfold okIf at hx
  obtain ⟨r, t1, h1, h2⟩ := run_bind_eq_ok.mp hx
  cases r with
  | error e => cases h2
  | ok u =>
    cases h2
    exact attempt_eq_value h1

theorem sendByMode_nothing (h1 : p.mode ≠ .direct) (h2 : p.mode ≠ .ttld) (h3 : p.mode ≠ .tlsrf) :
    sendByMode env p target record h = pure () := by
  unfold sendByMode
  cases hm : p.mode with
  | direct => exact absurd hm h1
  | ttld => exact absurd hm h2
  | tlsrf => exact absurd hm h3
  | unknown => rfl
  | raw => rfl
  | block => rfl
  | tlsAlert => rfl

theorem sendByPolicy_sent (hp : parseClientHello record = .ok h) (hd : CompleteRecord record)
    (hname : ¬ (h.sniPos ≤ 0 ∨ h.sniLen = 0)) {ws : List Wire} (hws : Sends (sendByPolicy p record h) ws ()) :
    Conveys record ws ∨
      Lossy p.numRecords p.numSegments (p.oob = .true) (p.oobEx = .true) ∧ NameInside record h := by
  obtain ⟨h47, -, hsni⟩ := parseClientHello_spec hp
  unfold SniIn at hsni
  by_cases hl : Lossy p.numRecords p.numSegments (p.oob = .true) (p.oobEx = .true) ∧
      h.sniPos + h.sniLen < record.length
  · exact .inr ⟨hl.1, by omega, hl.2⟩
  · refine .inl ?_
    rcases sendRecords_conveys _ _ (p.modMinorVer = .true) h47 hd (by omega) hl with hc | ⟨vs, hvs, hconv⟩
    · have hr := hc {} fun _ => rfl
      have hok := congrArg Prod.fst (hws {} fun _ => rfl)
      have hbad : (Res.ok () : Res Unit) = .panic := hok.symm.trans hr
      cases hbad
    · have he : ws = vs := hws.sent_eq.symm.trans hvs.sent_eq
      rwa [he]

theorem sendByMode_sent (hp : parseClientHello record = .ok h) (hd : CompleteRecord record)
    (hname : ¬ (h.sniPos ≤ 0 ∨ h.sniLen = 0))
    (hx : sendByMode env p target record h t = (.ok (), t')) :
    ∃ ws, t'.dst.sent = t.dst.sent ++ ws ∧ (Conveys record ws ∨ NotSent p record h) := by
  by_cases hdir : p.mode = .direct
  · unfold sendByMode at hx
    rw [hdir] at hx
    exact ⟨_, onDst_send hx, .inl (conveys_data hd rfl)⟩
  by_cases httl : p.mode = .ttld
  · unfold sendByMode at hx
    rw [httl] at hx
    obtain ⟨c, t1, h1, hx⟩ := run_bind_eq_ok.mp hx
    obtain ⟨ttl, t2, h2, hx⟩ := run_bind_eq_ok.mp hx
    cases (Prod.mk.inj h1).2
    cases (Prod.mk.inj h2).2
    obtain ⟨u, t3, h3, hx⟩ := run_bind_eq_ok.mp hx
    cases (Prod.mk.inj h3).2
    have hsent := onDst_desyncSend hx
    exact ⟨_, hsent, .inl (conveys_data hd rfl)⟩
  by_cases hrf : p.mode = .tlsrf
  · unfold sendByMode at hx
    rw [hrf] at hx
    obtain ⟨ws, hs, hws⟩ := sendRecords_straight _ _ _ _ _ _ _ _ t.dst () t'.dst (onDst_ok hx)
    exact ⟨ws, hs, (sendByPolicy_sent hp hd hname hws).imp id fun hl => ⟨hdir, httl, fun _ => hl⟩⟩
  · rw [sendByMode_nothing hdir httl hrf] at hx
    cases hx
    exact ⟨[], (List.append_nil _).symm, .inr ⟨hdir, httl, fun ht => absurd ht hrf⟩⟩

theorem alert_not_true (desc : UInt8) : ¬ ((sendTLSAlert h.prtVer desc >>= fun _ => pure false) t =
    ((.ok true, t') : Res Bool × Tunnel)) := by
  intro hbad
  obtain ⟨u, t1, -, hr⟩ := run_bind_eq_ok.mp hbad
  cases hr

theorem handleNamed_true {sni : Bytes} (hs : slice record h.sniPos (h.sniPos + h.sniLen) = .ok sni)
    (hx : handleNamed env p replyFirst originHost target record h t = (.ok true, t')) :
    (tunnelSniMode env originHost sni ≠ some .block ∧ tunnelSniMode env originHost sni ≠ some .tlsAlert) ∧
      (dialLate p replyFirst target >>= fun _ => sendByMode env p target record h) t = (.ok (), t') := by
  rw [handleNamed_eq hs] at hx
  generalize tunnelSniMode env originHost sni = m at hx ⊢
  cases m with
  | none => exact ⟨⟨by simp, by simp⟩, okIf_true hx⟩
  | some m =>
    cases m with
    | block => cases hx
    | tlsAlert => exact absurd hx (alert_not_true _)
    | _ => exact ⟨⟨by simp, by simp⟩, okIf_true hx⟩

/-- **A record that `handleTLS` has read and let through is on its way upstream**, but for the modes
and counts of `NotSent`. -/
theorem handleTLS_true (hd : CompleteRecord record)
    (hx : handleTLS env record.length p replyFirst originHost target (.ok record) t = (.ok true, t')) :
    ∃ ws, t'.dst.sent = t.dst.sent ++ ws ∧ (Conveys record ws ∨
      ∃ h, parseClientHello record = .ok h ∧ Passes env p originHost record h ∧ NotSent p record h) := by
  unfold handleTLS at hx
  dsimp only at hx
  rw [if_neg (by omega)] at hx
  cases hp : parseClientHello record with
  | panic =>
    rw [hp] at hx
    cases hx
  | err e =>
    rw [hp] at hx
    cases hx
  | ok h =>
    rw [hp] at hx
    unfold handleHello at hx
    dsimp only at hx
    by_cases h1 : p.mode = .tlsAlert
    · rw [if_pos h1] at hx
      exact absurd hx (alert_not_true _)
    rw [if_neg h1] at hx
    by_cases h2 : p.tls13Only = .true ∧ h.hasKeyShare = false
    · rw [if_pos h2] at hx
      exact absurd hx (alert_not_true _)
    rw [if_neg h2] at hx
    by_cases h3 : h.sniPos ≤ 0 ∨ h.sniLen = 0
    · rw [if_pos h3] at hx
      obtain ⟨u, t1, hdial, hsend⟩ := run_bind_eq_ok.mp (okIf_true hx)
      refine ⟨[.data record], ?_, .inl (conveys_data hd rfl)⟩
      rw [onDst_send hsend, dialLate_dst hdial]
    rw [if_neg h3] at hx
    obtain ⟨-, -, hin⟩ := parseClientHello_spec hp
    unfold SniIn at hin
    have hslice := slice_of_le (d := record) (show 0 ≤ h.sniPos by omega)
      (show h.sniPos ≤ h.sniPos + h.sniLen by omega) (by omega)
    obtain ⟨hmode, hrun⟩ := handleNamed_true hslice hx
    obtain ⟨u, t1, hdial, hsend⟩ := run_bind_eq_ok.mp hrun
    obtain ⟨ws, hs, hws⟩ := sendByMode_sent hp hd h3 hsend
    rw [dialLate_dst hdial] at hs
    refine ⟨ws, hs, hws.imp id fun hn => ⟨h, rfl, ⟨h1, h2, h3, fun sni hsni => ?_⟩, hn⟩⟩
    rw [hslice] at hsni
    cases hsni
    exact hmode

theorem handleNamed_sends {sni : Bytes} (hs : slice record h.sniPos (h.sniPos + h.sniLen) = .ok sni)
    (hm : tunnelSniMode env originHost sni ≠ some .block ∧ tunnelSniMode env originHost sni ≠ some .tlsAlert)
    (hx : (dialLate p replyFirst target >>= fun _ => sendByMode env p target record h) t = (.ok (), t')) :
    handleNamed env p replyFirst originHost target record h t = (.ok true, t') := by
  have hok : okIf (dialLate p replyFirst target >>= fun _ => sendByMode env p target record h) t =
      (.ok true, t') := by
    unfold okIf
    rw [run_bind_ok (attempt_ok hx)]
    rfl
  rw [handleNamed_eq hs]
  generalize tunnelSniMode env originHost sni = m at hm ⊢
  cases m with
  | none => exact hok
  | some m =>
    cases m with
    | block => exact absurd rfl hm.1
    | tlsAlert => exact absurd rfl hm.2
    | _ => exact hok

theorem sendByMode_loses (env : TlsEnv) (target : Bytes) (hp : parseClientHello record = .ok h) (hd : CompleteRecord record)
    (hname : ¬ (h.sniPos ≤ 0 ∨ h.sniLen = 0)) (hn : NotSent p record h) :
    ∃ ws, ¬ Conveys record ws ∧ ∀ t : Tunnel, t.dst.Reliable →
      sendByMode env p target record h t = (.ok (), { t with dst := t.dst.pushAll ws }) := by
  obtain ⟨h47, -, hin⟩ := parseClientHello_spec hp
  unfold SniIn at hin
  obtain ⟨h1, h2, h3⟩ := hn
  by_cases hrf : p.mode = .tlsrf
  · obtain ⟨hl, -, hinside⟩ := h3 hrf
    obtain ⟨ws, hws, hlost⟩ := sendRecords_loses _ _ (p.modMinorVer = .true) h47 hd
      (show Cuttable record h.sniPos h.sniLen from ⟨by omega, hinside⟩) hl
    refine ⟨ws, hlost, fun t ht => ?_⟩
    unfold sendByMode
    rw [hrf]
    exact zoom_eq (hws t.dst ht)
  · refine ⟨[], not_conveys_nothing h47, fun t ht => ?_⟩
    rw [sendByMode_nothing h1 h2 hrf]
    rfl

theorem handleTLS_swallows (replyFirst : Bool) (target : Bytes) (hd : CompleteRecord record)
    (hp : parseClientHello record = .ok h) (hpass : Passes env p originHost record h)
    (hn : NotSent p record h) :
    ∃ t', handleTLS env record.length p replyFirst originHost target (.ok record) {} = (.ok true, t') ∧
      ¬ Conveys record t'.dst.sent := by
  obtain ⟨h47, -, hin⟩ := parseClientHello_spec hp
  obtain ⟨h1, h2, h3, hmode⟩ := hpass
  unfold SniIn at hin
  have hslice := slice_of_le (d := record) (show 0 ≤ h.sniPos by omega)
    (show h.sniPos ≤ h.sniPos + h.sniLen by omega) (by omega)
  obtain ⟨ws, hlost, hsend⟩ := sendByMode_loses env target hp hd h3 hn
  obtain ⟨t1, hdial⟩ : ∃ t1 : Tunnel, dialLate p replyFirst target {} = (.ok (), t1) := by
    cases replyFirst with
    | true => exact ⟨_, rfl⟩
    | false => exact ⟨_, rfl⟩
  have hdst : t1.dst = {} := dialLate_dst hdial
  refine ⟨{ t1 with dst := t1.dst.pushAll ws }, ?_, ?_⟩
  · unfold handleTLS
    dsimp only
    rw [if_neg (by omega), hp]
    unfold handleHello
    dsimp only
    rw [if_neg h1, if_neg h2, if_neg h3]
    apply handleNamed_sends hslice (hmode _ hslice)
    rw [run_bind_ok hdial, hsend t1 (by rw [hdst]; exact fun _ => rfl)]
  · show ¬ Conveys record (t1.dst.pushAll ws).sent
    rw [hdst, pushAll_sent]
    exact hlost

end

/-! ## HTTP -/

section
variable {σ : Type} {env : Env σ} {lib : HttpLib} {req : HttpRequest} {s s' : Session σ}

theorem forwardRequest_ok {u : Unit} (h : forwardRequest lib req s = (.ok u, s')) :
    ∃ wire k, lib.writeRequest req s.client.rest = .ok (wire, k) ∧
      s'.client.rest = s.client.rest.drop k ∧ s'.tunnel.dst.sent = s.tunnel.dst.sent ++ [.data wire] := by
  unfold forwardRequest at h
  rw [run_bind_ok (run_get s)] at h
  cases hw : lib.writeRequest req s.client.rest with
  | error e =>
    rw [hw] at h
    cases h
  | ok r =>
    obtain ⟨wire, k⟩ := r
    rw [hw] at h
    obtain ⟨u1, s1, hsend, h⟩ := run_bind_eq_ok.mp h
    obtain ⟨h1, h2⟩ := Prod.mk.inj hsend
    have hsent : onDst (send (.data wire)) s.tunnel = (.ok u1, s1.tunnel) :=
      Prod.ext h1 (by rw [← h2])
    have hclient : s1.client = s.client := by rw [← h2]
    cases h
    refine ⟨wire, k, rfl, ?_, onDst_send hsent⟩
    show (s1.client.skip k).rest = _
    rw [Reader.rest_skip, hclient]

/-- **A request that `handleHTTP` lets through has been sent**, over a connection. -/
theorem handleHTTP_some {replyFirst dst dst' : Bool} {originHost target : Bytes}
    (h : handleHTTP env lib req replyFirst originHost target dst s = (.ok (some dst'), s')) :
    dst' = (replyFirst || dst) ∧ ∃ wire k, lib.writeRequest req s.client.rest = .ok (wire, k) ∧
      s'.client.rest = s.client.rest.drop k ∧ s'.tunnel.dst.sent = s.tunnel.dst.sent ++ [.data wire] := by
  unfold handleHTTP at h
  obtain ⟨r, s1, hr, h⟩ := run_bind_eq_ok.mp h
  have hkeep : (s1.client, s1.tunnel) = (s.client, s.tunnel) := by
    have hk : Keeps (fun s : Session σ => (s.client, s.tunnel))
        (attempt (onRouter (httpPolicy env (requestHost req originHost)))) :=
      Keeps.attempt fun s => rfl
    have hk := hk s
    rwa [hr] at hk
  obtain ⟨hclient, htunnel⟩ := Prod.mk.inj hkeep
  cases r with
  | error e => cases h
  | ok p =>
    dsimp only at h
    split_ifs at h with hstatus
    · obtain ⟨r, s2, hd, h⟩ := run_bind_eq_ok.mp h
      cases r with
      | error e =>
        obtain ⟨u, s3, -, h⟩ := run_bind_eq_ok.mp h
        cases h
      | ok u =>
        obtain ⟨r, s3, hf, h⟩ := run_bind_eq_ok.mp h
        cases r with
        | error e => cases h
        | ok u =>
          cases h
          obtain ⟨wire, k, hw, hrest, hsent⟩ := forwardRequest_ok (attempt_eq_value hf)
          obtain ⟨h1, h2⟩ := Prod.mk.inj (attempt_eq_value hd)
          have hdst : s2.tunnel.dst = s1.tunnel.dst := by
            rw [← h2]
            exact dialLate_dst rfl
          have hclient2 : s2.client = s1.client := by rw [← h2]
          rw [hclient2, hclient] at hw hrest
          rw [hdst, htunnel] at hsent
          exact ⟨rfl, wire, k, hw, hrest, hsent⟩
    · obtain ⟨u, s2, -, h⟩ := run_bind_eq_ok.mp h
      cases h

/-! ## the start of the relay -/

variable {getFakeTTL : Policy → Bytes → Bool → Res Int} {p : Policy} {replyFirst : Bool}
  {target originHost stream : Bytes}

theorem tunnelTLS_run (env : Env σ) (getFakeTTL : Policy → Bytes → Bool → Res Int) (p : Policy)
    (replyFirst dst : Bool) (target originHost first : Bytes) (hbuf : s.client.buf ≠ []) :
    tunnelTLS env getFakeTTL p replyFirst dst target originHost first s =
      (onTunnel (handleTLS (tlsEnv env getFakeTTL) (recordLen first) p replyFirst originHost target
        (.ok (s.client.buf.take (recordLen first)))) >>= fun ok =>
          pure (if ok then some (replyFirst || dst) else none))
        { s with client := { s.client with buf := s.client.buf.drop (recordLen first) } } := by
  have hread : onClient (Reader.read (recordLen first)) s =
      (.ok (s.client.buf.take (recordLen first)),
        { s with client := { s.client with buf := s.client.buf.drop (recordLen first) } }) := by
    apply zoom_eq
    unfold Reader.read
    exact if_pos hbuf
  unfold tunnelTLS
  rw [run_bind_ok (attempt_ok hread)]

theorem handleTLS_short (env : TlsEnv) (p : Policy) (replyFirst : Bool) (originHost target : Bytes)
    {n : Nat} {got : Bytes} (h : got.length < n) :
    handleTLS env n p replyFirst originHost target (.ok got) = pure false := if_pos h

theorem Reader.buf_take {r : Reader} {n : Nat} (h : n ≤ r.buf.length) : r.buf.take n = r.rest.take n := by
  unfold Reader.rest
  rw [List.take_append_of_le_length h]

theorem tunnelTLS_some {dst dst' : Bool} (hrest : s.client.rest = stream)
    (hbuf : 10 ≤ s.client.buf.length) (hsize : s.client.buf.length ≤ Reader.bufSize)
    (h : tunnelTLS env getFakeTTL p replyFirst dst target originHost (stream.take 10) s =
      (.ok (some dst'), s')) :
    dst' = (replyFirst || dst) ∧ s'.client.rest = stream.drop (recordLen stream) ∧
      ∃ ws, s'.tunnel.dst.sent = s.tunnel.dst.sent ++ ws ∧
        (Conveys (stream.take (recordLen stream)) ws ∨
          Swallows stream (tlsEnv env getFakeTTL) p originHost) := by
  have hle : s.client.buf.length ≤ stream.length := by
    rw [← hrest]
    unfold Reader.rest
    rw [List.length_append]
    omega
  have hL : recordLen (stream.take 10) = recordLen stream := recordLen_take (by omega) (by omega)
  have h5 := five_le_recordLen stream
  rw [tunnelTLS_run _ _ _ _ _ _ _ _ (List.ne_nil_of_length_pos (by omega)), hL] at h
  obtain ⟨ok, s1, hrun, h⟩ := run_bind_eq_ok.mp h
  cases ok with
  | false => cases h
  | true =>
    cases h
    obtain ⟨h1, h2⟩ := Prod.mk.inj hrun
    by_cases hshort : s.client.buf.length < recordLen stream
    · rw [handleTLS_short _ _ _ _ _ (by rw [List.length_take]; omega)] at h1
      cases h1
    · rw [Reader.buf_take (by omega), hrest] at h1 h2
      have hlen : (stream.take (recordLen stream)).length = recordLen stream := by
        rw [List.length_take]
        omega
      have hd := completeRecord_take (show 5 ≤ stream.length by omega) (show _ ≤ stream.length by omega)
      have hT : handleTLS (tlsEnv env getFakeTTL) (stream.take (recordLen stream)).length p replyFirst
          originHost target (.ok (stream.take (recordLen stream))) s.tunnel = (.ok true, s'.tunnel) := by
        rw [hlen]
        exact Prod.ext h1 (by rw [← h2])
      obtain ⟨ws, hs, hws⟩ := handleTLS_true hd hT
      refine ⟨rfl, ?_, ws, hs, hws.imp id fun hsw => ⟨by omega, by omega, hsw⟩⟩
      have hdrop : (s.client.buf ++ s.client.segs.flatten).drop (recordLen stream) =
          s.client.buf.drop (recordLen stream) ++ s.client.segs.flatten :=
        List.drop_append_of_le_length (by omega)
      rw [← h2]
      exact hdrop.symm.trans (congrArg (List.drop (recordLen stream)) hrest)

theorem tunnelHTTP_some {dst dst' : Bool} (ht : isTLS stream = false) (hrest : s.client.rest = stream)
    (h : tunnelHTTP env lib replyFirst dst target originHost s = (.ok (some dst'), s')) :
    (∃ n e, lib.readRequest stream = (n, .error e) ∧ dst' = dst ∧ s'.client.rest = stream.drop n ∧
      s'.tunnel = s.tunnel) ∨
    dst' = (replyFirst || dst) ∧ ∃ n ws, Forwarded lib stream n ws ∧ s'.client.rest = stream.drop n ∧
      s'.tunnel.dst.sent = s.tunnel.dst.sent ++ ws := by
  rcases hr : lib.readRequest stream with ⟨n, r⟩
  have htake : takeRequest lib s = (.ok r, { s with client := s.client.skip n }) := by
    unfold takeRequest
    rw [run_bind_ok (run_get s), hrest, hr]
    rfl
  have hskip : (s.client.skip n).rest = stream.drop n := by rw [Reader.rest_skip, hrest]
  unfold tunnelHTTP at h
  rw [run_bind_ok htake] at h
  cases r with
  | error e =>
    cases h
    exact .inl ⟨n, e, rfl, rfl, hskip, rfl⟩
  | ok req =>
    obtain ⟨hdst, wire, k, hw, hrest', hsent⟩ := handleHTTP_some h
    dsimp only at hw hrest' hsent
    rw [hskip] at hw hrest'
    refine .inr ⟨hdst, n + k, [.data wire], .request ht hr hw, ?_, hsent⟩
    rw [hrest', List.drop_drop]

theorem conveys_ne_nil {record : Bytes} (h : Conveys record []) : False := by
  obtain ⟨m, b, hr, parts, hne, -, hb⟩ := h
  cases hr
  cases parts with
  | nil => exact hne rfl
  | cons c cs => exact absurd (List.append_eq_nil_iff.mp hb.symm).1 (makeRecord_ne_nil _ _)

theorem forwarded_nothing {n : Nat} (h : Forwarded lib stream n []) : n = 0 := by
  cases h with
  | nothing => rfl
  | record ht h => exact (conveys_ne_nil h).elim

theorem peek_first {first : Bytes} (hbuf : s.client.buf = []) (hrest : s.client.rest = stream)
    (h : onClient (Reader.peek 10) s = (.ok first, s')) :
    10 ≤ stream.length ∧ first = stream.take 10 ∧ s'.client.rest = stream ∧
      10 ≤ s'.client.buf.length ∧ s'.client.buf.length ≤ Reader.bufSize ∧ s'.tunnel = s.tunnel := by
  obtain ⟨h1, h2⟩ := Prod.mk.inj h
  by_cases hlen : 10 ≤ stream.length
  · obtain ⟨r', hr, hr1, hr2, hr3⟩ := Reader.peek_spec (r := s.client) (show 10 ≤ Reader.bufSize by decide)
      (by rw [hbuf]; exact Nat.zero_le _) (by rw [hrest]; exact hlen)
    rw [hrest] at hr hr1
    rw [hr] at h1 h2
    cases h1
    rw [← h2]
    exact ⟨hlen, rfl, hr1, hr2, hr3, rfl⟩
  · obtain ⟨r', hr⟩ := Reader.peek_short (n := 10) (r := s.client) (by rw [hrest]; omega)
    rw [hr] at h1
    cases h1

theorem tunnelStart_sound (hsafe : ¬ Unsound lib stream (tlsEnv env getFakeTTL) p originHost replyFirst)
    (hbuf : s.client.buf = []) (hrest : s.client.rest = stream) (hsent : s.tunnel.dst.sent = []) {dst : Bool}
    (h : tunnelStart env lib getFakeTTL p replyFirst (!replyFirst) target originHost s =
      (.ok (some dst), s')) :
    SoundStart lib stream dst s'.tunnel.dst.sent s'.client.rest := by
  have hor : (replyFirst || !replyFirst) = true := by
    cases replyFirst with
    | true => rfl
    | false => rfl
  unfold tunnelStart at h
  by_cases hraw : p.mode = .raw
  · -- nothing is read
    have hstart : dst = true ∧ s'.client = s.client ∧ s'.tunnel.dst = s.tunnel.dst := by
      rw [if_pos hraw] at h
      cases replyFirst with
      | false =>
        cases h
        exact ⟨rfl, rfl, rfl⟩
      | true =>
        obtain ⟨r, s1, hd, h⟩ := run_bind_eq_ok.mp h
        cases r with
        | error e => cases h
        | ok u =>
          cases h
          obtain ⟨h1, h2⟩ := Prod.mk.inj (attempt_eq_value hd)
          rw [← h2]
          exact ⟨rfl, rfl, dialTimeout_dst target p.connectTimeout s.tunnel⟩
    obtain ⟨h1, h2, h3⟩ := hstart
    rw [h2, h3, hsent, hrest]
    exact ⟨h1, 0, rfl, .nothing⟩
  rw [if_neg hraw] at h
  obtain ⟨r, s1, hpeek, h⟩ := run_bind_eq_ok.mp h
  cases r with
  | error e => cases h
  | ok first =>
    obtain ⟨hlen, rfl, hrest1, hbuf1, hsize1, htun⟩ := peek_first hbuf hrest (attempt_eq_value hpeek)
    rw [← htun] at hsent
    dsimp only at h
    rw [isTLS_take (by decide)] at h
    have hsafe : ¬ if isTLS stream then Swallows stream (tlsEnv env getFakeTTL) p originHost
      else if bytesHasPrefix (stream.take 10) httpMethods then
        (∃ n e, lib.readRequest stream = (n, .error e) ∧ (0 < n ∨ replyFirst = true))
      else replyFirst = true := fun hbad => hsafe ⟨hraw, hlen, hbad⟩
    by_cases htls : isTLS stream = true
    · rw [if_pos htls] at h hsafe
      obtain ⟨hdst, hr, ws, hs, hws⟩ := tunnelTLS_some hrest1 hbuf1 hsize1 h
      rw [hr, hs, hsent, List.nil_append]
      exact ⟨hdst.trans hor, _, rfl, .record htls (hws.resolve_right hsafe)⟩
    rw [if_neg htls] at h hsafe
    by_cases hhttp : bytesHasPrefix (stream.take 10) httpMethods = true
    · rw [if_pos hhttp] at h hsafe
      rcases tunnelHTTP_some (by simpa using htls) hrest1 h with ⟨n, e, hr, hdst, hn, ht⟩ | ⟨hdst, n, ws, hf, hn, hs⟩
      · have hzero : n = 0 ∧ replyFirst = false := by
          constructor
          · by_contra hpos
            exact hsafe ⟨n, e, hr, .inl (by omega)⟩
          · by_contra ht
            exact hsafe ⟨n, e, hr, .inr (by simpa using ht)⟩
        obtain ⟨rfl, rfl⟩ := hzero
        rw [hn, ht, hsent]
        exact ⟨hdst, 0, rfl, .nothing⟩
      · rw [hn, hs, hsent, List.nil_append]
        exact ⟨hdst.trans hor, n, rfl, hf⟩
    · rw [if_neg hhttp] at h hsafe
      cases h
      rw [hsent, hrest1]
      refine ⟨?_, 0, rfl, .nothing⟩
      simpa using hsafe

/-! ## the bad cases do happen -/

/-- everything arrives in one segment, and nothing fails -/
def openSession (routing : σ) (stream : Bytes) : Session σ := ⟨routing, { segs := [stream] }, {}, [], false⟩

theorem tunnelStart_peeked (env : Env σ) (lib : HttpLib) (getFakeTTL : Policy → Bytes → Bool → Res Int)
    (replyFirst : Bool) (target originHost : Bytes) (routing : σ) (hraw : p.mode ≠ .raw) (hlen : 10 ≤ stream.length) :
    ∃ r', r'.rest = stream ∧ r'.buf = stream.take Reader.bufSize ∧
      tunnelStart env lib getFakeTTL p replyFirst (!replyFirst) target originHost
        (openSession routing stream) =
      (if isTLS stream then tunnelTLS env getFakeTTL p replyFirst (!replyFirst) target originHost
          (stream.take 10)
        else if bytesHasPrefix (stream.take 10) httpMethods then
          tunnelHTTP env lib replyFirst (!replyFirst) target originHost
        else pure (some (!replyFirst))) ⟨routing, r', {}, [], false⟩ := by
  obtain ⟨r', hr, hrest, hbuf⟩ := Reader.peek_one (n := 10) (by decide) (by decide) hlen "EOF"
  refine ⟨r', hrest, hbuf, ?_⟩
  have hpeek : onClient (Reader.peek 10) (openSession routing stream) =
      (.ok (stream.take 10), (⟨routing, r', {}, [], false⟩ : Session σ)) := zoom_eq hr
  unfold tunnelStart
  rw [if_neg hraw, run_bind_ok (attempt_ok hpeek)]
  dsimp only
  rw [isTLS_take (by decide)]

theorem tunnelStart_unsound (target : Bytes) (routing : σ)
    (h : Unsound lib stream (tlsEnv env getFakeTTL) p originHost replyFirst) :
    ∃ dst s', tunnelStart env lib getFakeTTL p replyFirst (!replyFirst) target originHost
        (openSession routing stream) = (.ok (some dst), s') ∧
      ¬ SoundStart lib stream dst s'.tunnel.dst.sent s'.client.rest := by
  obtain ⟨hraw, hlen, h⟩ := h
  obtain ⟨r', hrest, hbuf, hrun⟩ :=
    tunnelStart_peeked env lib getFakeTTL replyFirst target originHost routing hraw hlen
  rw [hrun]
  by_cases htls : isTLS stream = true
  · rw [if_pos htls] at h ⊢
    obtain ⟨hsize, hle, hello, hp, hpass, hn⟩ := h
    have h5 := five_le_recordLen stream
    have hL : recordLen (stream.take 10) = recordLen stream := recordLen_take (by omega) hlen
    have hbl : recordLen stream ≤ r'.buf.length := by
      rw [hbuf, List.length_take]
      omega
    have hd := completeRecord_take (show 5 ≤ stream.length by omega) hle
    obtain ⟨t', ht, hlost⟩ := handleTLS_swallows replyFirst target hd hp hpass hn
    have hrecord : r'.buf.take (recordLen stream) = stream.take (recordLen stream) := by
      rw [Reader.buf_take hbl, hrest]
    rw [tunnelTLS_run _ _ _ _ _ _ _ _ (List.ne_nil_of_length_pos (by dsimp only; omega)), hL]
    dsimp only
    rw [hrecord]
    rw [List.length_take, Nat.min_eq_left hle] at ht
    have hrun : onTunnel (handleTLS (tlsEnv env getFakeTTL) (recordLen stream) p replyFirst originHost
        target (.ok (stream.take (recordLen stream)))) (⟨routing,
          { r' with buf := r'.buf.drop (recordLen stream) }, {}, [], false⟩ : Session σ) =
        (.ok true, ⟨routing, { r' with buf := r'.buf.drop (recordLen stream) }, t', [], false⟩) := zoom_eq ht
    refine ⟨_, _, run_bind_ok hrun, fun hsound => ?_⟩
    obtain ⟨n, hn, hf⟩ := hsound.whole
    have hlenrest : (r'.buf.drop (recordLen stream) ++ r'.segs.flatten).length =
        stream.length - recordLen stream := by
      have htotal := congrArg List.length hrest
      unfold Reader.rest at htotal
      rw [List.length_append] at htotal ⊢
      rw [List.length_drop]
      omega
    have hn := congrArg List.length hn
    change (r'.buf.drop (recordLen stream) ++ r'.segs.flatten).length = _ at hn
    change Forwarded lib stream n t'.dst.sent at hf
    generalize t'.dst.sent = ws at hf hlost
    cases hf with
    | nothing =>
      rw [hlenrest, List.drop_zero] at hn
      omega
    | record _ h => exact hlost h
    | request ht' _ _ =>
      rw [htls] at ht'
      cases ht'
  rw [if_neg htls] at h ⊢
  by_cases hhttp : bytesHasPrefix (stream.take 10) httpMethods = true
  · rw [if_pos hhttp] at h ⊢
    obtain ⟨n, e, hr, hbad⟩ := h
    have htake : takeRequest lib (⟨routing, r', {}, [], false⟩ : Session σ) =
        (.ok (.error e), ⟨routing, r'.skip n, {}, [], false⟩) := by
      unfold takeRequest
      rw [run_bind_ok (run_get _)]
      dsimp only
      rw [hrest, hr]
      rfl
    unfold tunnelHTTP
    rw [run_bind_ok htake]
    refine ⟨_, _, rfl, fun hsound => ?_⟩
    rcases hbad with hpos | hrf
    · obtain ⟨k, hk, hf⟩ := hsound.whole
      obtain rfl := forwarded_nothing hf
      have hk := congrArg List.length hk
      dsimp only at hk
      rw [Reader.rest_skip, hrest, List.length_drop, List.drop_zero] at hk
      omega
    · have hd := hsound.dialed
      rw [hrf] at hd
      cases hd
  · rw [if_neg hhttp] at h ⊢
    refine ⟨_, _, rfl, fun hsound => ?_⟩
    have hd := hsound.dialed
    rw [h] at hd
    cases hd

end

/-- **Whenever the relay starts there is an upstream connection, and what has been read is sent:
exactly if the first bytes and the policy are none of the bad cases.**  This is for every way the
bytes arrive, and for whatever dials and sends fail. -/
theorem relay_sound_iff {σ : Type} (env : Env σ) (lib : HttpLib)
    (getFakeTTL : Policy → Bytes → Bool → Res Int) (p : Policy) (replyFirst : Bool)
    (target originHost stream : Bytes) (routing : σ) :
    (∀ (segs : List Bytes) (ending : String) (t : Tunnel), segs.flatten = stream → t.dst.sent = [] →
      ∀ dst s', tunnelStart env lib getFakeTTL p replyFirst (!replyFirst) target originHost
          ⟨routing, { segs := segs, ending := ending }, t, [], false⟩ = (.ok (some dst), s') →
        SoundStart lib stream dst s'.tunnel.dst.sent s'.client.rest) ↔
      ¬ Unsound lib stream (tlsEnv env getFakeTTL) p originHost replyFirst := by
  constructor
  · intro h hbad
    obtain ⟨dst, s', hrun, hno⟩ := tunnelStart_unsound target routing hbad
    exact hno (h [stream] "EOF" {} (by simp) rfl dst s' hrun)
  · intro hsafe segs ending t hsegs hsent dst s' hrun
    exact tunnelStart_sound (s := ⟨routing, { segs := segs, ending := ending }, t, [], false⟩) hsafe rfl
      hsegs hsent hrun

/-! ## three clients -/

/-- a reader of request lines: three fields, or an error after the line has been read -/
def lineLib : HttpLib where
  readRequest b :=
    let line := b.takeWhile (· ≠ 10)
    (line.length + 1, match line.splitOn 32 with
      | [_, uri, _] => .ok { requestURI := uri }
      | _ => .error "malformed HTTP request")
  writeRequest req _ := .ok (lit "GET " ++ req.requestURI ++ lit " HTTP/1.1\r\n\r\n", 0)

def noProbe : Policy → Bytes → Bool → Res Int := fun _ _ _ => .err "reachable TTL not found"

/-- A request line without a protocol is gone when the relay starts; bytes of another protocol find
no connection, and the type assertion panics; and a record in fragments loses the first of them. -/
theorem relay_unsound :
    ((tunnelStart (oneRuleEnv {} {}) lineLib noProbe { mode := .direct } false true
        (lit "192.0.2.1:80") (lit "a.example") >>= fun dst => get >>= fun s =>
          pure (dst, s.tunnel.dst.sent, s.client.rest))
      (openSession () (lit "GET nothing\r\nHost: a.example\r\n\r\n"))).1 =
      .ok (some true, [], lit "Host: a.example\r\n\r\n") ∧
    (tunnelStart (oneRuleEnv {} {}) lineLib noProbe { mode := .direct } true false
      (lit "192.0.2.1:22") (lit "a.example") (openSession () (lit "SSH-2.0-client\r\n"))).1 =
      .ok (some false) ∧
    (handleTunnel (oneRuleEnv {} {}) lineLib noProbe { mode := .direct } true false
      (lit "192.0.2.1:22") (lit "a.example") (openSession () (lit "SSH-2.0-client\r\n"))).1 = .panic ∧
    ((tunnelStart (oneRuleEnv {} {}) lineLib noProbe
        { mode := .tlsrf, numRecords := 2, numSegments := -1 } false true
        (lit "192.0.2.1:443") (lit "a.b") >>= fun dst => get >>= fun s =>
          pure (dst, s.tunnel.dst.sent, s.client.rest))
      (openSession () sampleHello)).1 =
      .ok (some true, [.data ([0x16, 3, 1, 0, 6] ++ sampleHello.drop 62)], []) := by
  refine ⟨?_, ?_, ?_, ?_⟩
  · decide +kernel
  · decide +kernel
  · decide +kernel
  · decide +kernel

end Bill
