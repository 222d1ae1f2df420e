import BillVpn.Go.TwoRuns
import BillVpn.Tunnel.Relay

/-!
# One client, delivered in different pieces

`handleTunnel` peeks at ten bytes and then reads the record with one `Read`, which gives what the
buffer has.  What the buffer has depends on how the bytes came.

* `view`               what a procedure sees of a session if it never calls `Read`;
* `SplitMatters`       a record that is read at once and answered or forwarded then;
* `segments_iff`       **what `handleTunnel` does is the same for all ways to cut the client's bytes,
                       exactly outside these**;
* `segments_differ`    a hello in one piece, and in two.
-/

set_option linter.unusedVariables false

namespace Bill
open Go Res Proc Conn

section
variable {σ : Type}

/-- all but how the bytes of the client are cut -/
def Session.view (s : Session σ) : σ × (Bytes × String) × Tunnel × List Reply × Bool :=
  (s.routing, (s.client.rest, s.client.ending), s.tunnel, s.answers, s.relaying)

/-- what can be seen from outside -/
def Session.effects (s : Session σ) : σ × Tunnel × List Reply × Bool :=
  (s.routing, s.tunnel, s.answers, s.relaying)

def outcome (x : Res Unit × Session σ) : Res Unit × σ × Tunnel × List Reply × Bool :=
  (x.1, x.2.effects)

/-- reads of a connection return something -/
def Delivers (stream : Bytes) (segs : List Bytes) : Prop := segs.flatten = stream ∧ [] ∉ segs

section
variable (stream : Bytes) (env : TlsEnv) (p : Policy) (originHost : Bytes)

/-- not dropped in silence -/
def Noticed (record : Bytes) (h : Hello) : Prop :=
  p.mode = .tlsAlert ∨ p.tls13Only = .true ∧ h.hasKeyShare = false ∨ (h.sniPos ≤ 0 ∨ h.sniLen = 0) ∨
    ∀ sni, slice record h.sniPos (h.sniPos + h.sniLen) = .ok sni →
      tunnelSniMode env originHost sni ≠ some .block

/-- a complete record that fits into the buffer, is accepted, and is not dropped in silence -/
def SplitMatters : Prop :=
  p.mode ≠ .raw ∧ isTLS stream = true ∧ recordLen stream ≤ Reader.bufSize ∧
    recordLen stream ≤ stream.length ∧
      ∃ h, parseClientHello (stream.take (recordLen stream)) = .ok h ∧
        Noticed env p originHost (stream.take (recordLen stream)) h

end

theorem effects_of_view {s s' : Session σ} (h : s.view = s'.view) : s.effects = s'.effects :=
  congrArg (fun v => (v.1, v.2.2)) h

/-! ## procedures that do not call `Read` -/

theorem onTunnel_same {α : Type} (x : Proc Tunnel α) : Same Session.view (onTunnel (σ := σ) x) := by
  refine Same.zoom (fun s t h => congrArg (·.2.2.1) h) (fun a s t h => ?_) x
  exact congrArg (fun v => (v.1, v.2.1, a, v.2.2.2)) h

theorem onRouter_same {α : Type} (x : Proc σ α) : Same Session.view (onRouter x) := by
  refine Same.zoom (fun s t h => congrArg (·.1) h) (fun a s t h => ?_) x
  exact congrArg (fun v => (a, v.2)) h

theorem answer_same (r : Reply) : Same Session.view (answer (σ := σ) r) :=
  Same.modify fun s t h => congrArg (fun v => (v.1, v.2.1, v.2.2.1, v.2.2.2.1 ++ [r], v.2.2.2.2)) h

theorem skip_same (n : Nat) : Same Session.view (onClient (σ := σ) (modify (Reader.skip n))) := by
  intro s t h
  refine ⟨rfl, ?_⟩
  have hc : (s.client.rest, s.client.ending) = (t.client.rest, t.client.ending) := congrArg (·.2.1) h
  obtain ⟨hrest, hend⟩ := Prod.mk.inj hc
  have hskip : s.client.skip n = t.client.skip n := by
    unfold Reader.skip
    rw [hrest, hend]
  show ({ s with client := s.client.skip n } : Session σ).view =
    ({ t with client := t.client.skip n } : Session σ).view
  rw [hskip]
  exact congrArg (fun v => (v.1, ((t.client.skip n).rest, (t.client.skip n).ending), v.2.2)) h

theorem rest_of_view {s t : Session σ} (h : s.view = t.view) : s.client.rest = t.client.rest :=
  congrArg (·.2.1.1) h

theorem relay_same : Same Session.view (relay (σ := σ)) := by
  refine Same.bind (Same.modify fun s t h => ?_) fun _ => Same.get_bind (fun s t h => ?_) fun s => ?_
  · exact congrArg (fun v => (v.1, v.2.1, v.2.2.1, v.2.2.2.1, true)) h
  · rw [rest_of_view h]
  · exact Same.ite (Same.pure _)
      ((onTunnel_same _).attempt.bind fun _ => skip_same _)

variable (env : Env σ) (lib : HttpLib)

theorem takeRequest_same : Same Session.view (takeRequest (σ := σ) lib) := by
  refine Same.get_bind (fun s t h => ?_) fun s => ?_
  · rw [rest_of_view h]
  · exact (skip_same _).bind fun _ => Same.pure _

theorem forwardRequest_same (req : HttpRequest) :
    Same Session.view (forwardRequest (σ := σ) lib req) := by
  refine Same.get_bind (fun s t h => ?_) fun s => ?_
  · rw [rest_of_view h]
  · cases lib.writeRequest req s.client.rest with
    | error e => exact Same.fail e
    | ok w => exact (onTunnel_same _).bind fun _ => skip_same _

theorem handleHTTP_same (req : HttpRequest) (replyFirst : Bool) (originHost target : Bytes) (dst : Bool) :
    Same Session.view (handleHTTP env lib req replyFirst originHost target dst) := by
  refine (onRouter_same _).attempt.bind fun r => ?_
  cases r with
  | error e => exact Same.pure _
  | ok p =>
    refine Same.ite ((onTunnel_same _).attempt.bind fun r => ?_)
      ((answer_same _).bind fun _ => Same.pure _)
    cases r with
    | error e => exact (answer_same _).bind fun _ => Same.pure _
    | ok u =>
      refine (forwardRequest_same lib req).attempt.bind fun r => ?_
      cases r with
      | error e => exact Same.pure _
      | ok u => exact Same.pure _

theorem tunnelHTTP_same (replyFirst dst : Bool) (target originHost : Bytes) :
    Same Session.view (tunnelHTTP env lib replyFirst dst target originHost) := by
  refine (takeRequest_same lib).bind fun r => ?_
  cases r with
  | ok req => exact handleHTTP_same env lib req replyFirst originHost target dst
  | error e => exact Same.pure _

/-- what follows `tunnelStart` -/
def relayOn : Option Bool → Proc (Session σ) Unit
  | none => pure ()
  | some dst => lift (assertTCP dst) >>= fun _ => relay

theorem relayOn_same (dst : Option Bool) : Same Session.view (relayOn (σ := σ) dst) := by
  cases dst with
  | none => exact Same.pure _
  | some dst => exact (Same.lift _).bind fun _ => relay_same

variable (getFakeTTL : Policy → Bytes → Bool → Res Int) {p : Policy} (replyFirst : Bool)
  (target originHost : Bytes) {stream : Bytes} {s s' : Session σ}

theorem handleTunnel_eq (p : Policy) (dst : Bool) :
    handleTunnel env lib getFakeTTL p replyFirst dst target originHost =
      tunnelStart env lib getFakeTTL p replyFirst dst target originHost >>= relayOn := by
  unfold handleTunnel
  refine congrArg _ (funext fun r => ?_)
  cases r with
  | none => rfl
  | some dst => rfl

/-! ## the first ten bytes -/

theorem peek_view (hbuf : s.client.buf = []) (h : 10 ≤ s.client.rest.length) :
    ∃ s1, onClient (Reader.peek 10) s = (.ok (s.client.rest.take 10), s1) ∧ s1.view = s.view ∧
      10 ≤ s1.client.buf.length ∧ s1.client.buf.length ≤ Reader.bufSize := by
  obtain ⟨r', hr, hrest, h10, hsize⟩ := Reader.peek_spec (r := s.client)
    (show 10 ≤ Reader.bufSize by decide) (by rw [hbuf]; exact Nat.zero_le _) h
  have hend : r'.ending = s.client.ending := by
    have he := Reader.peek_ending 10 s.client
    rwa [hr] at he
  refine ⟨{ s with client := r' }, zoom_eq hr, ?_, h10, hsize⟩
  unfold Session.view
  rw [hrest, hend]

theorem tunnelStart_short (dst : Bool) (hraw : p.mode ≠ .raw) (h : s.client.rest.length < 10) :
    ∃ s1, tunnelStart env lib getFakeTTL p replyFirst dst target originHost s = (.ok none, s1) ∧
      s1.effects = s.effects := by
  obtain ⟨r', hr⟩ := Reader.peek_short h
  refine ⟨{ s with client := r' }, ?_, rfl⟩
  have hpeek : onClient (Reader.peek 10) s = (.err s.client.ending, { s with client := r' }) := zoom_eq hr
  unfold tunnelStart
  rw [if_neg hraw, run_bind_ok (attempt_err hpeek)]
  rfl

/-- what follows the peek -/
def tunnelBranch (p : Policy) (replyFirst dst : Bool) (target originHost first : Bytes) :
    Proc (Session σ) (Option Bool) :=
  if isTLS first then tunnelTLS env getFakeTTL p replyFirst dst target originHost first
  else if bytesHasPrefix first httpMethods then tunnelHTTP env lib replyFirst dst target originHost
  else pure (some dst)

theorem tunnelStart_branch (dst : Bool) (hraw : p.mode ≠ .raw) {first : Bytes}
    (h : onClient (Reader.peek 10) s = (.ok first, s')) :
    tunnelStart env lib getFakeTTL p replyFirst dst target originHost s =
      tunnelBranch env lib getFakeTTL p replyFirst dst target originHost first s' := by
  unfold tunnelStart
  rw [if_neg hraw, run_bind_ok (attempt_ok h)]
  rfl

theorem handleTunnel_branch (dst : Bool) (hraw : p.mode ≠ .raw) {first : Bytes}
    (h : onClient (Reader.peek 10) s = (.ok first, s')) :
    handleTunnel env lib getFakeTTL p replyFirst dst target originHost s =
      (tunnelBranch env lib getFakeTTL p replyFirst dst target originHost first >>= relayOn) s' := by
  rw [handleTunnel_eq, run_bind, run_bind,
    tunnelStart_branch env lib getFakeTTL replyFirst target originHost dst hraw h]

/-! ## a record that is dropped in silence -/

theorem handleTunnel_dropped {dst : Bool}
    (h : tunnelStart env lib getFakeTTL p replyFirst dst target originHost s = (.ok none, s')) :
    outcome (handleTunnel env lib getFakeTTL p replyFirst dst target originHost s) =
      (.ok (), s'.effects) := by
  rw [handleTunnel_eq, run_bind_ok h]
  rfl

theorem handleNamed_blocked {env : TlsEnv} {record sni : Bytes} {h : Hello} {originHost : Bytes}
    (hs : slice record h.sniPos (h.sniPos + h.sniLen) = .ok sni)
    (hm : tunnelSniMode env originHost sni = some .block) :
    handleNamed env p replyFirst originHost target record h = pure false := by
  rw [handleNamed_eq hs, hm]

theorem handleTLS_quiet {env : TlsEnv} {originHost : Bytes} (hraw : p.mode ≠ .raw)
    (htls : isTLS stream = true) (hq : ¬ SplitMatters stream env p originHost) {n : Nat}
    (hn : n ≤ Reader.bufSize) (hle : n ≤ stream.length) (t : Tunnel) :
    handleTLS env (recordLen stream) p replyFirst originHost target
      (.ok ((stream.take n).take (recordLen stream))) t = (.ok false, t) := by
  by_cases hshort : n < recordLen stream
  · rw [handleTLS_short _ _ _ _ _ (by rw [List.length_take, List.length_take]; omega)]
    rfl
  have h5 := five_le_recordLen stream
  rw [List.take_take, Nat.min_eq_left (show recordLen stream ≤ n by omega)]
  have hlen : (stream.take (recordLen stream)).length = recordLen stream := by
    rw [List.length_take]
    omega
  unfold handleTLS
  dsimp only
  rw [if_neg (by omega)]
  cases hp : parseClientHello (stream.take (recordLen stream)) with
  | panic =>
    rw [parseClientHello_panics] at hp
    omega
  | err e => rfl
  | ok h =>
    have hno : ¬ Noticed env p originHost (stream.take (recordLen stream)) h := fun hyes =>
      hq ⟨hraw, htls, by omega, by omega, h, hp, hyes⟩
    unfold Noticed at hno
    push Not at hno
    obtain ⟨h1, h2, h3, sni, hs, hm⟩ := hno
    unfold handleHello
    dsimp only
    rw [if_neg h1, if_neg (fun hx => h2 hx.1 hx.2), if_neg (by omega), handleNamed_blocked _ _ hs hm]
    rfl

theorem tunnelTLS_quiet (dst : Bool) (hraw : p.mode ≠ .raw) (htls : isTLS stream = true)
    (hq : ¬ SplitMatters stream (tlsEnv env getFakeTTL) p originHost) (hrest : s.client.rest = stream)
    (h10 : 10 ≤ s.client.buf.length) (hsize : s.client.buf.length ≤ Reader.bufSize) :
    ∃ s1, tunnelTLS env getFakeTTL p replyFirst dst target originHost (stream.take 10) s =
        (.ok none, s1) ∧ s1.effects = s.effects := by
  have hbuf : s.client.buf = stream.take s.client.buf.length := by
    have hb := Reader.buf_take (r := s.client) (Nat.le_refl _)
    rwa [List.take_length, hrest] at hb
  have hle : s.client.buf.length ≤ stream.length := by
    have hl := congrArg List.length hbuf
    rw [List.length_take] at hl
    omega
  have hquiet := handleTLS_quiet replyFirst target hraw htls hq hsize hle s.tunnel
  rw [← hbuf] at hquiet
  rw [tunnelTLS_run _ _ _ _ _ _ _ _ (List.ne_nil_of_length_pos (by omega)),
    recordLen_take (by omega) (by omega)]
  refine ⟨{ s with client := { s.client with buf := s.client.buf.drop (recordLen stream) } }, ?_, rfl⟩
  have hrun : onTunnel (handleTLS (tlsEnv env getFakeTTL) (recordLen stream) p replyFirst originHost
      target (.ok (s.client.buf.take (recordLen stream))))
      { s with client := { s.client with buf := s.client.buf.drop (recordLen stream) } } =
      (.ok false, { s with client := { s.client with buf := s.client.buf.drop (recordLen stream) } }) :=
    zoom_eq hquiet
  rw [run_bind_ok hrun]
  rfl

/-! ## everything else does not see the cuts -/

theorem tunnelStart_raw_same (dst : Bool) (hraw : p.mode = .raw) :
    Same Session.view (tunnelStart env lib getFakeTTL p replyFirst dst target originHost) := by
  unfold tunnelStart
  rw [if_pos hraw]
  refine Same.ite ((onTunnel_same _).attempt.bind fun r => ?_) (Same.pure _)
  cases r with
  | error e => exact Same.pure _
  | ok u => exact Same.pure _

theorem tunnelBranch_same (dst : Bool) {first : Bytes} (htls : isTLS first = false) :
    Same Session.view (tunnelBranch env lib getFakeTTL p replyFirst dst target originHost first) := by
  unfold tunnelBranch
  rw [if_neg (by rw [htls]; exact Bool.false_ne_true)]
  exact Same.ite (tunnelHTTP_same env lib replyFirst dst target originHost) (Same.pure _)

theorem Same.outcome {x : Proc (Session σ) Unit} (h : Same Session.view x) (hv : s.view = s'.view) :
    outcome (x s) = outcome (x s') := by
  obtain ⟨h1, h2⟩ := h s s' hv
  exact Prod.ext h1 (effects_of_view h2)

theorem handleTunnel_same (dst : Bool) (hq : ¬ SplitMatters stream (tlsEnv env getFakeTTL) p originHost)
    (hbuf : s.client.buf = []) (hbuf' : s'.client.buf = []) (hrest : s.client.rest = stream)
    (hv : s.view = s'.view) :
    outcome (handleTunnel env lib getFakeTTL p replyFirst dst target originHost s) =
      outcome (handleTunnel env lib getFakeTTL p replyFirst dst target originHost s') := by
  have hrest' : s'.client.rest = stream := by rw [← rest_of_view hv, hrest]
  by_cases hraw : p.mode = .raw
  · rw [handleTunnel_eq]
    exact Same.outcome ((tunnelStart_raw_same env lib getFakeTTL replyFirst target originHost dst
      hraw).bind fun _ => relayOn_same _) hv
  by_cases hlen : 10 ≤ stream.length
  · obtain ⟨s1, hpeek, hv1, h10, hsize⟩ := peek_view hbuf (by rw [hrest]; exact hlen)
    obtain ⟨s1', hpeek', hv1', h10', hsize'⟩ := peek_view hbuf' (by rw [hrest']; exact hlen)
    rw [hrest] at hpeek
    rw [hrest'] at hpeek'
    by_cases htls : isTLS stream = true
    · -- in both runs the record is dropped
      have hquiet : ∀ {s s1 : Session σ}, onClient (Reader.peek 10) s = (.ok (stream.take 10), s1) →
          s1.view = s.view → s.client.rest = stream → 10 ≤ s1.client.buf.length →
          s1.client.buf.length ≤ Reader.bufSize →
          outcome (handleTunnel env lib getFakeTTL p replyFirst dst target originHost s) =
            (.ok (), s.effects) := by
        intro s s1 hpeek hv1 hrest h10 hsize
        obtain ⟨s2, hrun, he⟩ := tunnelTLS_quiet env getFakeTTL replyFirst target originHost dst hraw htls
          hq ((rest_of_view hv1).trans hrest) h10 hsize
        have hstart := tunnelStart_branch env lib getFakeTTL replyFirst target originHost dst hraw hpeek
        unfold tunnelBranch at hstart
        rw [isTLS_take (by decide), if_pos htls, hrun] at hstart
        rw [handleTunnel_dropped env lib getFakeTTL replyFirst target originHost hstart, he,
          effects_of_view hv1]
      rw [hquiet hpeek hv1 hrest h10 hsize, hquiet hpeek' hv1' hrest' h10' hsize', effects_of_view hv]
    · have hfirst : isTLS (stream.take 10) = false := by
        rw [isTLS_take (by decide)]
        simpa using htls
      have hbranch := tunnelBranch_same env lib getFakeTTL (p := p) replyFirst target originHost dst hfirst
      rw [handleTunnel_branch env lib getFakeTTL replyFirst target originHost dst hraw hpeek,
        handleTunnel_branch env lib getFakeTTL replyFirst target originHost dst hraw hpeek']
      exact Same.outcome (hbranch.bind fun _ => relayOn_same _) (hv1.trans (hv.trans hv1'.symm))
  · obtain ⟨s1, hrun, he⟩ := tunnelStart_short env lib getFakeTTL replyFirst target originHost dst hraw
      (show s.client.rest.length < 10 by rw [hrest]; omega)
    obtain ⟨s1', hrun', he'⟩ := tunnelStart_short env lib getFakeTTL replyFirst target originHost dst hraw
      (show s'.client.rest.length < 10 by rw [hrest']; omega)
    rw [handleTunnel_dropped env lib getFakeTTL replyFirst target originHost hrun,
      handleTunnel_dropped env lib getFakeTTL replyFirst target originHost hrun', he, he',
      effects_of_view hv]

/-! ## a record in one piece is noticed -/

theorem lift_bind_ne_err {τ α β : Type} {x : Res α} {f : α → Proc τ β} {s : τ} {e : String}
    (hx : x ≠ .err e) (hf : ∀ a, (f a s).1 ≠ .err e) : ((lift x >>= f) s).1 ≠ .err e := by
  cases x with
  | ok a => exact hf a
  | err e' => exact fun h => hx (congrArg Res.err (Res.err.inj h))
  | panic => exact fun h => nomatch h

theorem onDst_ne_err {x : Proc Upstream Unit} {t : Tunnel} (ht : t.dst.Reliable)
    (hx : Crashes x ∨ ∃ ws, Sends x ws ()) (e : String) : (onDst x t).1 ≠ .err e := by
  show (x t.dst).1 ≠ .err e
  rcases hx with hc | ⟨ws, hws⟩
  · rw [hc t.dst ht]
    exact fun h => nomatch h
  · rw [hws t.dst ht]
    exact fun h => nomatch h

theorem sendByPolicy_crashes_or_sends {record : Bytes} {h : Hello} (p : Policy)
    (hp : parseClientHello record = .ok h) (hd : CompleteRecord record)
    (hname : ¬ (h.sniPos ≤ 0 ∨ h.sniLen = 0)) :
    Crashes (sendByPolicy p record h) ∨ ∃ ws, Sends (sendByPolicy p record h) ws () := by
  obtain ⟨h47, -, hin⟩ := parseClientHello_spec hp
  unfold SniIn at hin
  by_cases hl : Lossy p.numRecords p.numSegments (p.oob = .true) (p.oobEx = .true) ∧
      h.sniPos + h.sniLen < record.length
  · obtain ⟨ws, hws, -⟩ := sendRecords_loses _ _ (p.modMinorVer = .true) h47 hd
      (show Cuttable record h.sniPos h.sniLen from ⟨by omega, hl.2⟩) hl.1
    exact .inr ⟨ws, hws⟩
  · rcases sendRecords_conveys _ _ (p.modMinorVer = .true) h47 hd (by omega) hl with hc | ⟨ws, hws, -⟩
    · exact .inl hc
    · exact .inr ⟨ws, hws⟩

theorem sendByMode_ne_err (env : TlsEnv) {record : Bytes} {h : Hello} {t : Tunnel}
    (hp : parseClientHello record = .ok h) (hd : CompleteRecord record)
    (hname : ¬ (h.sniPos ≤ 0 ∨ h.sniLen = 0)) (ht : t.dst.Reliable) (e : String) :
    (sendByMode env p target record h t).1 ≠ .err e := by
  unfold sendByMode
  cases hm : p.mode with
  | direct => exact onDst_ne_err ht (.inr ⟨_, Sends.send _⟩) e
  | tlsrf => exact onDst_ne_err ht (sendByPolicy_crashes_or_sends p hp hd hname) e
  | ttld =>
    refine lift_bind_ne_err ?_ fun c => lift_bind_ne_err ?_ fun ttl => ?_
    · exact idx_ne_err e
    · unfold tunnelTTL
      split
      · exact fun h => nomatch h
      · next hno => exact hno e
    · show (onDst (desyncSend record h.sniPos h.sniLen ttl) { t with desyncTTLs := _ }).1 ≠ .err e
      refine onDst_ne_err ht ?_ e
      by_cases hin : h.sniPos + h.sniLen < record.length
      · exact .inr ⟨_, desyncSend_sends (by omega) hin ttl⟩
      · exact .inl (desyncSend_crash (by omega) ttl)
  | unknown => exact fun h => nomatch h
  | raw => exact fun h => nomatch h
  | block => exact fun h => nomatch h
  | tlsAlert => exact fun h => nomatch h

theorem okIf_ne_err {x : Proc Tunnel Unit} {t : Tunnel} (hx : ∀ e, (x t).1 ≠ .err e) :
    (okIf x t).1 = .panic ∨ (okIf x t).1 = .ok true := by
  unfold okIf
  rcases hr : x t with ⟨r, t'⟩
  cases r with
  | ok u =>
    rw [run_bind_ok (attempt_ok hr)]
    exact .inr rfl
  | err e => exact absurd (congrArg Prod.fst hr) (hx e)
  | panic =>
    rw [run_bind_panic (attempt_panic hr)]
    exact .inl rfl

theorem alert_seen {prtVer : Bytes} (h : prtVer.length = 2) (desc : UInt8) :
    ∃ t', (sendTLSAlert prtVer desc >>= fun _ => pure false) ({} : Tunnel) = (.ok false, t') ∧
      t'.cli.sent ≠ [] := by
  obtain ⟨a, b, rfl⟩ : ∃ a b, prtVer = [a, b] := List.length_eq_two.mp h
  exact ⟨_, rfl, List.cons_ne_nil _ _⟩

theorem handleTLS_noticed {env : TlsEnv} {record : Bytes} {h : Hello} {originHost : Bytes}
    (hp : parseClientHello record = .ok h) (hd : CompleteRecord record)
    (hn : Noticed env p originHost record h) :
    ∃ r t', handleTLS env record.length p replyFirst originHost target (.ok record) {} = (r, t') ∧
      (r = .panic ∨ r = .ok true ∨ r = .ok false ∧ t'.cli.sent ≠ []) := by
  obtain ⟨h47, hver, hin⟩ := parseClientHello_spec hp
  unfold SniIn at hin
  obtain ⟨t1, hdial⟩ : ∃ t1 : Tunnel, dialLate p replyFirst target {} = (.ok (), t1) := by
    cases replyFirst with
    | true => exact ⟨_, rfl⟩
    | false => exact ⟨_, rfl⟩
  have hdst : t1.dst.Reliable := by
    rw [show t1.dst = {} from dialLate_dst hdial]
    exact fun _ => rfl
  have hsend : ∀ {x : Proc Tunnel Unit}, (∀ e, (x t1).1 ≠ .err e) →
      ∃ r t', okIf (dialLate p replyFirst target >>= fun _ => x) {} = (r, t') ∧
        (r = .panic ∨ r = .ok true ∨ r = .ok false ∧ t'.cli.sent ≠ []) := by
    intro x hx
    refine ⟨_, _, rfl, ?_⟩
    have hok := okIf_ne_err (x := dialLate p replyFirst target >>= fun _ => x) (t := {}) (by
      rw [run_bind_ok hdial]
      exact hx)
    exact hok.imp id .inl
  have halert : ∀ desc, ∃ r t', (sendTLSAlert h.prtVer desc >>= fun _ => pure false) ({} : Tunnel) =
      (r, t') ∧ (r = .panic ∨ r = .ok true ∨ r = .ok false ∧ t'.cli.sent ≠ []) := by
    intro desc
    obtain ⟨t', hrun, hsent⟩ := alert_seen hver desc
    exact ⟨_, t', hrun, .inr (.inr ⟨rfl, hsent⟩)⟩
  unfold handleTLS
  dsimp only
  rw [if_neg (by omega), hp]
  unfold handleHello
  dsimp only
  by_cases h1 : p.mode = .tlsAlert
  · rw [if_pos h1]
    exact halert _
  rw [if_neg h1]
  by_cases h2 : p.tls13Only = .true ∧ h.hasKeyShare = false
  · rw [if_pos h2]
    exact halert _
  rw [if_neg h2]
  by_cases h3 : h.sniPos ≤ 0 ∨ h.sniLen = 0
  · rw [if_pos h3]
    exact hsend (onDst_ne_err hdst (.inr ⟨_, Sends.send _⟩))
  rw [if_neg h3]
  have hslice := slice_of_le (d := record) (show 0 ≤ h.sniPos by omega)
    (show h.sniPos ≤ h.sniPos + h.sniLen by omega) (by omega)
  have hmode := ((hn.resolve_left h1).resolve_left h2).resolve_left h3 _ hslice
  rw [handleNamed_eq hslice]
  generalize (record.take (h.sniPos + h.sniLen).toNat).drop h.sniPos.toNat = sni at hmode ⊢
  generalize tunnelSniMode env originHost sni = m at hmode ⊢
  have hby := hsend (sendByMode_ne_err (p := p) target env hp hd h3 hdst)
  cases m with
  | none => exact hby
  | some m =>
    cases m with
    | block => exact absurd rfl hmode
    | tlsAlert => exact halert _
    | _ => exact hby

theorem relay_relaying (s : Session σ) : (relay s).2.relaying = true := by
  have hkeep : ∀ s : Session σ, Keeps (·.relaying) (if s.client.rest = [] then pure () else
      attempt (onTunnel (onDst (send (.data s.client.rest)))) >>= fun _ =>
        onClient (modify (Reader.skip s.client.rest.length)) : Proc (Session σ) Unit) := fun s =>
    Keeps.ite (Keeps.pure _) ((Keeps.attempt fun s => rfl).bind fun _ => fun s => rfl)
  exact hkeep { s with relaying := true } { s with relaying := true }

/-- the client's bytes are cut behind the first ten -/
def cutSession (routing : σ) (stream : Bytes) : Session σ :=
  ⟨routing, { segs := [stream.take 10, stream.drop 10] }, {}, [], false⟩

theorem handleTunnel_cut (dst : Bool) (routing : σ) (hraw : p.mode ≠ .raw) (htls : isTLS stream = true)
    (hlen : 10 < recordLen stream) (h10 : 10 ≤ stream.length) :
    outcome (handleTunnel env lib getFakeTTL p replyFirst dst target originHost
      (cutSession routing stream)) = (.ok (), routing, {}, [], false) := by
  have hten : (stream.take 10).length = 10 := by
    rw [List.length_take]
    omega
  have hpeek : onClient (Reader.peek 10) (cutSession routing stream) = (.ok (stream.take 10),
      (⟨routing, { buf := stream.take 10, segs := [stream.drop 10] }, {}, [], false⟩ : Session σ)) :=
    zoom_eq (Reader.peek_cut (by decide) hten (by decide) _ _)
  have hstart := tunnelStart_branch env lib getFakeTTL replyFirst target originHost dst hraw hpeek
  unfold tunnelBranch at hstart
  rw [isTLS_take (by decide), if_pos htls,
    tunnelTLS_run _ _ _ _ _ _ _ _ (List.ne_nil_of_length_pos (by dsimp only; omega)),
    recordLen_take (by decide) h10,
    handleTLS_short _ _ _ _ _ (by rw [List.length_take]; dsimp only; omega)] at hstart
  rw [handleTunnel_dropped env lib getFakeTTL replyFirst target originHost hstart]
  rfl

theorem handleTunnel_whole (routing : σ) (h : SplitMatters stream (tlsEnv env getFakeTTL) p originHost) :
    outcome (handleTunnel env lib getFakeTTL p replyFirst (!replyFirst) target originHost
      (openSession routing stream)) ≠ (.ok (), routing, {}, [], false) := by
  obtain ⟨hraw, htls, hsize, hle, hello, hp, hn⟩ := h
  have h47 := (parseClientHello_spec hp).1
  rw [List.length_take] at h47
  obtain ⟨r', hrest, hbuf, hrun⟩ := tunnelStart_peeked env lib getFakeTTL replyFirst target originHost
    routing hraw (show 10 ≤ stream.length by omega)
  have hbl : recordLen stream ≤ r'.buf.length := by
    rw [hbuf, List.length_take]
    omega
  have hrecord : r'.buf.take (recordLen stream) = stream.take (recordLen stream) := by
    rw [Reader.buf_take hbl, hrest]
  have hlen : (stream.take (recordLen stream)).length = recordLen stream := by
    rw [List.length_take]
    omega
  have hd := completeRecord_take (show 5 ≤ stream.length by omega) hle
  obtain ⟨r, t', htrun, hcases⟩ := handleTLS_noticed replyFirst target hp hd hn
  rw [if_pos htls, tunnelTLS_run _ _ _ _ _ _ _ _ (List.ne_nil_of_length_pos (by dsimp only; omega)),
    recordLen_take (by decide) (by omega)] at hrun
  dsimp only at hrun
  rw [hrecord] at hrun
  rw [hlen] at htrun
  have hon : onTunnel (handleTLS (tlsEnv env getFakeTTL) (recordLen stream) p replyFirst originHost target
      (.ok (stream.take (recordLen stream))))
      (⟨routing, { r' with buf := r'.buf.drop (recordLen stream) }, {}, [], false⟩ : Session σ) =
      (r, ⟨routing, { r' with buf := r'.buf.drop (recordLen stream) }, t', [], false⟩) := zoom_eq htrun
  rw [handleTunnel_eq]
  intro hout
  rcases hcases with rfl | rfl | ⟨rfl, hsent⟩
  · rw [run_bind_panic hon] at hrun
    rw [run_bind_panic hrun] at hout
    cases congrArg Prod.fst hout
  · rw [run_bind_ok hon] at hrun
    have hor : (replyFirst || !replyFirst) = true := by
      cases replyFirst with
      | true => rfl
      | false => rfl
    rw [run_bind_ok hrun, if_pos rfl, hor] at hout
    have hrel := congrArg (fun v => v.2.2.2.2) hout
    exact Bool.false_ne_true (hrel.symm.trans (relay_relaying _))
  · rw [run_bind_ok hon] at hrun
    rw [run_bind_ok hrun] at hout
    exact hsent (congrArg (fun v => v.2.2.1.cli.sent) hout)

/-- **A client delivered in different pieces.**  Whatever fails, `handleTunnel` ends the same way, has
made the same sends and gives the same answers for all ways to cut the bytes of the client, exactly if
these are not a record that is noticed when it comes in one piece. -/
theorem segments_iff (p : Policy) (routing : σ) (stream : Bytes) :
    (∀ t ending segs segs', Delivers stream segs → Delivers stream segs' →
      outcome (handleTunnel env lib getFakeTTL p replyFirst (!replyFirst) target originHost
        ⟨routing, { segs := segs, ending := ending }, t, [], false⟩) =
      outcome (handleTunnel env lib getFakeTTL p replyFirst (!replyFirst) target originHost
        ⟨routing, { segs := segs', ending := ending }, t, [], false⟩)) ↔
      ¬ SplitMatters stream (tlsEnv env getFakeTTL) p originHost := by
  constructor
  · intro h hbad
    obtain ⟨hraw, htls, hsize, hle, hello, hp, hn⟩ := id hbad
    have h47 := (parseClientHello_spec hp).1
    rw [List.length_take] at h47
    have hone : Delivers stream [stream] := by
      refine ⟨List.flatten_singleton, fun hmem => ?_⟩
      rw [← List.mem_singleton.mp hmem, List.length_nil] at hle h47
      omega
    have htwo : Delivers stream [stream.take 10, stream.drop 10] := by
      refine ⟨?_, fun hmem => ?_⟩
      · rw [List.flatten_cons, List.flatten_singleton, List.take_append_drop]
      · rcases List.mem_cons.mp hmem with hnil | hnil
        · have hl := congrArg List.length hnil
          rw [List.length_nil, List.length_take] at hl
          omega
        · have hl := congrArg List.length (List.mem_singleton.mp hnil)
          rw [List.length_nil, List.length_drop] at hl
          omega
    refine handleTunnel_whole env lib getFakeTTL replyFirst target originHost routing hbad ?_
    rw [← handleTunnel_cut env lib getFakeTTL replyFirst target originHost (!replyFirst) routing hraw htls
      (by omega) (by omega)]
    exact h {} "EOF" _ _ hone htwo
  · intro hq t ending segs segs' hsegs hsegs'
    refine handleTunnel_same env lib getFakeTTL replyFirst target originHost (!replyFirst) hq rfl rfl
      hsegs.1 ?_
    unfold Session.view Reader.rest
    dsimp only
    rw [hsegs.1, hsegs'.1]

end

/-- in one piece the hello is forwarded, in two it is dropped -/
theorem segments_differ :
    ((handleTunnel (oneRuleEnv {} {}) lineLib noProbe { mode := .direct } false true
        (lit "192.0.2.1:443") (lit "a.b") >>= fun _ => get >>= fun s => pure (s.tunnel.dst.sent, s.relaying))
      ⟨(), { segs := [sampleHello] }, {}, [], false⟩).1 = .ok ([.data sampleHello], true) ∧
    ((handleTunnel (oneRuleEnv {} {}) lineLib noProbe { mode := .direct } false true
        (lit "192.0.2.1:443") (lit "a.b") >>= fun _ => get >>= fun s => pure (s.tunnel.dst.sent, s.relaying))
      ⟨(), { segs := [sampleHello.take 10, sampleHello.drop 10] }, {}, [], false⟩).1 =
      .ok ([], false) := by
  constructor
  · decide +kernel
  · decide +kernel

end Bill
