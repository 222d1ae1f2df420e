import BillVpn.Tls.PolicyConn

/-!
# The three callers of `sendRecords`

The desktop tunnel (`handleTLS`), the mobile bridge (`handleTLSLocked`) and the connection to a
DoH server (`interceptConn.Write`) parse the record themselves and guard the fragmentation
differently: `handleTLS` sends a record without a name, or with an empty one, unfragmented;
`interceptConn.Write` does so without a name only; the bridge has no guard.

* `NameInside`       the byte after the server name is still in the record: what `findLastDot` needs;
* `handleTLSLocked_inRange`, `handleTLS_inRange`, `intercept_inRange`   each caller stays in range
                     exactly where it refuses the record, sends it whole, or finds the name inside.
-/

set_option linter.unusedVariables false

namespace Bill
open Go Res Proc Conn

/-! ## the desktop tunnel -/

/-- the connections of a tunnel, and the dials made by the handlers -/
structure Tunnel where
  dst : Upstream := {}
  cli : Upstream := {}
  dials : List (Bytes × Int) := []
  dialFails : Nat → Option String := fun _ => none
  /-- the TTLs that `desyncSend` was called with, whatever came of it -/
  desyncTTLs : List Int := []

def onDst {α : Type} (x : Proc Upstream α) : Proc Tunnel α :=
  zoom (·.dst) (fun u t => { t with dst := u }) x

def onCli {α : Type} (x : Proc Upstream α) : Proc Tunnel α :=
  zoom (·.cli) (fun u t => { t with cli := u }) x

/-- `net.DialTimeout("tcp", target, timeout)` -/
def dialTimeout (target : Bytes) (timeout : Int) : Proc Tunnel Unit := fun t =>
  match t.dialFails t.dials.length with
  | some e => (.err e, { t with dials := t.dials ++ [(target, timeout)] })
  | none => (.ok (), { t with dials := t.dials ++ [(target, timeout)] })

/-- with `replyFirst` the upstream connection is dialed only now -/
def dialLate (p : Policy) (replyFirst : Bool) (target : Bytes) : Proc Tunnel Unit :=
  if replyFirst then dialTimeout target p.connectTimeout else pure ()

/-- an error of `sendTLSAlert` is only logged -/
def sendTLSAlert (prtVer : Bytes) (desc : UInt8) : Proc Tunnel Unit := do
  let alert ← lift (tlsAlert prtVer desc)
  let _ ← attempt (onCli (send (.data alert)))
  pure ()

/-- `if err != nil { return }`, with `ok = true` otherwise -/
def okIf (x : Proc Tunnel Unit) : Proc Tunnel Bool := do
  match ← attempt x with
  | .error _ => pure false
  | .ok _ => pure true

/-- a failed probe leaves the TTL at `-1`, and `desyncSend` is called with that -/
def tunnelTTL (env : TlsEnv) (p : Policy) (target : Bytes) (ipv6 : Bool) : Res Int :=
  match env.getFakeTTL p target ipv6 with
  | .err _ => .ok (-1)
  | r => r

def callDesyncSend (record : Bytes) (h : Hello) (ttl : Int) : Proc Tunnel Unit := do
  modify fun t => { t with desyncTTLs := t.desyncTTLs ++ [ttl] }
  onDst (desyncSend record h.sniPos h.sniLen ttl)

def sendByMode (env : TlsEnv) (p : Policy) (target record : Bytes) (h : Hello) : Proc Tunnel Unit :=
  match p.mode with
  | .direct => onDst (send (.data record))
  | .tlsrf => onDst (sendByPolicy p record h)
  | .ttld => do
    let c ← lift (idx target 0)
    let ttl ← lift (tunnelTTL env p target (c == lbracket))
    callDesyncSend record h ttl
  | _ => pure ()

/-- the mode of the server name, which counts only where the name is not the requested host -/
def tunnelSniMode (env : TlsEnv) (originHost sni : Bytes) : Option Mode :=
  if originHost = sni then none
  else match env.domainFind sni with
    | some d => some (mergePolicies [d, env.defaultPolicy]).mode
    | none => some env.defaultPolicy.mode

/-- the branch with a server name -/
def handleNamed (env : TlsEnv) (p : Policy) (replyFirst : Bool) (originHost target record : Bytes)
    (h : Hello) : Proc Tunnel Bool := do
  let sni ← lift (slice record h.sniPos (h.sniPos + h.sniLen))
  match tunnelSniMode env originHost sni with
  | some .block => pure false
  | some .tlsAlert => do
    sendTLSAlert h.prtVer tlsAlertAccessDenied
    pure false
  | _ => okIf do
    dialLate p replyFirst target
    sendByMode env p target record h

theorem handleNamed_eq {env : TlsEnv} {p : Policy} {replyFirst : Bool}
    {originHost target record sni : Bytes} {h : Hello}
    (hs : slice record h.sniPos (h.sniPos + h.sniLen) = .ok sni) :
    handleNamed env p replyFirst originHost target record h =
      match tunnelSniMode env originHost sni with
      | some .block => pure false
      | some .tlsAlert => sendTLSAlert h.prtVer tlsAlertAccessDenied >>= fun _ => pure false
      | _ => okIf (dialLate p replyFirst target >>= fun _ => sendByMode env p target record h) := by
  unfold handleNamed
  rw [hs]
  rfl

/-- past the parser -/
def handleHello (env : TlsEnv) (p : Policy) (replyFirst : Bool) (originHost target record : Bytes)
    (h : Hello) : Proc Tunnel Bool :=
  if p.mode = .tlsAlert then do
    sendTLSAlert h.prtVer tlsAlertAccessDenied
    pure false
  else if p.tls13Only = .true ∧ h.hasKeyShare = false then do
    sendTLSAlert h.prtVer tlsAlertProtocolVersion
    pure false
  else if h.sniPos ≤ 0 ∨ h.sniLen = 0 then okIf do
    dialLate p replyFirst target
    onDst (send (.data record))
  else handleNamed env p replyFirst originHost target record h

/-- `got` is what `br.Read(record)` delivered -/
def handleTLS (env : TlsEnv) (recordLen : Nat) (p : Policy) (replyFirst : Bool)
    (originHost target : Bytes) (got : Except String Bytes) : Proc Tunnel Bool :=
  match got with
  | .error _ => pure false
  | .ok record =>
    if record.length < recordLen then pure false
    else match parseClientHello record with
      | .panic => lift .panic
      | .err _ => pure false
      | .ok h => handleHello env p replyFirst originHost target record h

/-! ## the connection to a DoH server -/

structure InterceptConn where
  conn : Upstream := {}
  handled : Bool := false

def onInner {α : Type} (x : Proc Upstream α) : Proc InterceptConn α :=
  zoom (·.conn) (fun u c => { c with conn := u }) x

/-- past the parser; a mode without a branch sends nothing -/
def interceptHello (env : TlsEnv) (p : Policy) (raddr b : Bytes) (h : Hello) :
    Proc InterceptConn Unit :=
  if p.tls13Only = .true ∧ h.hasKeyShare = false then fail "not a TLS 1.3 ClientHello"
  else if h.sniPos = -1 then onInner (send (.data b))
  else match p.mode with
    | .direct => onInner (send (.data b))
    | .raw => onInner (send (.data b))
    | .ttld => do
      let c ← lift (idx raddr 0)
      let ttl ← wrap "get fake TTL" (lift (env.getFakeTTL p raddr (c == lbracket)))
      wrap "ttl desync" (onInner (desyncSend b h.sniPos h.sniLen ttl))
    | .tlsrf => wrap "tls fragment" (onInner (sendByPolicy p b h))
    | _ => pure ()

/-- the first `Write`; `p` is `dohConnPolicy` and `raddr` the remote address -/
def interceptFirst (env : TlsEnv) (p : Policy) (raddr b : Bytes) : Proc InterceptConn Unit :=
  if p.mode = .block ∨ p.mode = .tlsAlert then fail "blocked by policy"
  else match parseClientHello b with
    | .panic => lift .panic
    | .err e => fail e
    | .ok h => interceptHello env p raddr b h

def InterceptConn.write (env : TlsEnv) (p : Policy) (raddr b : Bytes) : Proc InterceptConn Nat := do
  let c ← get
  if c.handled then do
    onInner (send (.data b))
    pure b.length
  else do
    modify fun c => { c with handled := true }
    interceptFirst env p raddr b
    pure b.length

/-! ## no panic along the way -/

theorem tlsAlert_ne_panic {prtVer : Bytes} (h : prtVer.length = 2) (desc : UInt8) :
    tlsAlert prtVer desc ≠ .panic := by
  obtain ⟨a, b, rfl⟩ : ∃ a b, prtVer = [a, b] := List.length_eq_two.mp h
  simp [tlsAlert, idx]

theorem closeLocked_noPanic : NoPanic closeLocked :=
  (Safe.modify _).bind fun _ _ => (Safe.zoom (Safe.modify _)).bind fun _ _ => Safe.fail _

theorem alertLocked_noPanic {prtVer : Bytes} (h : prtVer.length = 2) (desc : UInt8) :
    NoPanic (alertLocked prtVer desc) := by
  refine (Safe.modify _).bind fun _ _ => Safe.lift_bind (tlsAlert_ne_panic h desc) fun alert _ => ?_
  refine (Safe.attempt (Safe.zoom (send_noPanic _))).bind fun _ _ => ?_
  exact (Safe.zoom (Safe.modify _)).bind fun _ _ => Safe.fail _

theorem sendTLSAlert_noPanic {prtVer : Bytes} (h : prtVer.length = 2) (desc : UInt8) :
    NoPanic (sendTLSAlert prtVer desc) := by
  refine Safe.lift_bind (tlsAlert_ne_panic h desc) fun alert _ => ?_
  exact (Safe.attempt (Safe.zoom (send_noPanic _))).bind fun _ _ => Safe.pure trivial

theorem okIf_noPanic {x : Proc Tunnel Unit} (h : NoPanic x) : NoPanic (okIf x) := by
  refine (Safe.attempt h).bind fun r _ => ?_
  cases r with
  | error e => exact Safe.pure trivial
  | ok u => exact Safe.pure trivial

theorem okIf_panics {x : Proc Tunnel Unit} {t : Tunnel} (h : (x t).1 = .panic) :
    (okIf x t).1 = .panic := by
  have hx : x t = (.panic, (x t).2) := Prod.ext h rfl
  unfold okIf
  rw [run_bind_panic (attempt_panic hx)]

theorem dialLate_noPanic (p : Policy) (replyFirst : Bool) (target : Bytes) :
    NoPanic (dialLate p replyFirst target) := by
  refine Safe.ite (fun _ t => ?_) fun _ => Safe.pure trivial
  unfold dialTimeout
  cases t.dialFails t.dials.length <;> simp

/-! ## the send itself -/

/-- there is a server name, and the record does not end with it -/
def NameInside (record : Bytes) (h : Hello) : Prop :=
  h.sniPos ≠ -1 ∧ h.sniPos + h.sniLen < record.length

/-- the record is sent in one piece, or its name can be cut -/
def Sendable (p : Policy) (record : Bytes) (h : Hello) : Prop :=
  Whole p.numRecords p.numSegments ∨ NameInside record h

section
variable {env : TlsEnv} {p : Policy} {record : Bytes} {h : Hello}

theorem sendByPolicy_noPanic (hp : parseClientHello record = .ok h)
    (hadm : Admitted p.numRecords p.numSegments) (hs : Sendable p record h) :
    NoPanic (sendByPolicy p record h) := by
  obtain ⟨h47, -, hsni⟩ := parseClientHello_spec hp
  refine sendRecords_noPanic _ _ _ h47 hadm (hs.imp id fun hin => ?_)
  unfold NameInside at hin
  unfold SniIn at hsni
  exact ⟨by omega, hin.2⟩

theorem sendByPolicy_crashes (hp : parseClientHello record = .ok h)
    (hadm : Admitted p.numRecords p.numSegments) (hs : ¬ Sendable p record h) :
    Crashes (sendByPolicy p record h) := by
  obtain ⟨h47, -, hsni⟩ := parseClientHello_spec hp
  unfold Sendable NameInside at hs
  rw [not_or] at hs
  refine sendRecords_crash _ _ _ h47 hadm hs.1 ?_
  have hn := hs.2
  unfold SniIn at hsni
  omega

/-! ## the callers -/

/-- the bridge fragments the record: no refusal for a missing `key_share` or by the name's rule -/
def LockedSends (env : TlsEnv) (p : Policy) (record : Bytes) (h : Hello) : Prop :=
  ¬ (p.tls13Only = .true ∧ h.hasKeyShare = false) ∧
    ∀ m, sniMode env record h = .ok (some m) → m ≠ .block ∧ m ≠ .tlsAlert

theorem sniMode_ne_panic (hp : parseClientHello record = .ok h) : sniMode env record h ≠ .panic := by
  obtain ⟨-, -, hsni⟩ := parseClientHello_spec hp
  unfold sniMode
  split_ifs with h1
  · intro hpanic
    rcases bind_eq_panic.mp hpanic with hs | ⟨sni, -, hs⟩
    · rw [slice_eq_panic] at hs
      unfold SniIn at hsni
      omega
    · cases hs
  · simp

theorem handleTLSLocked_inRange {plan : DialPlan} (hp : parseClientHello record = .ok h)
    (hm : plan.policy.mode = .tlsrf)
    (hadm : Admitted plan.policy.numRecords plan.policy.numSegments) :
    (∀ c, (handleTLSLocked env plan record c).1 ≠ .panic) ↔
      (LockedSends env plan.policy record h → Sendable plan.policy record h) := by
  have hver := (parseClientHello_spec hp).2.1
  have hfwd : forwardLocked env plan record h = onConn (sendByPolicy plan.policy record h) := by
    unfold forwardLocked; rw [hm]
  have hrun : handleTLSLocked env plan record = decideLocked env plan record h := by
    unfold handleTLSLocked; rw [hp]
  rw [hrun]
  unfold decideLocked
  rw [if_neg (by rw [hm]; decide)]
  constructor
  · intro hno hsends
    by_contra hbad
    apply hno {}
    rw [if_neg hsends.1, run_bind, run_lift]
    cases hmode : sniMode env record h with
    | panic => rfl
    | err e => exact absurd hmode (by unfold sniMode slice; split_ifs <;> simp)
    | ok m =>
      have hcrash : (forwardLocked env plan record h {}).1 = .panic := by
        rw [hfwd]; exact onConn_crashes (sendByPolicy_crashes hp hadm hbad) fun _ => rfl
      dsimp only
      split
      · exact absurd rfl (hsends.2 _ hmode).1
      · exact absurd rfl (hsends.2 _ hmode).2
      · exact hcrash
  · intro hs c
    refine NoPanic.run (Safe.ite (fun _ => alertLocked_noPanic hver _) fun h1 => ?_) c
    refine Safe.lift_bind (sniMode_ne_panic hp) fun m hmode => ?_
    split
    · exact closeLocked_noPanic
    · exact alertLocked_noPanic hver _
    · rename_i hb ha
      rw [hfwd]
      refine Safe.zoom (sendByPolicy_noPanic hp hadm (hs ⟨h1, fun m' hm' => ?_⟩))
      rw [hmode] at hm'
      exact ⟨fun he => hb (by cases hm'; rw [he]), fun he => ha (by cases hm'; rw [he])⟩

/-- the desktop tunnel fragments the record: there is a name that is not refused -/
def TunnelSends (env : TlsEnv) (p : Policy) (originHost record : Bytes) (h : Hello) : Prop :=
  ¬ (p.tls13Only = .true ∧ h.hasKeyShare = false) ∧ ¬ (h.sniPos ≤ 0 ∨ h.sniLen = 0) ∧
    ∀ sni, slice record h.sniPos (h.sniPos + h.sniLen) = .ok sni →
      tunnelSniMode env originHost sni ≠ some .block ∧ tunnelSniMode env originHost sni ≠ some .tlsAlert

theorem handleTLS_inRange (replyFirst : Bool) (originHost target : Bytes)
    (hp : parseClientHello record = .ok h) (hm : p.mode = .tlsrf)
    (hadm : Admitted p.numRecords p.numSegments) :
    (∀ t, (handleTLS env record.length p replyFirst originHost target (.ok record) t).1 ≠ .panic) ↔
      (TunnelSends env p originHost record h → Sendable p record h) := by
  obtain ⟨h47, hver, hsni⟩ := parseClientHello_spec hp
  have hrun : handleTLS env record.length p replyFirst originHost target (.ok record) =
      handleHello env p replyFirst originHost target record h := by
    unfold handleTLS; dsimp only; rw [if_neg (by omega), hp]
  have hsend : sendByMode env p target record h = onDst (sendByPolicy p record h) := by
    unfold sendByMode; rw [hm]
  have hslice : 0 < h.sniPos → ∃ sni, slice record h.sniPos (h.sniPos + h.sniLen) = .ok sni := by
    intro hpos
    unfold SniIn at hsni
    exact ⟨_, slice_of_le (by omega) (by omega) (by omega)⟩
  rw [hrun]
  unfold handleHello
  rw [if_neg (by rw [hm]; decide)]
  constructor
  · intro hno hsends
    by_contra hbad
    obtain ⟨sni, hs⟩ := hslice (by have := hsends.2.1; omega)
    apply hno {}
    rw [if_neg hsends.1, if_neg hsends.2.1]
    unfold handleNamed
    rw [hs, run_bind, run_lift]
    dsimp only
    have hcrash : ((do dialLate p replyFirst target
                       sendByMode env p target record h) ({} : Tunnel)).1 = .panic := by
      rw [hsend]
      cases replyFirst with
      | false => exact sendByPolicy_crashes hp hadm hbad _ fun _ => rfl
      | true => exact sendByPolicy_crashes hp hadm hbad _ fun _ => rfl
    have hm2 := hsends.2.2 sni hs
    generalize tunnelSniMode env originHost sni = m at hm2 ⊢
    rcases m with _ | m
    · exact okIf_panics hcrash
    · cases m with
      | block => exact absurd rfl hm2.1
      | tlsAlert => exact absurd rfl hm2.2
      | _ => exact okIf_panics hcrash
  · intro hs t
    refine NoPanic.run (Safe.ite (fun _ => ?_) fun h1 => Safe.ite (fun _ => ?_) fun h2 => ?_) t
    · exact (sendTLSAlert_noPanic hver _).bind fun _ _ => Safe.pure trivial
    · exact okIf_noPanic ((dialLate_noPanic _ _ _).bind fun _ _ => Safe.zoom (send_noPanic _))
    · obtain ⟨sni, hsl⟩ := hslice (by omega)
      unfold handleNamed
      rw [hsl]
      refine Safe.lift_bind (by simp) fun s hsni' => ?_
      cases hsni'
      split
      · exact Safe.pure trivial
      · exact (sendTLSAlert_noPanic hver _).bind fun _ _ => Safe.pure trivial
      · rename_i hb ha
        rw [hsend]
        refine okIf_noPanic ((dialLate_noPanic _ _ _).bind fun _ _ => Safe.zoom ?_)
        refine sendByPolicy_noPanic hp hadm (hs ⟨h1, h2, fun s' hs' => ?_⟩)
        rw [hsl] at hs'
        cases hs'
        exact ⟨fun he => hb he, fun he => ha he⟩

/-- the DoH connection fragments the record: there is a name, an empty one included -/
def InterceptSends (p : Policy) (h : Hello) : Prop :=
  ¬ (p.tls13Only = .true ∧ h.hasKeyShare = false) ∧ h.sniPos ≠ -1

theorem intercept_inRange (raddr : Bytes) (hp : parseClientHello record = .ok h)
    (hm : p.mode = .tlsrf) (hadm : Admitted p.numRecords p.numSegments) :
    (∀ c, (InterceptConn.write env p raddr record c).1 ≠ .panic) ↔
      (InterceptSends p h → Sendable p record h) := by
  have hfirst : interceptFirst env p raddr record = interceptHello env p raddr record h := by
    unfold interceptFirst; rw [if_neg (by rw [hm]; decide), hp]
  have hmode : interceptHello env p raddr record h =
      if p.tls13Only = .true ∧ h.hasKeyShare = false then fail "not a TLS 1.3 ClientHello"
      else if h.sniPos = -1 then onInner (send (.data record))
      else wrap "tls fragment" (onInner (sendByPolicy p record h)) := by
    unfold interceptHello; rw [hm]
  unfold InterceptConn.write
  rw [hfirst, hmode]
  constructor
  · intro hno hsends
    by_contra hbad
    apply hno {}
    have hcrash : (wrap "tls fragment" (onInner (sendByPolicy p record h)) ⟨{}, true⟩).1 = .panic :=
      wrap_panic.mpr (sendByPolicy_crashes hp hadm hbad _ fun _ => rfl)
    rw [run_bind_ok (run_get _), if_neg (by simp), run_bind_ok (run_modify _ _), if_neg hsends.1,
      if_neg hsends.2, run_bind_panic (Prod.ext hcrash rfl)]
  · intro hs c
    refine NoPanic.run (Safe.bind (P := fun _ => True) (fun s => by simp) fun c _ => ?_) c
    refine Safe.ite (fun _ => ?_) fun _ => (Safe.modify _).bind fun _ _ => ?_
    · exact (Safe.zoom (send_noPanic _)).bind fun _ _ => Safe.pure trivial
    refine Safe.bind (P := fun _ => True) ?_ fun _ _ => Safe.pure trivial
    refine Safe.ite (fun _ => Safe.fail _) fun h1 => Safe.ite (fun _ => Safe.zoom (send_noPanic _)) fun h2 => ?_
    exact (Safe.zoom (sendByPolicy_noPanic hp hadm (hs ⟨h1, h2⟩))).wrap

end

/-- **In range, caller by caller.**  On a record that the parser accepts and with counts that a
policy may ask for, a caller never reads out of range, whatever its connections do, exactly if
it does not fragment the record, or the record is sent whole, or the record goes on behind its
server name. -/
theorem callers_inRange_iff (env : TlsEnv) (plan : DialPlan) (replyFirst : Bool)
    (originHost target raddr record : Bytes) (h : Hello) (hp : parseClientHello record = .ok h)
    (hm : plan.policy.mode = .tlsrf)
    (hadm : Admitted plan.policy.numRecords plan.policy.numSegments) :
    ((∀ c, (handleTLSLocked env plan record c).1 ≠ .panic) ↔
      (LockedSends env plan.policy record h → Sendable plan.policy record h)) ∧
    ((∀ t, (handleTLS env record.length plan.policy replyFirst originHost target (.ok record) t).1 ≠
        .panic) ↔
      (TunnelSends env plan.policy originHost record h → Sendable plan.policy record h)) ∧
    ((∀ c, (InterceptConn.write env plan.policy raddr record c).1 ≠ .panic) ↔
      (InterceptSends plan.policy h → Sendable plan.policy record h)) :=
  ⟨handleTLSLocked_inRange hp hm hadm, handleTLS_inRange replyFirst originHost target hp hm hadm,
    intercept_inRange raddr hp hm hadm⟩

theorem callers_inRange_sample :
    (handleTLSLocked bareEnv fragmentPlan sampleHello {}).1 ≠ .panic :=
  (callers_inRange_iff bareEnv fragmentPlan false [] [] [] sampleHello ⟨[3, 3], 61, 3, true⟩
    (by decide +kernel) rfl ⟨by decide, Or.inl (by decide)⟩).1.mpr
    (fun _ => Or.inr ⟨by decide, by decide +kernel⟩) {}

/-- Without a name the bridge panics; with the name at the end of the record all three do. -/
theorem callers_outOfRange :
    parseClientHello namelessHello = .ok ⟨[3, 3], -1, 0, false⟩ ∧
    (handleTLSLocked bareEnv fragmentPlan namelessHello {}).1 = .panic ∧
    parseClientHello lastNameHello = .ok ⟨[3, 3], 61, 3, false⟩ ∧
    (handleTLSLocked bareEnv fragmentPlan lastNameHello {}).1 = .panic ∧
    (handleTLS bareEnv lastNameHello.length fragmentPlan.policy false (lit "a.b") (lit "192.0.2.1:443")
      (.ok lastNameHello) {}).1 = .panic ∧
    (InterceptConn.write bareEnv fragmentPlan.policy (lit "192.0.2.1:443") lastNameHello {}).1 =
      .panic := by
  refine ⟨?_, ?_, ?_, ?_, ?_, ?_⟩ <;> decide +kernel

end Bill
