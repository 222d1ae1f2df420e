import BillVpn.Policy.Plan
import BillVpn.Tls.Refragment

/-!
# The bridge between the TUN device and the upstream connection

A `policyConn` holds the client's bytes back until it can tell what they are: raw traffic, some
protocol other than TLS, or a complete first TLS record.  Then it sends them, and from there on
every `Write` goes straight through.

* `tryHandlePendingLocked`   the decision, with its four exits;
* `PolicyConn.write`         one `Write`, and `PolicyConn.writes` a sequence of them;
* `decideLocked_cases`       what a ClientHello leads to: no value (a panic or a refusal), or exactly
                             the sends `recordSends` of the record.
-/

set_option linter.unusedVariables false

namespace Bill
open Go Res Proc Conn

/-! ## the connection -/

/-- what the TLS handlers read outside the connection -/
structure TlsEnv where
  domainFind : Bytes → Option Policy
  defaultPolicy : Policy
  getFakeTTL : Policy → Bytes → Bool → Res Int

structure PolicyConn where
  conn : Upstream := {}
  handled : Bool := false
  closed : Bool := false
  pending : Bytes := []

def onConn {α : Type} (x : Proc Upstream α) : Proc PolicyConn α :=
  zoom (·.conn) (fun u c => { c with conn := u }) x

def tlsAlertLevelFatal : UInt8 := 2
def tlsAlertAccessDenied : UInt8 := 70
def tlsAlertProtocolVersion : UInt8 := 49

def tlsAlert (prtVer : Bytes) (desc : UInt8) : Res Bytes := do
  let v0 ← idx prtVer 0
  let v1 ← idx prtVer 1
  pure [0x15, v0, v1, 0x00, 0x02, tlsAlertLevelFatal, desc]

def flushPendingLocked : Proc PolicyConn Unit := do
  let c ← get
  if c.pending = [] then modify fun c => { c with handled := true }
  else do
    onConn (send (.data c.pending))
    modify fun c => { c with handled := true, pending := [] }

/-- `c.closed = true; _ = c.Conn.Close(); return io.EOF` -/
def closeLocked : Proc PolicyConn Unit := do
  modify fun c => { c with closed := true }
  onConn Conn.close
  fail "EOF"

/-- the same with an alert, which goes to the embedded connection -/
def alertLocked (prtVer : Bytes) (desc : UInt8) : Proc PolicyConn Unit := do
  modify fun c => { c with closed := true }
  let alert ← lift (tlsAlert prtVer desc)
  let _ ← attempt (onConn (send (.data alert)))
  onConn Conn.close
  fail "EOF"

/-- the mode of the rule for the server name, where there is a name and a rule -/
def sniMode (env : TlsEnv) (record : Bytes) (h : Hello) : Res (Option Mode) :=
  if 0 < h.sniPos ∧ 0 < h.sniLen then do
    let sni ← slice record h.sniPos (h.sniPos + h.sniLen)
    pure ((env.domainFind sni).map fun d => (mergePolicies [d, env.defaultPolicy]).mode)
  else pure none

def planTTL (env : TlsEnv) (plan : DialPlan) (ipv6 : Bool) : Res Int :=
  if plan.policy.fakeTTL = 0 ∨ plan.policy.fakeTTL = unsetInt then
    env.getFakeTTL plan.policy plan.targetHost ipv6
  else .ok plan.policy.fakeTTL

/-- the call of `sendRecords` as all its callers write it -/
def sendByPolicy (p : Policy) (record : Bytes) (h : Hello) : Proc Upstream Unit :=
  sendRecords record h.sniPos h.sniLen p.numRecords p.numSegments
    (p.oob = .true) (p.oobEx = .true) (p.modMinorVer = .true)

def forwardLocked (env : TlsEnv) (plan : DialPlan) (record : Bytes) (h : Hello) :
    Proc PolicyConn Unit :=
  match plan.policy.mode with
  | .tlsrf => onConn (sendByPolicy plan.policy record h)
  | .ttld => do
    let ttl ← lift (planTTL env plan (startsWith lbracket plan.targetHost))
    onConn (desyncSend record h.sniPos h.sniLen ttl)
  | _ => onConn (send (.data record))

/-- past the parser: the refusals, and then the send -/
def decideLocked (env : TlsEnv) (plan : DialPlan) (record : Bytes) (h : Hello) :
    Proc PolicyConn Unit :=
  if plan.policy.mode = .tlsAlert then alertLocked h.prtVer tlsAlertAccessDenied
  else if plan.policy.tls13Only = .true ∧ h.hasKeyShare = false then
    alertLocked h.prtVer tlsAlertProtocolVersion
  else do
    match ← lift (sniMode env record h) with
    | some .block => closeLocked
    | some .tlsAlert => alertLocked h.prtVer tlsAlertAccessDenied
    | _ => forwardLocked env plan record h

/-- a record that is no ClientHello is flushed with everything else that is pending -/
def handleTLSLocked (env : TlsEnv) (plan : DialPlan) (record : Bytes) : Proc PolicyConn Unit :=
  match parseClientHello record with
  | .panic => lift .panic
  | .err _ => flushPendingLocked
  | .ok h => decideLocked env plan record h

/-- `0x16 0x03`: a TLS handshake record -/
def isTLS (d : Bytes) : Bool := d.take 2 == [0x16, 0x03]

/-- the length of the first record, header included -/
def recordLen (d : Bytes) : Nat := 5 + u16At d 3

/-- `c.closed = err != nil` -/
def closedIf (r : Except String Unit) : Proc PolicyConn Unit :=
  modify fun c => { c with closed := match r with | .error _ => true | .ok _ => false }

/-- `c.closed = true` on an error only -/
def closeOnError (r : Except String Unit) : Proc PolicyConn Unit :=
  match r with
  | .error _ => modify fun c => { c with closed := true }
  | .ok _ => pure ()

/-- the bytes behind the first record -/
def forwardTail (tail : Bytes) : Proc PolicyConn Unit :=
  if tail = [] then pure () else do
    let r ← attempt (onConn (send (.data tail)))
    closeOnError r

def handleRecordLocked (env : TlsEnv) (plan : DialPlan) (record tail : Bytes) :
    Proc PolicyConn Unit := do
  match ← attempt (handleTLSLocked env plan record) with
  | .error _ => modify fun c => { c with closed := true }
  | .ok _ => do
    modify fun c => { c with handled := true, pending := [] }
    forwardTail tail

def tryHandlePendingLocked (env : TlsEnv) (plan : DialPlan) : Proc PolicyConn Bool := do
  let c ← get
  if c.pending = [] then pure false
  else if plan.blocked ∨ plan.policy.mode = .block then do
    modify fun c => { c with closed := true }
    onConn Conn.close
    pure true
  else if plan.policy.mode = .raw then do
    let r ← attempt flushPendingLocked
    closedIf r
    pure true
  else if c.pending.length < 5 then pure false
  else if isTLS c.pending then
    if c.pending.length < recordLen c.pending then pure false
    else do
      handleRecordLocked env plan (c.pending.take (recordLen c.pending))
        (c.pending.drop (recordLen c.pending))
      pure true
  else do
    modify fun c => { c with handled := true }
    let r ← attempt flushPendingLocked
    closedIf r
    pure true

def PolicyConn.write (env : TlsEnv) (plan : DialPlan) (b : Bytes) : Proc PolicyConn Nat := do
  let c ← get
  if c.closed then fail "EOF"
  else if c.handled then do
    onConn (send (.data b))
    pure b.length
  else do
    modify fun c => { c with pending := c.pending ++ b }
    let _ ← tryHandlePendingLocked env plan
    pure b.length

/-- a sequence of `Write` calls; the caller may go on after an error, not after a panic -/
def PolicyConn.writes (env : TlsEnv) (plan : DialPlan) : List Bytes → Proc PolicyConn Unit
  | [] => pure ()
  | b :: bs => do
    let _ ← attempt (PolicyConn.write env plan b)
    PolicyConn.writes env plan bs

/-! ## the send of an accepted record -/

section
variable {env : TlsEnv} {plan : DialPlan}

theorem onConn_sends {α : Type} {x : Proc Upstream α} {ws : List Wire} {a : α} {c : PolicyConn}
    (hx : Sends x ws a) (hc : c.conn.Reliable) :
    onConn x c = (.ok a, { c with conn := c.conn.pushAll ws }) := zoom_eq (hx c.conn hc)

theorem onConn_crashes {α : Type} {x : Proc Upstream α} {c : PolicyConn} (hx : Crashes x)
    (hc : c.conn.Reliable) : (onConn x c).1 = .panic := hx c.conn hc

/-- the plans of the bridge: unblocked, and raw, direct or fragmenting with positive counts -/
structure Bridged (plan : DialPlan) : Prop where
  open_ : plan.blocked = false
  mode : plan.policy.mode = .raw ∨ plan.policy.mode = .direct ∨ plan.policy.mode = .tlsrf
  counts : plan.policy.mode = .tlsrf → 1 ≤ plan.policy.numRecords ∧ 1 ≤ plan.policy.numSegments

/-- the sends of an accepted record over a connection that does not fail -/
def recordSends (p : Policy) (record : Bytes) (h : Hello) : List Wire :=
  if p.mode = .tlsrf then (sendByPolicy p record h {}).2.sent else [.data record]

theorem sendByPolicy_cases {p : Policy} {record : Bytes} {h : Hello}
    (hp : parseClientHello record = .ok h) (hd : CompleteRecord record)
    (hr : 1 ≤ p.numRecords) (hs : 1 ≤ p.numSegments) :
    Crashes (sendByPolicy p record h) ∨
      ∃ ws, Sends (sendByPolicy p record h) ws () ∧
        Refragments (p.modMinorVer = .true) record (carried (p.oobEx = .true) ws) := by
  obtain ⟨h47, -, hsni⟩ := parseClientHello_spec hp
  by_cases hc : Whole p.numRecords p.numSegments ∨ Cuttable record h.sniPos h.sniLen
  · exact Or.inr (sendRecords_sends _ _ _ h47 hd hr hs hc)
  · rw [not_or] at hc
    refine Or.inl (sendRecords_crash _ _ _ h47 ⟨hr, Or.inl hs⟩ hc.1 ?_)
    have hn := hc.2
    unfold Cuttable at hn
    unfold SniIn at hsni
    omega

theorem closeLocked_fails : Fails closeLocked := Fails.bind fun _ => Fails.bind fun _ => Fails.fail _

theorem alertLocked_fails (prtVer : Bytes) (desc : UInt8) : Fails (alertLocked prtVer desc) :=
  Fails.bind fun _ => Fails.bind fun _ => Fails.bind fun _ => Fails.bind fun _ => Fails.fail _

/-- in mode `tls-rf` the sends of the record carry it re-fragmented -/
def SentAs (plan : DialPlan) (record : Bytes) (h : Hello) : Prop :=
  plan.policy.mode = .tlsrf → Refragments (plan.policy.modMinorVer = .true) record
    (carried (plan.policy.oobEx = .true) (recordSends plan.policy record h))

theorem forwardLocked_cases (hplan : Bridged plan) (hraw : plan.policy.mode ≠ .raw) {record : Bytes}
    {h : Hello} (hp : parseClientHello record = .ok h) (hd : CompleteRecord record) {c : PolicyConn}
    (hc : c.conn.Reliable) :
    (forwardLocked env plan record h c).1 = .panic ∨
    forwardLocked env plan record h c =
      (.ok (), { c with conn := c.conn.pushAll (recordSends plan.policy record h) }) ∧
      SentAs plan record h := by
  unfold forwardLocked SentAs recordSends
  rcases (hplan.mode).resolve_left hraw with hm | hm
  · rw [hm, if_neg (by decide)]
    exact Or.inr ⟨onConn_sends (Sends.send _) hc, fun ht => by cases ht⟩
  · rw [hm, if_pos rfl]
    obtain ⟨hr, hs⟩ := hplan.counts hm
    rcases sendByPolicy_cases hp hd hr hs with hcr | ⟨ws, hws, hfrag⟩
    · exact Or.inl (onConn_crashes hcr hc)
    · rw [hws.sent_eq]
      exact Or.inr ⟨onConn_sends hws hc, fun _ => hfrag⟩

theorem decideLocked_cases (hplan : Bridged plan) (hraw : plan.policy.mode ≠ .raw) {record : Bytes}
    {h : Hello} (hp : parseClientHello record = .ok h) (hd : CompleteRecord record) {c : PolicyConn}
    (hc : c.conn.Reliable) :
    (∀ u, (decideLocked env plan record h c).1 ≠ .ok u) ∨
    decideLocked env plan record h c =
      (.ok (), { c with conn := c.conn.pushAll (recordSends plan.policy record h) }) ∧
      SentAs plan record h := by
  unfold decideLocked
  split_ifs with h1 h2
  · exact Or.inl (alertLocked_fails _ _ c)
  · exact Or.inl (alertLocked_fails _ _ c)
  · rw [run_bind, run_lift]
    cases sniMode env record h with
    | panic => exact Or.inl (by simp)
    | err e => exact Or.inl (by simp)
    | ok m =>
      dsimp only
      split
      · exact Or.inl (closeLocked_fails c)
      · exact Or.inl (alertLocked_fails _ _ c)
      · rcases forwardLocked_cases hplan hraw hp hd hc with hf | hf
        · exact Or.inl (by rw [hf]; simp)
        · exact Or.inr hf

theorem flushPendingLocked_run {c : PolicyConn} (hc : c.conn.Reliable) (hp : c.pending ≠ []) :
    flushPendingLocked c =
      (.ok (), { c with conn := c.conn.push (.data c.pending), handled := true, pending := [] }) := by
  unfold flushPendingLocked
  rw [run_bind_ok (run_get c), if_neg hp, run_bind_ok (onConn_sends (Sends.send _) hc)]
  rfl

end

/-- no rules at all -/
def bareEnv : TlsEnv := ⟨fun _ => none, {}, fun _ _ _ => .err "reachable TTL not found"⟩

/-- two records, two segments -/
def fragmentPlan : DialPlan := { policy := { mode := .tlsrf, numRecords := 2, numSegments := 2 } }

/-! ## the first record of a stream -/

theorem isTLS_append {s : Bytes} (h : 5 ≤ s.length) (b : Bytes) : isTLS (s ++ b) = isTLS s := by
  unfold isTLS
  rw [List.take_append_of_le_length (by omega)]

theorem recordLen_append {s : Bytes} (h : 5 ≤ s.length) (b : Bytes) :
    recordLen (s ++ b) = recordLen s := by
  unfold recordLen
  rw [u16At_append (by omega)]

theorem completeRecord_take {s : Bytes} (h5 : 5 ≤ s.length) (hle : recordLen s ≤ s.length) :
    CompleteRecord (s.take (recordLen s)) := by
  have hlen : (s.take (recordLen s)).length = recordLen s := by rw [List.length_take]; omega
  have hu : u16At (s.take (recordLen s)) 3 = u16At s 3 := by
    conv_rhs => rw [← List.take_append_drop (recordLen s) s]
    rw [u16At_append (by rw [hlen, recordLen]; omega)]
  unfold CompleteRecord
  rw [hlen, hu, recordLen]
  omega

end Bill
