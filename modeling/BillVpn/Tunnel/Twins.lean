import BillVpn.Tunnel.Segments

/-!
# The desktop and the mobile decision about a ClientHello

`handleTLS` and `handleTLSLocked` are written apart.  Both refuse by the mode of the plan, by the
version, and by the rule of the server name; but the tunnel skips the name if it is the requested
host and uses the default policy for a name without a rule, and the bridge always looks for a rule and
has none then.

* `TlsVerdict`           forward, drop, or alert, as seen from a run in which nothing fails;
* `Decision`             the same as a value, and `tunnelDoes`, `bridgeDoes` what it makes them do;
* `NameAlike`            both treat the name alike;
* `tls_paths_iff`        **the two reach the same verdict and forward with the same sends, exactly if
                         they refuse before they look at the name, or treat it alike**;
* `tls_paths_differ`     a name without a rule, under a default policy that refuses.
-/

set_option linter.unusedVariables false

namespace Bill
open Go Res Proc Conn

/-! ## verdicts -/

inductive TlsVerdict where
  | forward | drop
  | alert (bytes : Bytes)
deriving DecidableEq, Repr

/-- a panic happens in `sendRecords` only -/
def tunnelVerdict (x : Res Bool × Tunnel) : TlsVerdict :=
  match x.1, x.2.cli.sent with
  | .ok false, .data alert :: _ => .alert alert
  | .ok false, _ => .drop
  | _, _ => .forward

/-- the bridge writes its alert to the connection it has -/
def bridgeVerdict (x : Res Unit × PolicyConn) : TlsVerdict :=
  match x.1, x.2.conn.sent with
  | .err _, .data alert :: _ => .alert alert
  | .err _, _ => .drop
  | _, _ => .forward

/-- the verdict if nothing fails; and if it is to forward, then on every connection the same sends
with the same end -/
structure SameVerdict (desktop : Proc Tunnel Bool) (mobile : Proc PolicyConn Unit) : Prop where
  verdict : tunnelVerdict (desktop {}) = bridgeVerdict (mobile {})
  writes : tunnelVerdict (desktop {}) = .forward → ∀ c : Upstream,
    (desktop { dst := c }).2.dst = (mobile { conn := c }).2.conn ∧
      ((desktop { dst := c }).1 = .panic ↔ (mobile { conn := c }).1 = .panic)

/-! ## decisions -/

inductive Decision where
  | forward | drop
  | alert (desc : UInt8)
deriving DecidableEq, Repr

def nameDecision : Option Mode → Decision
  | some .block => .drop
  | some .tlsAlert => .alert tlsAlertAccessDenied
  | _ => .forward

def helloDecision (p : Policy) (h : Hello) (name : Option Mode) : Decision :=
  if p.mode = .tlsAlert then .alert tlsAlertAccessDenied
  else if p.tls13Only = .true ∧ h.hasKeyShare = false then .alert tlsAlertProtocolVersion
  else nameDecision name

/-- how a record goes upstream in the modes without a fake packet -/
def sendPlain (p : Policy) (record : Bytes) (h : Hello) : Proc Upstream Unit :=
  if p.mode = .tlsrf then sendByPolicy p record h else send (.data record)

section
variable (x : Proc Upstream Unit) (prtVer : Bytes)

def tunnelDoes : Decision → Proc Tunnel Bool
  | .forward => okIf (onDst x)
  | .drop => pure false
  | .alert desc => sendTLSAlert prtVer desc >>= fun _ => pure false

def bridgeDoes : Decision → Proc PolicyConn Unit
  | .forward => onConn x
  | .drop => closeLocked
  | .alert desc => alertLocked prtVer desc

def verdictOf (a b : UInt8) : Decision → TlsVerdict
  | .forward => .forward
  | .drop => .drop
  | .alert desc => .alert [0x15, a, b, 0x00, 0x02, tlsAlertLevelFatal, desc]

theorem verdictOf_injective (a b : UInt8) : Function.Injective (verdictOf a b) := by
  intro d d' h
  cases d with
  | forward =>
    cases d' with
    | forward => rfl
    | drop => cases h
    | alert desc => cases h
  | drop =>
    cases d' with
    | forward => cases h
    | drop => rfl
    | alert desc => cases h
  | alert desc =>
    cases d' with
    | forward => cases h
    | drop => cases h
    | alert desc' =>
      cases h
      rfl

variable {x} (hx : Crashes x ∨ ∃ ws, Sends x ws ())

include hx in
theorem tunnelVerdict_does (a b : UInt8) (d : Decision) :
    tunnelVerdict (tunnelDoes x [a, b] d {}) = verdictOf a b d := by
  cases d with
  | drop => rfl
  | alert desc => rfl
  | forward =>
    have hend := okIf_ne_err (x := onDst x) (t := {}) (onDst_ne_err (fun _ => rfl) hx)
    show tunnelVerdict (okIf (onDst x) {}) = .forward
    unfold tunnelVerdict
    rcases hend with hp | hok
    · rw [hp]
    · rw [hok]

include hx in
theorem bridgeVerdict_does (a b : UInt8) (d : Decision) :
    bridgeVerdict (bridgeDoes x [a, b] d {}) = verdictOf a b d := by
  cases d with
  | drop => rfl
  | alert desc => rfl
  | forward =>
    have hrun : (onConn x {}).1 = (x {}).1 := rfl
    show bridgeVerdict (onConn x {}) = .forward
    unfold bridgeVerdict
    rcases hx with hc | ⟨ws, hws⟩
    · rw [hrun, hc {} fun _ => rfl]
    · rw [hrun, hws {} fun _ => rfl]

theorem forward_alike (c : Upstream) :
    (okIf (onDst x) { dst := c }).2.dst = (onConn x { conn := c }).2.conn ∧
      ((okIf (onDst x) { dst := c }).1 = .panic ↔ (onConn x { conn := c }).1 = .panic) := by
  have hdst : onDst x { dst := c } = ((x c).1, ({ dst := (x c).2 } : Tunnel)) := rfl
  have hconn : onConn x { conn := c } = ((x c).1, ({ conn := (x c).2 } : PolicyConn)) := rfl
  rw [hconn]
  unfold okIf
  generalize (x c).2 = c' at hdst ⊢
  cases hr : (x c).1 with
  | ok u =>
    rw [hr] at hdst
    rw [run_bind_ok (attempt_ok hdst)]
    exact ⟨rfl, by simp⟩
  | err e =>
    rw [hr] at hdst
    rw [run_bind_ok (attempt_err hdst)]
    exact ⟨rfl, by simp⟩
  | panic =>
    rw [hr] at hdst
    rw [run_bind_panic (attempt_panic hdst)]
    exact ⟨rfl, by simp⟩

include hx in
theorem sameVerdict_iff {prtVer : Bytes} (hver : prtVer.length = 2) (d d' : Decision) :
    SameVerdict (tunnelDoes x prtVer d) (bridgeDoes x prtVer d') ↔ d = d' := by
  obtain ⟨a, b, rfl⟩ : ∃ a b, prtVer = [a, b] := List.length_eq_two.mp hver
  constructor
  · intro h
    have hv := h.verdict
    rw [tunnelVerdict_does hx, bridgeVerdict_does hx] at hv
    exact verdictOf_injective a b hv
  · rintro rfl
    refine ⟨by rw [tunnelVerdict_does hx, bridgeVerdict_does hx], fun hf => ?_⟩
    rw [tunnelVerdict_does hx] at hf
    cases d with
    | forward => exact forward_alike
    | drop => cases hf
    | alert desc => cases hf

end

/-! ## the two handlers -/

section
variable {env : TlsEnv} {p : Policy} {record sni : Bytes} {h : Hello}

/-- the modes that the two have in common, but for the fake packet -/
def Common (p : Policy) : Prop := p.mode = .direct ∨ p.mode = .tlsrf ∨ p.mode = .tlsAlert

theorem sendPlain_crashes_or_sends (p : Policy) (hp : parseClientHello record = .ok h)
    (hd : CompleteRecord record) (hname : ¬ (h.sniPos ≤ 0 ∨ h.sniLen = 0)) :
    Crashes (sendPlain p record h) ∨ ∃ ws, Sends (sendPlain p record h) ws () := by
  unfold sendPlain
  split_ifs
  · exact sendByPolicy_crashes_or_sends p hp hd hname
  · exact .inr ⟨_, Sends.send _⟩

theorem sendByMode_plain (env : TlsEnv) (target : Bytes) (hm : p.mode = .direct ∨ p.mode = .tlsrf) :
    sendByMode env p target record h = onDst (sendPlain p record h) := by
  unfold sendByMode sendPlain
  rcases hm with hm | hm
  · rw [hm]
    rfl
  · rw [hm]
    rfl

theorem forwardLocked_plain (env : TlsEnv) {plan : DialPlan}
    (hm : plan.policy.mode = .direct ∨ plan.policy.mode = .tlsrf) :
    forwardLocked env plan record h = onConn (sendPlain plan.policy record h) := by
  unfold forwardLocked sendPlain
  rcases hm with hm | hm
  · rw [hm]
    rfl
  · rw [hm]
    rfl

theorem handleTLS_does (originHost target : Bytes) (hm : Common p) (hp : parseClientHello record = .ok h)
    (hname : ¬ (h.sniPos ≤ 0 ∨ h.sniLen = 0))
    (hs : slice record h.sniPos (h.sniPos + h.sniLen) = .ok sni) :
    handleTLS env record.length p false originHost target (.ok record) =
      tunnelDoes (sendPlain p record h) h.prtVer (helloDecision p h (tunnelSniMode env originHost sni)) := by
  unfold handleTLS
  dsimp only
  rw [if_neg (by omega), hp]
  unfold handleHello helloDecision
  dsimp only
  by_cases h1 : p.mode = .tlsAlert
  · rw [if_pos h1, if_pos h1]
    rfl
  rw [if_neg h1, if_neg h1]
  by_cases h2 : p.tls13Only = .true ∧ h.hasKeyShare = false
  · rw [if_pos h2, if_pos h2]
    rfl
  rw [if_neg h2, if_neg h2, if_neg hname]
  have hforward : okIf (dialLate p false target >>= fun _ => sendByMode env p target record h) =
      okIf (onDst (sendPlain p record h)) := by
    rw [sendByMode_plain env target (hm.imp id fun hm => hm.resolve_right h1)]
    rfl
  unfold handleNamed
  rw [hs]
  show (match tunnelSniMode env originHost sni with
    | some .block => pure false
    | some .tlsAlert => sendTLSAlert h.prtVer tlsAlertAccessDenied >>= fun _ => pure false
    | _ => okIf (dialLate p false target >>= fun _ => sendByMode env p target record h) :
      Proc Tunnel Bool) = _
  cases tunnelSniMode env originHost sni with
  | none => exact hforward
  | some m =>
    cases m with
    | block => rfl
    | tlsAlert => rfl
    | _ => exact hforward

def ruleMode (env : TlsEnv) (sni : Bytes) : Option Mode :=
  (env.domainFind sni).map fun d => (mergePolicies [d, env.defaultPolicy]).mode

theorem handleTLSLocked_does {plan : DialPlan} (hm : Common plan.policy)
    (hp : parseClientHello record = .ok h) (hname : ¬ (h.sniPos ≤ 0 ∨ h.sniLen = 0))
    (hs : slice record h.sniPos (h.sniPos + h.sniLen) = .ok sni) :
    handleTLSLocked env plan record =
      bridgeDoes (sendPlain plan.policy record h) h.prtVer
        (helloDecision plan.policy h (ruleMode env sni)) := by
  unfold handleTLSLocked
  rw [hp]
  unfold helloDecision
  show decideLocked env plan record h = _
  unfold decideLocked
  by_cases h1 : plan.policy.mode = .tlsAlert
  · rw [if_pos h1, if_pos h1]
    rfl
  rw [if_neg h1, if_neg h1]
  by_cases h2 : plan.policy.tls13Only = .true ∧ h.hasKeyShare = false
  · rw [if_pos h2, if_pos h2]
    rfl
  rw [if_neg h2, if_neg h2]
  have hforward : forwardLocked env plan record h = onConn (sendPlain plan.policy record h) :=
    forwardLocked_plain env (hm.imp id fun hm => hm.resolve_right h1)
  have hmode : sniMode env record h = .ok (ruleMode env sni) := by
    unfold sniMode
    rw [if_pos ⟨by omega, by omega⟩, hs]
    rfl
  rw [hmode]
  show (match ruleMode env sni with
    | some .block => closeLocked
    | some .tlsAlert => alertLocked h.prtVer tlsAlertAccessDenied
    | _ => forwardLocked env plan record h : Proc PolicyConn Unit) = _
  cases ruleMode env sni with
  | none => exact hforward
  | some m =>
    cases m with
    | block => rfl
    | tlsAlert => rfl
    | _ => exact hforward

/-! ## when they agree -/

def Refuses (m : Mode) : Prop := m = .block ∨ m = .tlsAlert

instance (m : Mode) : Decidable (Refuses m) := by unfold Refuses; infer_instance

/-- a rule for the requested host itself does not refuse; nor does the default policy, for another
name without a rule -/
def NameAlike (env : TlsEnv) (originHost sni : Bytes) : Prop :=
  match env.domainFind sni with
  | some d => originHost = sni → ¬ Refuses (mergePolicies [d, env.defaultPolicy]).mode
  | none => originHost ≠ sni → ¬ Refuses env.defaultPolicy.mode

/-- both refuse whatever the name is, or treat it alike -/
def TwinsAgree (env : TlsEnv) (plan : DialPlan) (record : Bytes) (h : Hello) : Prop :=
  plan.policy.mode = .tlsAlert ∨ plan.policy.tls13Only = .true ∧ h.hasKeyShare = false ∨
    ∀ sni, slice record h.sniPos (h.sniPos + h.sniLen) = .ok sni → NameAlike env plan.originHost sni

theorem nameDecision_forward (m : Mode) : nameDecision (some m) = .forward ↔ ¬ Refuses m := by
  cases m with
  | block => exact ⟨fun h => (nomatch h), fun h => absurd (.inl rfl) h⟩
  | tlsAlert => exact ⟨fun h => (nomatch h), fun h => absurd (.inr rfl) h⟩
  | _ => exact ⟨fun _ h => (nomatch h), fun _ => rfl⟩

theorem nameDecision_iff (env : TlsEnv) (originHost sni : Bytes) :
    nameDecision (tunnelSniMode env originHost sni) = nameDecision (ruleMode env sni) ↔
      NameAlike env originHost sni := by
  unfold tunnelSniMode ruleMode NameAlike
  cases env.domainFind sni with
  | some d =>
    by_cases ho : originHost = sni
    · rw [if_pos ho]
      exact eq_comm.trans ((nameDecision_forward _).trans ⟨fun h _ => h, fun h => h ho⟩)
    · rw [if_neg ho]
      exact ⟨fun _ h => absurd h ho, fun _ => rfl⟩
  | none =>
    by_cases ho : originHost = sni
    · rw [if_pos ho]
      exact ⟨fun _ h => absurd ho h, fun _ => rfl⟩
    · rw [if_neg ho]
      exact (nameDecision_forward _).trans ⟨fun h _ => h, fun h => h ho⟩

theorem helloDecision_iff (p : Policy) (h : Hello) (m m' : Option Mode) :
    helloDecision p h m = helloDecision p h m' ↔ p.mode = .tlsAlert ∨
      p.tls13Only = .true ∧ h.hasKeyShare = false ∨ nameDecision m = nameDecision m' := by
  unfold helloDecision
  by_cases h1 : p.mode = .tlsAlert
  · rw [if_pos h1, if_pos h1]
    exact ⟨fun _ => .inl h1, fun _ => rfl⟩
  rw [if_neg h1, if_neg h1]
  by_cases h2 : p.tls13Only = .true ∧ h.hasKeyShare = false
  · rw [if_pos h2, if_pos h2]
    exact ⟨fun _ => .inr (.inl h2), fun _ => rfl⟩
  rw [if_neg h2, if_neg h2]
  exact ⟨fun h => .inr (.inr h), fun h => (h.resolve_left h1).resolve_left h2⟩

/-- **The two TLS paths.**  For every plan with a mode that both know, and every complete record that
is accepted and has a name, `handleTLS` and `handleTLSLocked` reach the same verdict and forward with
the same sends exactly under `TwinsAgree`. -/
theorem tls_paths_iff (env : TlsEnv) (plan : DialPlan) (target record : Bytes) (h : Hello)
    (hm : Common plan.policy) (hd : CompleteRecord record) (hp : parseClientHello record = .ok h)
    (hname : ¬ (h.sniPos ≤ 0 ∨ h.sniLen = 0)) :
    SameVerdict (handleTLS env record.length plan.policy false plan.originHost target (.ok record))
        (handleTLSLocked env plan record) ↔
      TwinsAgree env plan record h := by
  obtain ⟨h47, hver, hin⟩ := parseClientHello_spec hp
  unfold SniIn at hin
  have hs := slice_of_le (d := record) (show 0 ≤ h.sniPos by omega)
    (show h.sniPos ≤ h.sniPos + h.sniLen by omega) (by omega)
  rw [handleTLS_does plan.originHost target hm hp hname hs, handleTLSLocked_does hm hp hname hs,
    sameVerdict_iff (sendPlain_crashes_or_sends plan.policy hp hd hname) hver, helloDecision_iff,
    nameDecision_iff]
  unfold TwinsAgree
  refine or_congr_right (or_congr_right ⟨fun hn sni hsni => ?_, fun hn => hn _ hs⟩)
  rw [hs] at hsni
  cases hsni
  exact hn

end

def twinPlan (defaultPolicy : Policy) : DialPlan where
  originHost := lit "blocked.example"
  originPort := 443
  matchedDomain := true
  targetHost := lit "192.0.2.7"
  targetPort := 443
  policy := mergePolicies [{ mode := .direct }, defaultPolicy]

theorem tls_paths_same_sample :
    SameVerdict (handleTLS (tlsEnv (oneRuleEnv { mode := .direct } {}) noProbe) sampleHello.length
        (twinPlan {}).policy false (lit "blocked.example") (lit "192.0.2.7:443") (.ok sampleHello))
      (handleTLSLocked (tlsEnv (oneRuleEnv { mode := .direct } {}) noProbe) (twinPlan {}) sampleHello) :=
  (tls_paths_iff _ (twinPlan {}) _ sampleHello ⟨[3, 3], 61, 3, true⟩ (.inl (by decide +kernel))
    ⟨by decide +kernel, by decide +kernel⟩ (by decide +kernel) (by decide)).mpr
    (.inr (.inr fun sni hsni => by
      have hslice : slice sampleHello 61 (61 + 3) = .ok (lit "a.b") := by decide +kernel
      have hs : sni = lit "a.b" := Res.ok.inj (hsni.symm.trans hslice)
      have hfind : (tlsEnv (oneRuleEnv { mode := .direct } {}) noProbe).domainFind sni = none := by
        rw [hs]
        decide +kernel
      unfold NameAlike
      rw [hfind]
      exact fun _ => by decide))

/-- The plan is returned, not blocked, with mode direct.  A hello for another name without a rule is
refused with an alert by the tunnel, and forwarded by the bridge. -/
theorem tls_paths_differ :
    (planRequest (oneRuleEnv { mode := .direct } { mode := .tlsAlert })
      { host := lit "blocked.example", port := 443 } ()).1 = .ok (twinPlan { mode := .tlsAlert }) ∧
    (twinPlan { mode := .tlsAlert }).blocked = false ∧
    (twinPlan { mode := .tlsAlert }).policy.mode = .direct ∧
    parseClientHello sampleHello = .ok ⟨[3, 3], 61, 3, true⟩ ∧
    tunnelVerdict (handleTLS (tlsEnv (oneRuleEnv { mode := .direct } { mode := .tlsAlert }) noProbe)
      sampleHello.length (twinPlan { mode := .tlsAlert }).policy false (lit "blocked.example")
      (lit "192.0.2.7:443") (.ok sampleHello) {}) = .alert [0x15, 3, 3, 0, 2, 2, 70] ∧
    bridgeVerdict (handleTLSLocked (tlsEnv (oneRuleEnv { mode := .direct } { mode := .tlsAlert }) noProbe)
      (twinPlan { mode := .tlsAlert }) sampleHello {}) = .forward := by
  refine ⟨?_, ?_, ?_, ?_, ?_, ?_⟩ <;> decide +kernel

end Bill
