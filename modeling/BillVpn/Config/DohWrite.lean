import BillVpn.Config.Settings
import BillVpn.Desync.FakeTTL
import BillVpn.Tls.Lossy

/-!
# What is written to the server of DNS over HTTPS

The HTTP client writes its ClientHello through an `interceptConn`, which treats the first write by
the policy of the server and passes the others on.  That policy is a merged one, or the default
policy just as the file has it: with a mode or without, with or without counts.

* `CarriedInBand`       records with the payload of what was written, urgent bytes left out;
* `sendByPolicy_carried`, `sendByPolicy_uncarried`   the counts with which `sendRecords` gets there;
* `first_write_iff`     what becomes of a ClientHello, mode by mode;
* `write_marks`, `writes_pass`   the first write is the only one that is looked at;
* `doh_write_iff`       **an accepted ClientHello is refused or carried exactly if the mode has a branch
                        that gets it through**, after every load.
-/

set_option linter.unusedVariables false

namespace Bill
open Go Res Proc Conn

/-! ## what is asked of a write -/

/-- in-band these are records with the payload of `b` -/
def CarriedInBand (b : Bytes) (ws : List Wire) : Prop :=
  ∃ modMinorVer, Refragments modMinorVer b (inBand ws)

/-- an error, or all bytes written and on their way -/
inductive Accounted (b : Bytes) (c : Upstream) : Res Nat × InterceptConn → Prop where
  | refused (e : String) (s : InterceptConn) : Accounted b c (.err e, s)
  | sent {ws : List Wire} (h : CarriedInBand b ws) : Accounted b c (.ok b.length, ⟨c.pushAll ws, true⟩)

/-- a sequence of `Write` calls, and what they return -/
def InterceptConn.writes (env : TlsEnv) (p : Policy) (raddr : Bytes) :
    List Bytes → Proc InterceptConn (List Nat)
  | [] => pure []
  | b :: bs => do
    let n ← InterceptConn.write env p raddr b
    let ns ← InterceptConn.writes env p raddr bs
    pure (n :: ns)

/-- over a connection that does not fail, the first write is accounted for and the others pass -/
structure NeverSwallows (env : TlsEnv) (p : Policy) (raddr b : Bytes) : Prop where
  first : ∀ c : Upstream, c.Reliable → Accounted b c (InterceptConn.write env p raddr b ⟨c, false⟩)
  marks : ∀ s, (InterceptConn.write env p raddr b s).2.handled = true
  later : ∀ s : InterceptConn, s.handled = true → s.conn.Reliable → ∀ bs,
    InterceptConn.writes env p raddr bs s =
      (.ok (bs.map List.length), { s with conn := s.conn.pushAll (bs.map .data) })

/-! ## the counts -/

/-- the record goes out whole, or its name can be cut and every part is sent -/
def CountsCarry (p : Policy) (b : Bytes) (h : Hello) : Prop :=
  Whole p.numRecords p.numSegments ∨ NameInside b h ∧
    (1 ≤ p.numRecords ∧ 1 ≤ p.numSegments ∨
      2 ≤ p.numRecords ∧ p.numSegments = -1 ∧ p.oob = .true)

section
variable {env : TlsEnv} {p : Policy} {b : Bytes} {h : Hello}

theorem CarriedInBand.conveys {ws : List Wire} (hw : CarriedInBand b ws) : Conveys b ws := by
  obtain ⟨m, hm⟩ := hw
  exact ⟨m, _, reads_inBand ws, hm⟩

theorem carriedInBand_whole (hd : CompleteRecord b) {w : Wire} (hw : w.bytes = b) :
    CarriedInBand b [w] := by
  refine ⟨false, [b.drop 5], by simp, by simp, ?_⟩
  rw [inBand_cons, inBand_nil, List.append_nil, hw, List.map_singleton, List.flatten_singleton]
  exact (makeRecord_self hd).symm

theorem sendByPolicy_carried (hp : parseClientHello b = .ok h) (hd : CompleteRecord b)
    (hx : p.oobEx ≠ .true) (hcounts : CountsCarry p b h) :
    ∃ ws, Sends (sendByPolicy p b h) ws () ∧ CarriedInBand b ws := by
  obtain ⟨h47, -, hsni⟩ := parseClientHello_spec hp
  unfold SniIn at hsni
  unfold sendByPolicy
  rw [decide_eq_false hx]
  have hcarried : ∀ hr : 1 ≤ p.numRecords, 1 ≤ p.numSegments →
      Whole p.numRecords p.numSegments ∨ Cuttable b h.sniPos h.sniLen →
      ∃ ws, Sends (sendRecords b h.sniPos h.sniLen p.numRecords p.numSegments (p.oob = .true) false
        (p.modMinorVer = .true)) ws () ∧ CarriedInBand b ws := by
    intro hr hs hc
    obtain ⟨ws, hws, hfrag⟩ :=
      sendRecords_sends (p.oob = .true) false (p.modMinorVer = .true) h47 hd hr hs hc
    rw [carried_false] at hfrag
    exact ⟨ws, hws, _, hfrag⟩
  rcases hcounts with hwhole | ⟨⟨hname, hin⟩, hparts⟩
  · exact hcarried hwhole.1.ge hwhole.2.ge (.inl hwhole)
  · have hcut : Cuttable b h.sniPos h.sniLen := ⟨by omega, hin⟩
    rcases hparts with ⟨hr, hs⟩ | ⟨hr, hs, hoob⟩
    · exact hcarried hr hs (.inr hcut)
    · -- every record by itself, the first one in front of an urgent byte
      obtain ⟨c, cs, hch, hflat, -, -⟩ := makeChunks_parts (m := decide (p.modMinorVer = .true)) hr hcut
      rw [hs, decide_eq_true hoob]
      obtain ⟨ws, hws, hband⟩ := sendChunks_oob false (makeRecord (sentHeader _ b) c)
        (cs.map (makeRecord (sentHeader (p.modMinorVer = .true) b)))
      exact ⟨ws, sendRecords_single _ _ _ h47 hr hch hws, _, c :: cs, by simp, hflat, hband⟩

theorem sendByPolicy_uncarried (hp : parseClientHello b = .ok h) (hd : CompleteRecord b)
    (hx : p.oobEx ≠ .true) (hname : h.sniPos ≠ -1) (hcounts : ¬ CountsCarry p b h) :
    Crashes (sendByPolicy p b h) ∨
      ∃ ws, Sends (sendByPolicy p b h) ws () ∧ ¬ CarriedInBand b ws := by
  obtain ⟨h47, -, hsni⟩ := parseClientHello_spec hp
  unfold SniIn at hsni
  unfold CountsCarry Whole NameInside at hcounts
  unfold sendByPolicy
  rw [decide_eq_false hx]
  by_cases hin : h.sniPos + h.sniLen < b.length
  · have hcut : Cuttable b h.sniPos h.sniLen := ⟨by omega, hin⟩
    by_cases hl : Lossy p.numRecords p.numSegments (p.oob = .true) false
    · obtain ⟨ws, hws, hlost⟩ :=
        sendRecords_loses (p.oob = .true) false (p.modMinorVer = .true) h47 hd hcut hl
      exact .inr ⟨ws, hws, fun hc => hlost hc.conveys⟩
    -- what is left of the counts is out of range
    refine .inl ?_
    unfold Lossy at hl
    simp only [decide_eq_false_iff_not, and_true, reduceCtorEq, false_implies] at hl
    by_cases hone : p.numRecords = 1
    · rw [hone] at hcounts hl ⊢
      exact sendRecords_one_crash _ _ _ h47 (.inl (by omega))
    by_cases hmany : 2 ≤ p.numRecords
    · have hlow : ¬ p.numSegments < -1 := fun hs => hl (.inr (.inr ⟨hmany, .inl hs⟩))
      have hs : p.numSegments = 0 := by
        by_contra hs
        apply hcounts
        refine .inr ⟨⟨hname, hin⟩, ?_⟩
        by_cases hneg : p.numSegments = -1
        · exact .inr ⟨hmany, hneg, by_contra fun hoob => hl (.inr (.inr ⟨hmany, .inr ⟨hneg, hoob⟩⟩))⟩
        · exact .inl ⟨by omega, by omega⟩
      rw [hs]
      exact sendRecords_segments_crash _ _ _ h47 hcut hmany
    · exact sendRecords_chunks_crash _ _ _ h47 hone (.inl (by omega))
  · refine .inl ?_
    by_cases hone : p.numRecords = 1
    · rw [hone] at hcounts ⊢
      exact sendRecords_one_crash _ _ _ h47 (.inr (by omega))
    · exact sendRecords_chunks_crash _ _ _ h47 hone (.inr (by omega))

/-! ## the end of the first write -/

variable {raddr : Bytes} {c : Upstream}

theorem onInner_sends {α : Type} {x : Proc Upstream α} {ws : List Wire} {a : α} {s : InterceptConn}
    (hx : Sends x ws a) (hs : s.conn.Reliable) :
    onInner x s = (.ok a, { s with conn := s.conn.pushAll ws }) := zoom_eq (hx s.conn hs)

theorem onInner_crashes {α : Type} {x : Proc Upstream α} {s : InterceptConn} (hx : Crashes x)
    (hs : s.conn.Reliable) : (onInner x s).1 = .panic := hx s.conn hs

theorem write_first : InterceptConn.write env p raddr b ⟨c, false⟩ =
    (interceptFirst env p raddr b >>= fun _ => pure b.length) ⟨c, true⟩ := rfl

theorem accounted_err {e : String} {s : InterceptConn}
    (hx : interceptFirst env p raddr b ⟨c, true⟩ = (.err e, s)) :
    Accounted b c (InterceptConn.write env p raddr b ⟨c, false⟩) := by
  rw [write_first, run_bind_err hx]
  exact .refused e s

theorem not_accounted_panic (hx : (interceptFirst env p raddr b ⟨c, true⟩).1 = .panic) :
    ¬ Accounted b c (InterceptConn.write env p raddr b ⟨c, false⟩) := by
  rw [write_first, run_bind_panic (Prod.ext hx rfl)]
  exact fun h => nomatch h

theorem accounted_sent {ws : List Wire}
    (hx : interceptFirst env p raddr b ⟨c, true⟩ = (.ok (), ⟨c.pushAll ws, true⟩)) :
    Accounted b c (InterceptConn.write env p raddr b ⟨c, false⟩) ↔ CarriedInBand b ws := by
  have hwrite : InterceptConn.write env p raddr b ⟨c, false⟩ =
      (.ok b.length, ⟨c.pushAll ws, true⟩) := by
    rw [write_first, run_bind_ok hx]
    rfl
  constructor
  · intro ha
    generalize hr : InterceptConn.write env p raddr b ⟨c, false⟩ = r at ha
    rw [hwrite] at hr
    cases ha with
    | refused e s => cases hr
    | @sent vs hv =>
      -- the same sends, behind what was sent before
      have hsent := congrArg (fun r : Res Nat × InterceptConn => r.2.conn.sent) hr
      dsimp only at hsent
      rw [pushAll_sent, pushAll_sent, List.append_cancel_left_eq] at hsent
      rwa [hsent]
  · intro hc
    rw [hwrite]
    exact .sent hc

/-! ## mode by mode -/

/-- the mode has a branch that gets the record through or fails; `ttl` is that of the fake packet -/
def ModeCarries (ttl : Res Int) (p : Policy) (b : Bytes) (h : Hello) : Prop :=
  match p.mode with
  | .direct => True
  | .raw => True
  | .ttld => (∃ e, ttl = .err e) ∨ NameInside b h
  | .tlsrf => CountsCarry p b h
  | _ => False

/-- the record is refused, has no name, or is carried by its mode -/
def Accountable (ttl : Res Int) (p : Policy) (b : Bytes) (h : Hello) : Prop :=
  p.mode = .block ∨ p.mode = .tlsAlert ∨ p.tls13Only = .true ∧ h.hasKeyShare = false ∨
    h.sniPos = -1 ∨ ModeCarries ttl p b h

theorem ttld_iff {a : UInt8} {rest : Bytes} (hp : parseClientHello b = .ok h) (hd : CompleteRecord b)
    (hname : h.sniPos ≠ -1) (hc : c.Reliable)
    (hpanic : env.getFakeTTL p (a :: rest) (a == lbracket) ≠ .panic)
    (hrun : interceptFirst env p (a :: rest) b = (do
      let c ← lift (idx (a :: rest) 0)
      let ttl ← wrap "get fake TTL" (lift (env.getFakeTTL p (a :: rest) (c == lbracket)))
      wrap "ttl desync" (onInner (desyncSend b h.sniPos h.sniLen ttl)))) :
    Accounted b c (InterceptConn.write env p (a :: rest) b ⟨c, false⟩) ↔
      (∃ e, env.getFakeTTL p (a :: rest) (a == lbracket) = .err e) ∨ NameInside b h := by
  obtain ⟨h47, -, hsni⟩ := parseClientHello_spec hp
  unfold SniIn at hsni
  have hstart : interceptFirst env p (a :: rest) b ⟨c, true⟩ =
      (wrap "get fake TTL" (lift (env.getFakeTTL p (a :: rest) (a == lbracket))) >>= fun ttl =>
        wrap "ttl desync" (onInner (desyncSend b h.sniPos h.sniLen ttl))) ⟨c, true⟩ := by
    rw [hrun]
    rfl
  cases httl : env.getFakeTTL p (a :: rest) (a == lbracket) with
  | panic => exact absurd httl hpanic
  | err e =>
    rw [httl, run_bind_err (wrap_run (run_lift _ _))] at hstart
    exact ⟨fun _ => .inl ⟨e, rfl⟩, fun _ => accounted_err hstart⟩
  | ok ttl =>
    rw [httl, run_bind_ok (wrap_ok (run_lift _ _))] at hstart
    by_cases hin : h.sniPos + h.sniLen < b.length
    · have hsent : interceptFirst env p (a :: rest) b ⟨c, true⟩ =
          (.ok (), ⟨c.pushAll [.desync b h.sniPos h.sniLen ttl], true⟩) := by
        rw [hstart]
        exact wrap_ok (onInner_sends (desyncSend_sends (by omega) hin ttl) hc)
      rw [accounted_sent hsent]
      exact ⟨fun _ => .inr ⟨hname, hin⟩, fun _ => carriedInBand_whole hd rfl⟩
    · have hcrash : (interceptFirst env p (a :: rest) b ⟨c, true⟩).1 = .panic := by
        rw [hstart]
        exact wrap_panic.mpr (onInner_crashes (desyncSend_crash (by omega) ttl) hc)
      refine ⟨fun ha => absurd ha (not_accounted_panic hcrash), fun hor => ?_⟩
      rcases hor with ⟨e, he⟩ | hn
      · cases he
      · exact absurd hn.2 hin

theorem tlsrf_iff (hp : parseClientHello b = .ok h) (hd : CompleteRecord b) (hx : p.oobEx ≠ .true)
    (hname : h.sniPos ≠ -1) (hc : c.Reliable)
    (hrun : interceptFirst env p raddr b = wrap "tls fragment" (onInner (sendByPolicy p b h))) :
    Accounted b c (InterceptConn.write env p raddr b ⟨c, false⟩) ↔ CountsCarry p b h := by
  have hsent : ∀ {ws}, Sends (sendByPolicy p b h) ws () →
      interceptFirst env p raddr b ⟨c, true⟩ = (.ok (), ⟨c.pushAll ws, true⟩) := by
    intro ws hws
    rw [hrun]
    exact wrap_ok (onInner_sends hws hc)
  by_cases hcounts : CountsCarry p b h
  · obtain ⟨ws, hws, hcarried⟩ := sendByPolicy_carried hp hd hx hcounts
    rw [accounted_sent (hsent hws)]
    exact ⟨fun _ => hcounts, fun _ => hcarried⟩
  · refine ⟨fun ha => ?_, fun h => absurd h hcounts⟩
    rcases sendByPolicy_uncarried hp hd hx hname hcounts with hcrash | ⟨ws, hws, hlost⟩
    · refine absurd ha (not_accounted_panic ?_)
      rw [hrun]
      exact wrap_panic.mpr (onInner_crashes hcrash hc)
    · exact absurd ((accounted_sent (hsent hws)).mp ha) hlost

/-- **The first write is accounted for exactly if the record is refused, nameless or carried by its
mode.** -/
theorem first_write_iff (env : TlsEnv) {a : UInt8} {rest : Bytes} (hp : parseClientHello b = .ok h)
    (hd : CompleteRecord b) (hx : p.oobEx ≠ .true)
    (hpanic : env.getFakeTTL p (a :: rest) (a == lbracket) ≠ .panic) (hc : c.Reliable) :
    Accounted b c (InterceptConn.write env p (a :: rest) b ⟨c, false⟩) ↔
      Accountable (env.getFakeTTL p (a :: rest) (a == lbracket)) p b h := by
  obtain ⟨h47, -, hsni⟩ := parseClientHello_spec hp
  have hdata : interceptFirst env p (a :: rest) b = onInner (send (.data b)) →
      Accounted b c (InterceptConn.write env p (a :: rest) b ⟨c, false⟩) := by
    intro hrun
    have hsent : interceptFirst env p (a :: rest) b ⟨c, true⟩ = (.ok (), ⟨c.pushAll [.data b], true⟩) := by
      rw [hrun]
      exact onInner_sends (Sends.send _) hc
    exact (accounted_sent hsent).mpr (carriedInBand_whole hd rfl)
  have hrefused : ∀ msg, interceptFirst env p (a :: rest) b = fail msg →
      Accounted b c (InterceptConn.write env p (a :: rest) b ⟨c, false⟩) :=
    fun msg hrun => accounted_err (e := msg) (s := ⟨c, true⟩) (by rw [hrun]; rfl)
  unfold Accountable
  by_cases hblock : p.mode = .block ∨ p.mode = .tlsAlert
  · refine ⟨fun _ => hblock.imp id .inl, fun _ => hrefused "blocked by policy" ?_⟩
    unfold interceptFirst
    rw [if_pos hblock]
  have hfirst : interceptFirst env p (a :: rest) b = interceptHello env p (a :: rest) b h := by
    unfold interceptFirst
    rw [if_neg hblock, hp]
  unfold interceptHello at hfirst
  by_cases htls : p.tls13Only = .true ∧ h.hasKeyShare = false
  · rw [if_pos htls] at hfirst
    exact ⟨fun _ => .inr (.inr (.inl htls)), fun _ => hrefused _ hfirst⟩
  rw [if_neg htls] at hfirst
  by_cases hname : h.sniPos = -1
  · rw [if_pos hname] at hfirst
    exact ⟨fun _ => .inr (.inr (.inr (.inl hname))), fun _ => hdata hfirst⟩
  rw [if_neg hname] at hfirst
  rw [not_or] at hblock
  rw [or_iff_right hblock.1, or_iff_right hblock.2, or_iff_right htls, or_iff_right hname]
  unfold ModeCarries
  cases hm : p.mode with
  | direct =>
    rw [hm] at hfirst
    exact ⟨fun _ => trivial, fun _ => hdata hfirst⟩
  | raw =>
    rw [hm] at hfirst
    exact ⟨fun _ => trivial, fun _ => hdata hfirst⟩
  | ttld =>
    rw [hm] at hfirst
    exact ttld_iff hp hd hname hc hpanic hfirst
  | tlsrf =>
    rw [hm] at hfirst
    exact tlsrf_iff hp hd hx hname hc hfirst
  | unknown =>
    -- no branch: nothing is sent
    rw [hm] at hfirst
    refine ⟨fun ha => ?_, fun h => h.elim⟩
    have hsent : interceptFirst env p (a :: rest) b ⟨c, true⟩ = (.ok (), ⟨c.pushAll [], true⟩) := by
      rw [hfirst]
      rfl
    exact not_conveys_nothing h47 ((accounted_sent hsent).mp ha).conveys
  | block => exact absurd hm hblock.1
  | tlsAlert => exact absurd hm hblock.2

/-! ## the writes after it -/

theorem onInner_handled {α : Type} (x : Proc Upstream α) :
    Keeps InterceptConn.handled (onInner x) := fun s => rfl

theorem interceptFirst_handled : Keeps InterceptConn.handled (interceptFirst env p raddr b) := by
  unfold interceptFirst
  refine Keeps.ite (Keeps.fail _) ?_
  cases parseClientHello b with
  | panic => exact Keeps.lift _
  | err e => exact Keeps.fail _
  | ok h =>
    refine Keeps.ite (Keeps.fail _) (Keeps.ite (onInner_handled _) ?_)
    cases p.mode with
    | direct => exact onInner_handled _
    | raw => exact onInner_handled _
    | ttld =>
      exact (Keeps.lift _).bind fun c => (Keeps.lift _).wrap.bind fun ttl => (onInner_handled _).wrap
    | tlsrf => exact (onInner_handled _).wrap
    | unknown => exact Keeps.pure _
    | block => exact Keeps.pure _
    | tlsAlert => exact Keeps.pure _

theorem write_marks (s : InterceptConn) : (InterceptConn.write env p raddr b s).2.handled = true := by
  obtain ⟨c, handled⟩ := s
  cases handled with
  | true => exact ((onInner_handled (send (.data b))).bind fun _ => Keeps.pure b.length) ⟨c, true⟩
  | false =>
    rw [write_first]
    exact (interceptFirst_handled.bind fun _ => Keeps.pure b.length) ⟨c, true⟩

theorem write_passes {s : InterceptConn} (hh : s.handled = true) (hs : s.conn.Reliable) :
    InterceptConn.write env p raddr b s =
      (.ok b.length, { s with conn := s.conn.pushAll [.data b] }) := by
  obtain ⟨c, handled⟩ := s
  obtain rfl : handled = true := hh
  show (onInner (send (.data b)) >>= fun _ => pure b.length) ⟨c, true⟩ = _
  rw [run_bind_ok (onInner_sends (Sends.send _) hs)]
  rfl

/-- **from then on every write passes** -/
theorem writes_pass (bs : List Bytes) : ∀ {s : InterceptConn}, s.handled = true → s.conn.Reliable →
    InterceptConn.writes env p raddr bs s =
      (.ok (bs.map List.length), { s with conn := s.conn.pushAll (bs.map .data) }) := by
  induction bs with
  | nil => exact fun _ _ => rfl
  | cons b bs ih =>
    intro s hh hs
    have hrest := ih (s := { s with conn := s.conn.pushAll [.data b] }) hh (hs.pushAll [.data b])
    unfold InterceptConn.writes
    rw [run_bind_ok (write_passes hh hs), run_bind_ok hrest]
    rfl

end

/-! ## after a load -/

section
variable {κ τ : Type} {calls : Callees κ τ} {file : Res Json} {g g' : Globals κ τ} {r : Bytes × Bytes}

/-- the variables that the connection reads -/
def Globals.tlsEnv (g : Globals κ τ)
    (getMinimalReachableTTL : Bytes → Bool → Int → Int → Int → Res Int) : TlsEnv :=
  ⟨g.domainFind, g.defaultPolicy, getFakeTTL g.calcTTL getMinimalReachableTTL⟩

theorem loadConfig_rulesLoaded (hload : loadConfig calls file g = (.ok r, g'))
    (hrules : RulesLoaded g.calcTTL) : RulesLoaded g'.calcTTL := by
  intro f hf
  rcases loadConfig_calcTTL hload hf with hnew | hold
  · exact hnew
  · exact hrules f hold

/-- **For every file that loads and every ClientHello, the connection to the server of DNS over HTTPS
never swallows it exactly if the policy of the server refuses it or gets it through.** -/
theorem doh_write_iff (hload : loadConfig calls file g = (.ok r, g')) (hrules : RulesLoaded g.calcTTL)
    (getMinimalReachableTTL : Bytes → Bool → Int → Int → Int → Res Int) (a : UInt8) (rest : Bytes)
    (hprobe : getMinimalReachableTTL (a :: rest) (a == lbracket) g'.dohPolicy.maxTTL
      g'.dohPolicy.attempts g'.dohPolicy.singleTimeout ≠ .panic)
    (b : Bytes) (h : Hello) (hp : parseClientHello b = .ok h) (hd : CompleteRecord b)
    (hx : g'.dohPolicy.oobEx ≠ .true) :
    NeverSwallows (g'.tlsEnv getMinimalReachableTTL) g'.dohPolicy (a :: rest) b ↔
      Accountable (getFakeTTL g'.calcTTL getMinimalReachableTTL g'.dohPolicy (a :: rest) (a == lbracket))
        g'.dohPolicy b h := by
  have hpanic := getFakeTTL_ne_panic (p := g'.dohPolicy) (loadConfig_rulesLoaded hload hrules) hprobe
  have hfirst : ∀ c : Upstream, c.Reliable → _ := fun c hc =>
    first_write_iff (g'.tlsEnv getMinimalReachableTTL) hp hd hx hpanic hc
  constructor
  · intro hn
    exact (hfirst {} fun _ => rfl).mp (hn.first {} fun _ => rfl)
  · intro ha
    exact ⟨fun c hc => (hfirst c hc).mpr ha, write_marks, fun s hh hs bs => writes_pass bs hh hs⟩

end

/-! ## a server that is given by its address -/

def resolverCallees : Callees Unit Unit :=
  { plainCallees with parseURL := fun _ => .ok (lit "192.0.2.53", []) }

/-- a file with a server and a default policy, and no rules -/
def resolverFile (policy : List (Bytes × Json)) : Res Json :=
  .ok (.obj [(lit "dns_addr", .str (lit "https://192.0.2.53/dns-query")),
    (lit "default_policy", .obj ((lit "connect_timeout", .str (lit "5s")) :: policy))])

def resolverLoaded (policy : List (Bytes × Json)) : Globals Unit Unit :=
  (loadConfig resolverCallees (resolverFile policy) {}).2

def resolverWrite (policy : List (Bytes × Json)) : Res Nat × InterceptConn :=
  InterceptConn.write ((resolverLoaded policy).tlsEnv fun _ _ _ _ _ => .ok 7)
    (resolverLoaded policy).dohPolicy (lit "192.0.2.53:443") sampleHello {}

def fragmenting : List (Bytes × Json) := [(lit "mode", .str (lit "tls-rf")),
  (lit "num_records", .num (lit "4")), (lit "num_segs", .num (lit "3"))]

theorem doh_write_fragmented :
    NeverSwallows ((resolverLoaded fragmenting).tlsEnv fun _ _ _ _ _ => .ok 7)
      (resolverLoaded fragmenting).dohPolicy (lit "192.0.2.53:443") sampleHello := by
  have hload : loadConfig resolverCallees (resolverFile fragmenting) {} =
      (.ok ([], []), resolverLoaded fragmenting) := Prod.ext (by decide +kernel) rfl
  refine (doh_write_iff hload (fun f hf => nomatch hf) (fun _ _ _ _ _ => .ok 7) 49
    (lit "92.0.2.53:443") (fun h => nomatch h) sampleHello ⟨[3, 3], 61, 3, true⟩ (by decide +kernel)
    ⟨by decide +kernel, by decide +kernel⟩ (by decide +kernel)).mpr ?_
  have hmode : (resolverLoaded fragmenting).dohPolicy.mode = .tlsrf := by decide +kernel
  refine .inr (.inr (.inr (.inr ?_)))
  unfold ModeCarries
  rw [hmode]
  exact .inr ⟨⟨by decide, by decide +kernel⟩, .inl ⟨by decide +kernel, by decide +kernel⟩⟩

/-- a default policy without a mode, or of mode `tls-rf` without counts: the write returns without an
error, and at most an empty segment was sent -/
theorem doh_write_swallows :
    (loadConfig resolverCallees (resolverFile []) {}).1 = .ok ([], []) ∧
    (resolverLoaded []).httpCli = some (.direct (lit "192.0.2.53:443") (5 * 10 ^ 9)) ∧
    (resolverLoaded []).dohPolicy.mode = .unknown ∧ (resolverLoaded []).dohPolicy.oobEx ≠ .true ∧
    parseClientHello sampleHello = .ok ⟨[3, 3], 61, 3, true⟩ ∧ CompleteRecord sampleHello ∧
    (resolverWrite []).1 = .ok sampleHello.length ∧ (resolverWrite []).2.conn.sent = [] ∧
    ¬ CarriedInBand sampleHello [] ∧
    (loadConfig resolverCallees (resolverFile [(lit "mode", .str (lit "tls-rf"))]) {}).1 = .ok ([], []) ∧
    (resolverWrite [(lit "mode", .str (lit "tls-rf"))]).1 = .ok sampleHello.length ∧
    (resolverWrite [(lit "mode", .str (lit "tls-rf"))]).2.conn.sent = [.data []] ∧
    ¬ CarriedInBand sampleHello [.data []] := by
  have h47 : 47 ≤ sampleHello.length := by decide +kernel
  refine ⟨by decide +kernel, by decide +kernel, by decide +kernel, by decide +kernel, by decide +kernel,
    ⟨by decide +kernel, by decide +kernel⟩, by decide +kernel, by decide +kernel, fun hc => ?_,
    by decide +kernel, by decide +kernel, by decide +kernel, fun hc => ?_⟩
  · exact not_conveys_nothing h47 hc.conveys
  · have hlost : ¬ Conveys sampleHello [.data []] :=
      not_conveys_short (by omega) (show 0 + 1 < sampleHello.length by omega)
    exact hlost hc.conveys

end Bill
