import BillVpn.Go.Case
import BillVpn.Routing.Recorded

/-!
# The case of a host name

`classifyDomainRoute` looks a name up in lower case, `genPolicyWithOptions` looks up the rule again
under the name as it came.  A name in upper case can so be of the class of the rules and have none.

* `Verdict.report`         the flags and the policy;
* `CaseSafe`               the rule is the same in both cases, and the name is not that of a pool;
* `sameReport_of_safe`     routing then gives the same report;
* `case_insensitive_iff`   **and only then does it, whatever else the configuration has**;
* `block_evaded`           a rule that blocks, and a name in upper case.
-/

set_option linter.unusedVariables false

namespace Bill
open Go Proc

/-- what is reported beside the host to dial -/
structure Report where
  failed : Bool
  blocked : Bool
  matchedDomain : Bool
  matchedIP : Bool
  policy : Policy
deriving DecidableEq, Repr

def Verdict.report (v : Verdict) : Report :=
  ⟨v.failed, v.blocked, v.matchedDomain, v.matchedIP, v.policy⟩

section
variable {σ : Type}

def reportOf (env : Env σ) (host : Bytes) (resolveDomain : Bool) (s : σ) : Res Report :=
  ((genPolicyWithOptions env host resolveDomain >>= fun v => pure v.report) s).1

/-- a `host` field that names a target, and not the host that was asked for -/
def FixedHost (host : Option Bytes) : Prop :=
  ∃ h, host = some h ∧ h ≠ [] ∧ h ≠ lit "self" ∧ h ≠ [caret]

/-- no rule in lower case, or the same rule in both cases, or a rule that blocks in both -/
def RuleSafe (find : Bytes → Option Policy) (lower : Bytes → Bytes) (h : Bytes) : Prop :=
  find (lower h) = none ∨ find h = find (lower h) ∨ IsBlock (find h) ∧ IsBlock (find (lower h))

/-- Also, the name is not that of a pool, or is in lower case, or its rule says where to go. -/
structure CaseSafe (find : Bytes → Option Policy) (lower : Bytes → Bytes) (h : Bytes) : Prop where
  rule : RuleSafe find lower h
  pool : startsWith tagMark h = true → lower h = h ∨
    ∃ d, find (lower h) = some d ∧ (d.mode = .block ∨ FixedHost d.host)

/-! ## routes -/

variable {env : Env σ} {h : Bytes}

theorem hostTarget_fixed {host : Option Bytes} (hf : FixedHost host) (h h' : Bytes) :
    hostTarget host h = hostTarget host h' := by
  obtain ⟨v, rfl, h1, h2, h3⟩ := hf
  have hn : ¬ (v = [] ∨ v = lit "self") := by
    rintro (he | he)
    · exact h1 he
    · exact h2 he
  unfold hostTarget
  simp only [hn, h3, if_false]

theorem hostTarget_own {host : Option Bytes} (hf : ¬ FixedHost host) :
    ∃ skip, ∀ h, hostTarget host h = (h, skip) := by
  cases host with
  | none => exact ⟨false, fun h => rfl⟩
  | some v =>
    by_cases h1 : v = [] ∨ v = lit "self"
    · exact ⟨false, fun h => if_pos h1⟩
    · by_cases h2 : v = [caret]
      · refine ⟨true, fun h => ?_⟩
        unfold hostTarget
        dsimp only
        rw [if_neg h1, if_pos h2]
      · exact absurd ⟨v, rfl, fun he => h1 (.inl he), fun he => h1 (.inr he), h2⟩ hf

theorem classify_lower (hl : LowerCase env.lower) (h : Bytes) :
    classifyDomainRoute env (env.lower h) = classifyDomainRoute env h := by
  unfold classifyDomainRoute
  rw [hl.idem]

theorem classify_rule_iff (hl : LowerCase env.lower) :
    classifyDomainRoute env h = .rule ↔ h ≠ [] ∧ (env.domainFind (env.lower h)).isSome = true := by
  unfold classifyDomainRoute
  dsimp only
  rw [if_congr (hl.empty h) rfl rfl]
  by_cases h0 : h = []
  · rw [if_pos h0]
    exact ⟨fun he => (nomatch he), fun he => absurd h0 he.1⟩
  · rw [if_neg h0]
    by_cases hf : (env.domainFind (env.lower h)).isSome = true
    · rw [if_pos hf]
      exact ⟨fun _ => ⟨h0, hf⟩, fun _ => rfl⟩
    · rw [if_neg hf]
      refine ⟨fun he => ?_, fun he => absurd he.2 hf⟩
      split_ifs at he

theorem routeDomain_rule {x : Bytes} {d : Policy} (hc : classifyDomainRoute env x = .rule)
    (hd : env.domainFind x = some d) :
    routeDomain env x = ⟨some d, true, [d, env.defaultPolicy]⟩ := by
  unfold routeDomain
  dsimp only
  rw [if_pos hc, hd]

theorem merge_fixed {d q : Policy} (hf : FixedHost d.host) : (mergePolicies [d, q]).host = d.host := by
  obtain ⟨v, hv, -⟩ := hf
  rw [merge_host]
  show firstSet none [d.host, q.host] = d.host
  rw [hv]
  exact firstSet_cons_set (by simp) _

theorem RuleSafe.route (hl : LowerCase env.lower) (hs : RuleSafe env.domainFind env.lower h) :
    routeDomain env (env.lower h) = routeDomain env h ∨
      (IsBlock (routeDomain env h).domainPolicy ∧ (routeDomain env h).matchedDomain = true) ∧
      IsBlock (routeDomain env (env.lower h)).domainPolicy ∧
        (routeDomain env (env.lower h)).matchedDomain = true := by
  by_cases hc : classifyDomainRoute env h = .rule
  · have hc' : classifyDomainRoute env (env.lower h) = .rule := (classify_lower hl h).trans hc
    rcases hs with hn | he | ⟨hb, hb'⟩
    · have hsome := ((classify_rule_iff hl).mp hc).2
      rw [hn] at hsome
      cases hsome
    · refine .inl ?_
      unfold routeDomain
      rw [classify_lower hl, he]
    · obtain ⟨d, hd, hm⟩ := Option.map_eq_some_iff.mp hb
      obtain ⟨e, he, hn⟩ := Option.map_eq_some_iff.mp hb'
      refine .inr ?_
      rw [routeDomain_rule hc hd, routeDomain_rule hc' he]
      exact ⟨⟨congrArg some hm, rfl⟩, congrArg some hn, rfl⟩
  · refine .inl ?_
    unfold routeDomain
    rw [classify_lower hl]
    dsimp only
    rw [if_neg hc, if_neg hc]

/-! ## the same report -/

/-- names are resolved in either case alike -/
structure IgnoresCase (env : Env σ) : Prop where
  recorded : ∀ d m, env.lookupRecordedDNSIP (env.lower d) m = env.lookupRecordedDNSIP d m
  resolve : ∀ d m, env.resolve (env.lower d) m = env.resolve d m

theorem startsWith_lower (hl : LowerCase env.lower) (h : Bytes) :
    startsWith tagMark (env.lower h) = startsWith tagMark h := by
  unfold startsWith
  rw [Bool.eq_iff_iff, beq_iff_eq, beq_iff_eq]
  exact hl.mark h tagMark (by decide)

theorem CaseSafe.pool_route (hl : LowerCase env.lower) {d : Policy} (hne : h ≠ [])
    (hfind : env.domainFind (env.lower h) = some d) (hd : d.mode = .block ∨ FixedHost d.host)
    (hr : routeDomain env (env.lower h) = routeDomain env h) :
    IsBlock (routeDomain env h).domainPolicy ∨
      FixedHost (mergePolicies (routeDomain env h).policies).host := by
  have hc : classifyDomainRoute env (env.lower h) = .rule := by
    rw [classify_lower hl, classify_rule_iff hl, hfind]
    exact ⟨hne, rfl⟩
  rw [← hr, routeDomain_rule hc hfind]
  refine hd.imp (congrArg some) fun hfix => ?_
  show FixedHost (mergePolicies [d, env.defaultPolicy]).host
  rw [merge_fixed hfix]
  exact hfix

theorem sameReport_name (hl : LowerCase env.lower) (hi : IgnoresCase env) (hip : isIP h = false)
    (hd : startsWith tagMark h = false) (r : Route) (m : DNSMode) (resolveDomain skip : Bool) (s : σ) :
    ((attempt (locate env resolveDomain skip m (env.lower h)) >>= settle env r skip >>=
        fun v => pure v.report) s).1 =
      ((attempt (locate env resolveDomain skip m h) >>= settle env r skip >>=
        fun v => pure v.report) s).1 := by
  have hip' := hl.address h hip
  rw [locate_plain hd hip, locate_plain ((startsWith_lower hl h).trans hd) hip']
  by_cases hskip : (!skip && resolveDomain) = true
  · have hres : resolveTarget env m (env.lower h) = resolveTarget env m h := by
      unfold resolveTarget
      rw [hi.recorded, hi.resolve]
    rw [if_pos hskip, if_pos hskip, hres]
  · rw [if_neg hskip, if_neg hskip]
    show ((settle env r skip (.ok (env.lower h)) >>= _) s).1 = ((settle env r skip (.ok h) >>= _) s).1
    rw [settle_name r skip hip, settle_name r skip hip']
    rfl

theorem lookupRecordedDNSIP_lower {lower : Bytes → Bytes} (hl : LowerCase lower) (d : Bytes) (n : DNSMode)
    (now : Int) : lookupRecordedDNSIP lower (lower d) n now = lookupRecordedDNSIP lower d n now := by
  unfold lookupRecordedDNSIP
  simp only [hl.empty, hl.idem]
  rfl

/-- **A name whose rule does not depend on the case is routed alike in both.** -/
theorem sameReport_of_safe (hl : LowerCase env.lower) (hi : IgnoresCase env)
    (hip : isIP h = false) (hs : CaseSafe env.domainFind env.lower h) (resolveDomain : Bool) (s : σ) :
    reportOf env (env.lower h) resolveDomain s = reportOf env h resolveDomain s := by
  unfold reportOf genPolicyWithOptions
  rw [hip, hl.address h hip]
  simp only [Bool.false_eq_true, if_false]
  rcases hs.rule.route hl with hr | ⟨⟨hb, hm⟩, hb', hm'⟩
  · by_cases hb : IsBlock (routeDomain env h).domainPolicy
    · rw [genDomainPolicy_block hb, genDomainPolicy_block (hr ▸ hb), hr]
    have hb' : ¬ IsBlock (routeDomain env (env.lower h)).domainPolicy := by
      rw [hr]
      exact hb
    by_cases hf : FixedHost (mergePolicies (routeDomain env h).policies).host
    · -- the name itself is not used any more
      obtain ⟨dst, skip, ht⟩ : ∃ dst skip,
          hostTarget (mergePolicies (routeDomain env h).policies).host h = (dst, skip) := ⟨_, _, rfl⟩
      have ht' := (hostTarget_fixed hf (env.lower h) h).trans ht
      rw [← hr] at ht'
      rw [genDomainPolicy_settle hb ht, genDomainPolicy_settle hb' ht', hr]
    · obtain ⟨skip, ht⟩ := hostTarget_own hf
      have ht' := ht (env.lower h)
      rw [← hr] at ht'
      rw [genDomainPolicy_settle hb (ht h), genDomainPolicy_settle hb' ht', hr]
      cases hd : startsWith tagMark h with
      | false => exact sameReport_name hl hi hip hd _ _ resolveDomain skip s
      | true =>
        rcases hs.pool hd with he | ⟨d, hfind, hdb⟩
        · rw [he]
        · have hne : h ≠ [] := by
            rintro rfl
            cases hd
          rcases CaseSafe.pool_route hl hne hfind hdb hr with hblock | hfix
          · exact absurd hblock hb
          · exact absurd hfix hf
  · rw [genDomainPolicy_block hb, genDomainPolicy_block hb', hm, hm']

end

/-! ## the condition is needed -/

section
variable {std : Std} {m : Option (DomainMatcher Policy)} {h : Bytes}

def someIP : Bytes := lit "192.0.2.1"

/-- a configuration with these domain rules and this default, no others, and a resolver that answers -/
def openEnv (std : Std) (m : Option (DomainMatcher Policy)) (q : Policy)
    (pool : Bytes → Proc (Net Unit) Bytes) : Env (Net Unit) :=
  ({ domainMatcher := m, defaultPolicy := q } : Globals Unit Unit).dnsEnv std
    { lower := id, domainFind := fun _ => none, isGFWDomain := fun _ => false, defaultPolicy := {},
      getIPPolicy := fun _ => none, getFromIPPool := pool,
      resolveBootstrapHost := fun _ => fail "no such host",
      lookupRecordedDNSIP := fun _ _ => pure none, resolve := fun _ _ => pure (someIP, false),
      lookupDomain := fun _ => pure [] } 0 false

def quietNet : Net Unit := ⟨{}, ()⟩

variable {q : Policy} {pool : Bytes → Proc (Net Unit) Bytes}

theorem open_resolve (n : DNSMode) (x : Bytes) :
    resolveTarget (openEnv std m q pool) n x quietNet = (.ok someIP, quietNet) := by
  have hrec : (openEnv std m q pool).lookupRecordedDNSIP x n quietNet = (.ok none, quietNet) := by
    show (onDns (lookupRecordedDNSIP std.toLower x n 0) : Proc (Net Unit) _) quietNet = _
    unfold onDns
    apply zoom_eq
    unfold lookupRecordedDNSIP
    by_cases hx : x = []
    · rw [if_pos hx]
      rfl
    · rw [if_neg hx]
      rfl
  unfold resolveTarget
  rw [run_bind_ok hrec]
  rfl

theorem open_settle (r : Route) (skip : Bool) (x : Bytes) :
    settle (openEnv std m q pool) r skip (.ok x) quietNet =
      (.ok { dstHost := x, policy := mergePolicies r.policies, matchedDomain := r.matchedDomain },
        quietNet) := by
  unfold settle
  dsimp only
  by_cases hx : (skip || !isIP x) = true
  · rw [if_pos hx]
    rfl
  · rw [if_neg hx]
    rfl

theorem open_report {x : Bytes} {b skip : Bool} {dst y : Bytes} (hip : isIP x = false)
    (hb : ¬ IsBlock (routeDomain (openEnv std m q pool) x).domainPolicy)
    (ht : hostTarget (mergePolicies (routeDomain (openEnv std m q pool) x).policies).host x = (dst, skip))
    (hloc : locate (openEnv std m q pool) b skip
      (mergePolicies (routeDomain (openEnv std m q pool) x).policies).dnsMode dst quietNet =
        (.ok y, quietNet)) :
    reportOf (openEnv std m q pool) x b quietNet =
      .ok ⟨false, false, (routeDomain (openEnv std m q pool) x).matchedDomain, false,
        mergePolicies (routeDomain (openEnv std m q pool) x).policies⟩ := by
  unfold reportOf genPolicyWithOptions
  rw [hip]
  simp only [Bool.false_eq_true, if_false]
  rw [genDomainPolicy_settle hb ht]
  have hv : (attempt (locate (openEnv std m q pool) b skip
      (mergePolicies (routeDomain (openEnv std m q pool) x).policies).dnsMode dst) >>=
      settle (openEnv std m q pool) (routeDomain (openEnv std m q pool) x) skip) quietNet = _ :=
    (run_bind_ok (attempt_ok hloc)).trans (open_settle _ skip y)
  rw [run_bind_ok hv]
  rfl

theorem block_report {x : Bytes} {b : Bool} (hip : isIP x = false)
    (hb : IsBlock (routeDomain (openEnv std m q pool) x).domainPolicy) :
    reportOf (openEnv std m q pool) x b quietNet =
      .ok ⟨false, true, (routeDomain (openEnv std m q pool) x).matchedDomain, false, {}⟩ := by
  unfold reportOf genPolicyWithOptions
  rw [hip]
  simp only [Bool.false_eq_true, if_false]
  rw [genDomainPolicy_block hb]
  rfl

theorem open_locate (b skip : Bool) (n : DNSMode) (x : Bytes) :
    ∃ y, locate (openEnv std m q fun _ => pure someIP) b skip n x quietNet = (.ok y, quietNet) := by
  obtain ⟨z, hz⟩ : ∃ z, poolTarget (openEnv std m q fun _ => pure someIP) x = pure z := by
    unfold poolTarget
    split_ifs with hd
    · exact ⟨someIP, rfl⟩
    · exact ⟨x, rfl⟩
  unfold locate
  rw [hz]
  by_cases hr : (!skip && b && !isIP z) = true
  · refine ⟨someIP, ?_⟩
    show (if (!skip && b && !isIP z) = true then _ else _ : Proc (Net Unit) Bytes) quietNet = _
    rw [if_pos hr]
    exact open_resolve n z
  · refine ⟨z, ?_⟩
    show (if (!skip && b && !isIP z) = true then _ else _ : Proc (Net Unit) Bytes) quietNet = _
    rw [if_neg hr]
    rfl

theorem open_report_eq {x : Bytes} {b : Bool} (hip : isIP x = false) :
    reportOf (openEnv std m q fun _ => pure someIP) x b quietNet =
      let r := routeDomain (openEnv std m q fun _ => pure someIP) x
      .ok (if IsBlock r.domainPolicy then ⟨false, true, r.matchedDomain, false, {}⟩
        else ⟨false, false, r.matchedDomain, false, mergePolicies r.policies⟩) := by
  dsimp only
  by_cases hb : IsBlock (routeDomain (openEnv std m q fun _ => pure someIP) x).domainPolicy
  · rw [if_pos hb]
    exact block_report hip hb
  · rw [if_neg hb]
    obtain ⟨y, hy⟩ := open_locate (x := (hostTarget _ x).1) b (hostTarget _ x).2 _
    exact open_report hip hb rfl hy

theorem ruleSafe_of_reports (hl : LowerCase std.toLower) (hip : isIP h = false) {b : Bool}
    (hall : ∀ q, reportOf (openEnv std m q fun _ => pure someIP) (std.toLower h) b quietNet =
      reportOf (openEnv std m q fun _ => pure someIP) h b quietNet) :
    RuleSafe (fun d => m.bind (·.find d)) std.toLower h := by
  by_contra hno
  unfold RuleSafe at hno
  push Not at hno
  obtain ⟨hsome, hne, hblock⟩ := hno
  obtain ⟨e, he⟩ := Option.ne_none_iff_exists'.mp hsome
  have h0 : h ≠ [] := by
    intro h0
    have hl0 : std.toLower h = [] := (hl.empty h).mpr h0
    rw [hl0, h0] at hne
    exact hne rfl
  have hclass : ∀ q, classifyDomainRoute (openEnv std m q fun _ => pure someIP) h = .rule := by
    intro q
    refine (classify_rule_iff hl).mpr ⟨h0, ?_⟩
    exact Option.isSome_iff_exists.mpr ⟨e, he⟩
  have hlow : ∀ q, routeDomain (openEnv std m q fun _ => pure someIP) (std.toLower h) =
      ⟨some e, true, [e, q]⟩ := fun q =>
    routeDomain_rule ((classify_lower hl h).trans (hclass q)) he
  have hip' := hl.address h hip
  cases hd : m.bind (·.find h) with
  | none =>
    have hup : routeDomain (openEnv std m {} fun _ => pure someIP) h =
        ⟨none, false, [plainFallbackPolicy, {}]⟩ := by
      have hfind : (openEnv std m {} fun _ => pure someIP).domainFind h = none := hd
      unfold routeDomain
      rw [hclass]
      dsimp only
      rw [if_pos rfl, hfind]
      rfl
    have hrep := hall {}
    rw [open_report_eq hip, open_report_eq hip', hlow, hup] at hrep
    dsimp only at hrep
    have hm := congrArg Report.matchedDomain (Res.ok.inj hrep)
    split_ifs at hm
  | some d =>
    have hup : ∀ q, routeDomain (openEnv std m q fun _ => pure someIP) h = ⟨some d, true, [d, q]⟩ :=
      fun q => routeDomain_rule (hclass q) hd
    have hrep : ∀ q, (if IsBlock (some e) then (⟨false, true, true, false, {}⟩ : Report)
        else ⟨false, false, true, false, mergePolicies [e, q]⟩) =
        if IsBlock (some d) then ⟨false, true, true, false, {}⟩
        else ⟨false, false, true, false, mergePolicies [d, q]⟩ := by
      intro q
      have hq := hall q
      rw [open_report_eq hip, open_report_eq hip', hlow, hup] at hq
      exact Res.ok.inj hq
    rw [hd, he] at hblock hne
    by_cases hbd : IsBlock (some d)
    · have hbe := hblock hbd
      have hb := congrArg Report.blocked (hrep {})
      rw [if_pos hbd, if_neg hbe] at hb
      cases hb
    · by_cases hbe : IsBlock (some e)
      · have hb := congrArg Report.blocked (hrep {})
        rw [if_neg hbd, if_pos hbe] at hb
        cases hb
      · refine hne (congrArg some (merge_separates fun q => ?_))
        have hp := congrArg Report.policy (hrep q)
        rw [if_neg hbd, if_neg hbe] at hp
        exact hp.symm

/-- the pool with exactly this name -/
def onePool (name : Bytes) (tag : Bytes) : Proc (Net Unit) Bytes :=
  if tag = name then pure someIP else fail "ip pool not found"

theorem open_locate_pool {b skip : Bool} {n : DNSMode} (hd : startsWith tagMark h = true) :
    locate (openEnv std m q (onePool (h.drop 1))) b skip n h quietNet = (.ok someIP, quietNet) := by
  have hp : poolTarget (openEnv std m q (onePool (h.drop 1))) h = pure someIP := by
    unfold poolTarget
    rw [if_pos hd]
    exact if_pos rfl
  have hip : isIP someIP = true := by decide +kernel
  unfold locate
  rw [hp]
  show (if (!skip && b && !isIP someIP) = true then _ else _ : Proc (Net Unit) Bytes) quietNet = _
  rw [hip, Bool.not_true, Bool.and_false, if_neg (by simp)]
  rfl

theorem open_report_noPool {x name : Bytes} {b skip : Bool} (hip : isIP x = false)
    (hd : startsWith tagMark x = true) (hne : x.drop 1 ≠ name)
    (hb : ¬ IsBlock (routeDomain (openEnv std m q (onePool name)) x).domainPolicy)
    (ht : hostTarget (mergePolicies (routeDomain (openEnv std m q (onePool name)) x).policies).host x =
      (x, skip)) :
    reportOf (openEnv std m q (onePool name)) x b quietNet =
      .ok ⟨true, false, (routeDomain (openEnv std m q (onePool name)) x).matchedDomain, false, {}⟩ := by
  have hp : poolTarget (openEnv std m q (onePool name)) x = fail "ip pool not found" := by
    unfold poolTarget
    rw [if_pos hd]
    exact if_neg hne
  unfold reportOf genPolicyWithOptions
  rw [hip]
  simp only [Bool.false_eq_true, if_false]
  rw [genDomainPolicy_settle hb ht]
  unfold locate
  rw [hp]
  rfl

theorem route_host {env : Env (Net Unit)} (hq : env.defaultPolicy.host = none) (x : Bytes) :
    FixedHost (mergePolicies (routeDomain env x).policies).host →
      ∃ d, env.domainFind x = some d ∧ FixedHost d.host := by
  have hhost : ∀ d : Policy, (mergePolicies [d, env.defaultPolicy]).host = d.host := by
    intro d
    rw [merge_host]
    show firstSet none [d.host, env.defaultPolicy.host] = d.host
    cases hd : d.host with
    | none => rw [firstSet_cons_unset, hq, firstSet_cons_unset, firstSet_nil]
    | some v => exact firstSet_cons_set (by simp) _
  rcases routeDomain_cases env x with ⟨d, hd, hr⟩ | hr | hr
  · rw [hr, hhost]
    exact fun hf => ⟨d, hd, hf⟩
  · rw [hr, hhost]
    rintro ⟨v, hv, -⟩
    cases hv
  · rw [hr, hhost]
    rintro ⟨v, hv, -⟩
    cases hv

theorem poolSafe_of_reports (hl : LowerCase std.toLower) (hip : isIP h = false) {b : Bool}
    (hrule : RuleSafe (fun d => m.bind (·.find d)) std.toLower h)
    (hall : reportOf (openEnv std m {} (onePool (h.drop 1))) (std.toLower h) b quietNet =
      reportOf (openEnv std m {} (onePool (h.drop 1))) h b quietNet)
    (hd : startsWith tagMark h = true) : std.toLower h = h ∨
      ∃ d, m.bind (·.find (std.toLower h)) = some d ∧ (d.mode = .block ∨ FixedHost d.host) := by
  by_contra hno
  push Not at hno
  obtain ⟨hne, hother⟩ := hno
  have hrule : RuleSafe (openEnv std m {} (onePool (h.drop 1))).domainFind
      (openEnv std m {} (onePool (h.drop 1))).lower h := hrule
  have hl' : LowerCase (openEnv std m {} (onePool (h.drop 1))).lower := hl
  have hb' : ¬ IsBlock (routeDomain (openEnv std m {} (onePool (h.drop 1)))
      (std.toLower h)).domainPolicy := by
    intro hb
    rcases routeDomain_cases (openEnv std m {} (onePool (h.drop 1))) (std.toLower h) with
      ⟨d, hfind, hr⟩ | hr | hr
    · rw [hr] at hb
      exact (hother d hfind).1 (Option.some.inj hb)
    · rw [hr] at hb
      cases hb
    · rw [hr] at hb
      cases hb
  have hf' : ¬ FixedHost (mergePolicies (routeDomain (openEnv std m {} (onePool (h.drop 1)))
      (std.toLower h)).policies).host := by
    intro hf
    obtain ⟨d, hfind, hfix⟩ := route_host (by rfl) _ hf
    exact (hother d hfind).2 hfix
  rcases hrule.route hl' with hr | hblock
  · have hr : routeDomain (openEnv std m {} (onePool (h.drop 1))) (std.toLower h) =
        routeDomain (openEnv std m {} (onePool (h.drop 1))) h := hr
    obtain ⟨skip, ht'⟩ := hostTarget_own hf'
    have ht := ht' h
    have hb := hb'
    rw [hr] at ht hb
    have hd' : startsWith tagMark (std.toLower h) = true := (startsWith_lower hl' h).trans hd
    have hdrop : (std.toLower h).drop 1 ≠ h.drop 1 := by
      intro he
      have h1 : h.head? = some tagMark := by simpa [startsWith] using hd
      have h2 : (std.toLower h).head? = some tagMark := by simpa [startsWith] using hd'
      apply hne
      calc std.toLower h = tagMark :: (std.toLower h).drop 1 := by
            rw [List.drop_one, List.cons_head?_tail h2]
        _ = tagMark :: h.drop 1 := by rw [he]
        _ = h := by rw [List.drop_one, List.cons_head?_tail h1]
    rw [open_report_noPool (hl.address h hip) hd' hdrop hb' (ht' _),
      open_report hip hb ht (open_locate_pool hd)] at hall
    cases congrArg Report.failed (Res.ok.inj hall)
  · exact hb' hblock.2.1

end

/-- **Routing ignores the case of a name exactly when the rules let it**: whatever the built-in list,
the rules for addresses, the default policy, the pools, the recorded answers and the resolver are. -/
theorem case_insensitive_iff (std : Std) (hl : LowerCase std.toLower)
    (m : Option (DomainMatcher Policy)) (h : Bytes) (hip : isIP h = false) (resolveDomain : Bool) :
    (∀ (κ τ ρ : Type) (g : Globals κ τ) (rt : Env (Net ρ)) (now : Int) (hit : Bool) (s : Net ρ),
      g.domainMatcher = m → (∀ d n, rt.resolve (std.toLower d) n = rt.resolve d n) →
      reportOf (g.dnsEnv std rt now hit) (std.toLower h) resolveDomain s =
        reportOf (g.dnsEnv std rt now hit) h resolveDomain s) ↔
    CaseSafe (fun d => m.bind (·.find d)) std.toLower h := by
  constructor
  · intro hall
    have hopen : ∀ q pool, reportOf (openEnv std m q pool) (std.toLower h) resolveDomain quietNet =
        reportOf (openEnv std m q pool) h resolveDomain quietNet := fun q pool =>
      hall Unit Unit Unit _ _ 0 false quietNet rfl fun _ _ => rfl
    have hrule := ruleSafe_of_reports hl hip fun q => hopen q _
    exact ⟨hrule, poolSafe_of_reports hl hip hrule (hopen {} _)⟩
  · intro hs κ τ ρ g rt now hit s hm hres
    have hfind : (g.dnsEnv std rt now hit).domainFind = fun d => m.bind (·.find d) := by
      rw [← hm]
      rfl
    have hi : IgnoresCase (g.dnsEnv std rt now hit) :=
      ⟨fun d n => congrArg onDns (lookupRecordedDNSIP_lower hl d n now), hres⟩
    have hs : CaseSafe (g.dnsEnv std rt now hit).domainFind std.toLower h := by
      rw [hfind]
      exact hs
    exact sameReport_of_safe hl hi hip hs resolveDomain s

def blockRule : DomainMatcher Policy :=
  buildDomainMatcher [(lit "blocked.example", { mode := .block })]

def wildcardRule : DomainMatcher Policy :=
  buildDomainMatcher [(lit "*.example", { mode := .block })]

theorem caseSafe_wildcard : CaseSafe (fun d => (some wildcardRule).bind (·.find d)) asciiStd.toLower
    (lit "WWW.example") where
  rule := .inr (.inl rfl)
  pool hd := by cases hd

theorem case_insensitive_wildcard :
    reportOf (openEnv asciiStd (some wildcardRule) {} fun _ => pure someIP)
      (asciiLower (lit "WWW.example")) true quietNet =
    reportOf (openEnv asciiStd (some wildcardRule) {} fun _ => pure someIP) (lit "WWW.example") true
      quietNet :=
  (case_insensitive_iff asciiStd lowerCase_asciiLower (some wildcardRule) (lit "WWW.example")
    (by decide +kernel) true).mpr caseSafe_wildcard Unit Unit Unit _ _ 0 false quietNet rfl
    fun _ _ => rfl

/-- the same host twice: the rule blocks the name in lower case only -/
theorem block_evaded :
    reportOf (openEnv asciiStd (some blockRule) {} fun _ => pure someIP) (lit "blocked.example") true
      quietNet = .ok ⟨false, true, true, false, {}⟩ ∧
    reportOf (openEnv asciiStd (some blockRule) {} fun _ => pure someIP) (lit "Blocked.example") true
      quietNet = .ok ⟨false, false, false, false, mergePolicies [plainFallbackPolicy, {}]⟩ := by
  constructor
  · rfl
  · rfl

end Bill
