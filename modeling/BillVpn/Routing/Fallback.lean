import BillVpn.Config.Merge
import BillVpn.Policy.Plan

/-!
# What the built-in policies leave of the default policy

A host without a rule is planned with one of the two built-in policies ahead of the default policy.
They are Go zero values with a mode, and for five fields the zero is a value: those five are not
inherited.  Once an address has a rule, the built-in policy is gone, and with it its mode.

* `ruledAddress`, `addressRule`   the address whose rules count, and its rule;
* `genPolicy_merged`              the policy of every plan, by that rule;
* `merge_fallback`                a built-in policy ahead of another one, as a whole;
* `default_inherited_iff`         **the default policy is inherited if and only if** it leaves the
                                  five fields alone;
* `gfw_fragmented_iff`            **a listed domain is fragmented if and only if** no rule without a
                                  mode lets the mode of the default policy in.
-/

set_option linter.unusedVariables false

namespace Bill
open Go Proc

/-! ## the rule of the address -/

section
variable {σ : Type} (env : Env σ)

/-- the address that the rules for addresses are looked up for; none for a host that is dialed by its
name, or that cannot be located -/
def ruledAddress (host : Bytes) (resolveDomain : Bool) (s : σ) : Option Bytes :=
  if isIP host then some host
  else
    let p := mergePolicies (routeDomain env host).policies
    let target := hostTarget p.host host
    match (locate env resolveDomain target.2 p.dnsMode target.1 s).1 with
    | .ok dst => if target.2 || !isIP dst then none else some dst
    | _ => none

def addressRule (host : Bytes) (resolveDomain : Bool) (s : σ) : Option Policy :=
  (ruledAddress env host resolveDomain s).bind env.getIPPolicy

def policiesFor (host : Bytes) (rule : Option Policy) : List Policy :=
  if isIP host then [rule.getD plainFallbackPolicy, env.defaultPolicy]
  else match rule with
    | none => (routeDomain env host).policies
    | some p => (routeDomain env host).domainPolicy.toList ++ [p, env.defaultPolicy]

end

section
variable {σ : Type} {env : Env σ} {host : Bytes} {resolveDomain : Bool} {s s' : σ} {v : Verdict}

/-- what a call that does not fail returns, by the policies that are merged -/
inductive Merged (ps : List Policy) (v : Verdict) : Prop where
  | blocked (h : v.blocked = true) (hmode : (mergePolicies ps).mode = .block)
  | planned (h : v.blocked = false) (hp : v.policy = mergePolicies ps)

theorem genIPPolicy_merged (h : genIPPolicy env host s = (.ok v, s')) (hf : v.failed = false) :
    Merged [(env.getIPPolicy host).getD plainFallbackPolicy, env.defaultPolicy] v := by
  obtain ⟨r, s1, hr, h⟩ := run_bind_eq_ok.mp h
  rcases attempt_eq_ok hr with ⟨⟨dst, ipPolicy⟩, rfl, hred⟩ | ⟨e, rfl, -⟩
  · rw [ipRedirect_rule hred]
    dsimp only at h
    split_ifs at h with hmode
    · cases h
      exact .blocked rfl hmode
    · cases h
      exact .planned rfl rfl
  · cases h
    cases hf

theorem redirectDomain_merged {r : Route} {dst : Bytes}
    (h : redirectDomain env r dst s = (.ok v, s')) (hf : v.failed = false) :
    Merged (match env.getIPPolicy dst with
      | none => r.policies
      | some p => r.domainPolicy.toList ++ [p, env.defaultPolicy]) v := by
  obtain ⟨res, s1, hr, h⟩ := run_bind_eq_ok.mp h
  rcases attempt_eq_ok hr with ⟨⟨dst', ipPolicy⟩, rfl, hred⟩ | ⟨e, rfl, -⟩
  · rw [ipRedirect_rule hred]
    cases ipPolicy with
    | none =>
      cases h
      exact .planned rfl rfl
    | some p =>
      dsimp only at h ⊢
      split_ifs at h with hmode
      · cases h
        exact .blocked rfl hmode
      · cases h
        exact .planned rfl rfl
  · cases h
    cases hf

/-- **What every call that does not fail returns**, by the rule of the address that the host stands
for; a domain rule that blocks is set aside. -/
theorem genPolicy_merged (hblk : isIP host = true ∨ ¬ IsBlock (routeDomain env host).domainPolicy)
    (h : genPolicyWithOptions env host resolveDomain s = (.ok v, s')) (hf : v.failed = false) :
    Merged (policiesFor env host (addressRule env host resolveDomain s)) v := by
  unfold genPolicyWithOptions at h
  unfold addressRule ruledAddress policiesFor
  by_cases hip : isIP host = true
  · rw [if_pos hip] at h
    rw [if_pos hip, if_pos hip, Option.bind_some]
    exact genIPPolicy_merged h hf
  · rw [if_neg hip, genDomainPolicy_settle (hblk.resolve_left hip) (Prod.eta _).symm] at h
    rw [if_neg hip, if_neg hip]
    obtain ⟨r, s1, hr, h⟩ := run_bind_eq_ok.mp h
    dsimp only
    rcases attempt_eq_ok hr with ⟨dst, rfl, hloc⟩ | ⟨e, rfl, -⟩
    · rw [hloc]
      unfold settle at h
      dsimp only at h ⊢
      split_ifs at h ⊢ with hskip
      · cases h
        exact .planned rfl rfl
      · exact redirectDomain_merged h hf
    · cases h
      cases hf

end

/-! ## a built-in policy ahead of another -/

/-- the five fields of a zero value that count as set -/
def zeroed (p : Policy) : Policy :=
  { p with connectTimeout := 0, httpStatus := 0, sendInterval := 0, fakeTTL := 0, singleTimeout := 0 }

theorem merge_fallback {m : Mode} (hm : m ≠ .unknown) (p : Policy) :
    mergePolicies [{ mode := m }, p] =
      zeroed { p with
        mode := m
        dnsMode := if p.dnsMode = .unknown then DNSMode.default else p.dnsMode } := by
  have hfirst : mergeStep mergeInit { mode := m } = zeroed { mode := m } := by
    simp only [mergeStep, mergeInit, zeroed, pick_unset]
  have hstep : mergeStep (zeroed { mode := m }) p = zeroed { p with mode := m } := by
    have h0 : (0 : Int) ≠ unsetInt := by decide
    cases p
    simp only [mergeStep, zeroed, pick_unset, pick_set h0, pick_set hm]
  show applyPolicyDefaults (mergeStep (mergeStep mergeInit { mode := m }) p) = _
  rw [hfirst, hstep]
  unfold applyPolicyDefaults zeroed
  dsimp only
  rw [if_neg hm]

/-! ## hosts without a rule -/

/-- the value is the one that is given, if one is -/
def Follows {α : Type} (given : Option α) (v : α) : Prop := ∀ x, given = some x → v = x

/-- every field but the mode is what the object of the default policy sets -/
structure Inherits (g : Given) (p : Policy) : Prop where
  replyFirst : Follows g.replyFirst p.replyFirst
  dnsMode : Follows g.dnsMode p.dnsMode
  connectTimeout : Follows g.connectTimeout p.connectTimeout
  host : ∀ x, g.host = some x → p.host = some x
  mapTo : ∀ x, g.mapTo = some x → p.mapTo = some x
  port : Follows g.port p.port
  httpStatus : Follows g.httpStatus p.httpStatus
  tls13Only : Follows g.tls13Only p.tls13Only
  numRecords : Follows g.numRecords p.numRecords
  numSegments : Follows g.numSegments p.numSegments
  oob : Follows g.oob p.oob
  oobEx : Follows g.oobEx p.oobEx
  modMinorVer : Follows g.modMinorVer p.modMinorVer
  sendInterval : Follows g.sendInterval p.sendInterval
  fakeTTL : Follows g.fakeTTL p.fakeTTL
  fakeSleep : Follows g.fakeSleep p.fakeSleep
  maxTTL : Follows g.maxTTL p.maxTTL
  attempts : Follows g.attempts p.attempts
  singleTimeout : Follows g.singleTimeout p.singleTimeout

/-- the default policy sets none of the five fields to anything but 0 -/
def LeavesZeroes (g : Given) : Prop :=
  Follows g.connectTimeout 0 ∧ Follows g.httpStatus 0 ∧ Follows g.sendInterval 0 ∧
    Follows g.fakeTTL 0 ∧ Follows g.singleTimeout 0

theorem Tells.follows {α : Type} {unset v : α} {given : Option α} (h : Tells unset given v) :
    Follows given v := by
  rintro x rfl
  exact h.1

theorem fallback_inherits_iff {std : Std} (r : ReadPolicy std) {m : Mode} (hm : m ≠ .unknown) :
    Inherits r.given (mergePolicies [{ mode := m }, r.policy]) ↔ LeavesZeroes r.given := by
  have hr := read_agrees r
  rw [merge_fallback hm]
  constructor
  · exact fun h => ⟨h.connectTimeout, h.httpStatus, h.sendInterval, h.fakeTTL, h.singleTimeout⟩
  · rintro ⟨h1, h2, h3, h4, h5⟩
    exact {
      replyFirst := hr.replyFirst.follows
      dnsMode := by
        intro x hx
        have hset : r.policy.dnsMode = x := hr.dnsMode.follows x hx
        have hne : x ≠ .unknown := fun heq => hr.dnsMode.2 (hx.trans (congrArg some heq))
        show (if r.policy.dnsMode = .unknown then DNSMode.default else r.policy.dnsMode) = x
        rw [hset, if_neg hne]
      connectTimeout := h1
      host := fun x hx => hr.host.trans hx
      mapTo := fun x hx => hr.mapTo.trans hx
      port := fun x hx => hr.port.1.trans (by rw [hx]; rfl)
      httpStatus := h2
      tls13Only := hr.tls13Only.follows
      numRecords := hr.numRecords.follows
      numSegments := hr.numSegments.follows
      oob := hr.oob.follows
      oobEx := hr.oobEx.follows
      modMinorVer := hr.modMinorVer.follows
      sendInterval := h3
      fakeTTL := h4
      fakeSleep := hr.fakeSleep.follows
      maxTTL := hr.maxTTL.follows
      attempts := hr.attempts.follows
      singleTimeout := h5 }

section
variable {σ : Type} {env : Env σ} {host : Bytes}

theorem routeDomain_unruled (h : env.domainFind (env.lower host) = none) :
    (routeDomain env host).domainPolicy = none ∧ ∃ m : Mode, m ≠ .unknown ∧ m ≠ .block ∧
      (routeDomain env host).policies = [{ mode := m }, env.defaultPolicy] := by
  have hclass : classifyDomainRoute env host ≠ .rule := by
    unfold classifyDomainRoute
    dsimp only
    rw [h]
    split_ifs <;> simp_all
  unfold routeDomain
  dsimp only
  rw [if_neg hclass]
  by_cases hg : classifyDomainRoute env host = .gfw
  · rw [if_pos hg]
    exact ⟨rfl, .tlsrf, by decide, by decide, rfl⟩
  · rw [if_neg hg]
    exact ⟨rfl, .raw, by decide, by decide, rfl⟩

theorem policiesFor_unruled (h : env.domainFind (env.lower host) = none) :
    ∃ m : Mode, m ≠ .unknown ∧ m ≠ .block ∧
      policiesFor env host none = [{ mode := m }, env.defaultPolicy] := by
  unfold policiesFor
  by_cases hip : isIP host = true
  · rw [if_pos hip]
    exact ⟨.raw, by decide, by decide, rfl⟩
  · rw [if_neg hip]
    exact (routeDomain_unruled h).2

end

/-- **A host without a rule inherits the default policy if and only if** that leaves the five fields
alone: for every default policy that was read, a listed or a plain domain, or an address. -/
theorem default_inherited_iff {σ : Type} {std : Std} (r : ReadPolicy std) (env : Env σ)
    (hdefault : env.defaultPolicy = r.policy) (host : Bytes) (resolveDomain : Bool) {s s' : σ}
    (hdomain : env.domainFind (env.lower host) = none)
    (haddr : addressRule env host resolveDomain s = none) {v : Verdict}
    (hrun : genPolicyWithOptions env host resolveDomain s = (.ok v, s')) (hok : v.failed = false) :
    Inherits r.given v.policy ↔ LeavesZeroes r.given := by
  obtain ⟨m, hm, hblock, hps⟩ := policiesFor_unruled hdomain
  have hnb : ¬ IsBlock (routeDomain env host).domainPolicy := by
    rw [(routeDomain_unruled hdomain).1]
    nofun
  have hmerged := genPolicy_merged (.inr hnb) hrun hok
  rw [haddr, hps, hdefault] at hmerged
  cases hmerged with
  | blocked hb hmode =>
    rw [merge_fallback hm] at hmode
    exact absurd hmode hblock
  | planned hb hp =>
    rw [hp]
    exact fallback_inherits_iff r hm

/-- what a plain name is planned with under a default policy -/
def openVerdict (p : Policy) : Verdict :=
  { dstHost := lit "192.0.2.7", policy := mergePolicies [plainFallbackPolicy, p] }

/-- a default policy that sets a port -/
theorem default_port_inherited :
    genPolicyWithOptions (oneRuleEnv {} portRead.policy) (lit "open.example") true () =
      (.ok (openVerdict portRead.policy), ()) ∧
    Inherits portRead.given (openVerdict portRead.policy).policy := by
  have hrun : genPolicyWithOptions (oneRuleEnv {} portRead.policy) (lit "open.example") true () =
      (.ok (openVerdict portRead.policy), ()) := Prod.ext (by decide +kernel) rfl
  have hzero : LeavesZeroes portRead.given := by
    refine ⟨?_, ?_, ?_, ?_, ?_⟩ <;> exact nofun
  exact ⟨hrun, (default_inherited_iff portRead (oneRuleEnv {} portRead.policy) rfl
    (lit "open.example") true (by decide +kernel) (by decide +kernel) hrun rfl).mpr hzero⟩

/-- a default policy that sets a status -/
def statusRead : ReadPolicy asciiStd where
  json := .obj [(lit "http_status", .num (lit "301"))]
  fields := { portFields none with httpStatus := some 301 }
  policy := { mergeInit with port := unsetInt, httpStatus := 301 }
  decoded := rfl
  read := rfl

/-- the status is set, no rule matches, and the plan has 0 -/
theorem default_status_lost :
    statusRead.given.httpStatus = some 301 ∧
    (oneRuleEnv {} statusRead.policy).domainFind (lit "open.example") = none ∧
    addressRule (oneRuleEnv {} statusRead.policy) (lit "open.example") true () = none ∧
    genPolicyWithOptions (oneRuleEnv {} statusRead.policy) (lit "open.example") true () =
      (.ok (openVerdict statusRead.policy), ()) ∧
    (openVerdict statusRead.policy).policy.httpStatus = 0 :=
  ⟨rfl, by decide +kernel, by decide +kernel, Prod.ext (by decide +kernel) rfl, by decide +kernel⟩

/-! ## listed domains -/

theorem routeDomain_gfw {σ : Type} {env : Env σ} {host : Bytes}
    (h : classifyDomainRoute env host = .gfw) :
    routeDomain env host = ⟨none, true, [gfwFallbackPolicy, env.defaultPolicy]⟩ := by
  unfold routeDomain
  dsimp only
  rw [h]
  rfl

theorem policiesFor_gfw {σ : Type} {env : Env σ} {host : Bytes} (hname : isIP host = false)
    (h : classifyDomainRoute env host = .gfw) (rule : Option Policy) :
    policiesFor env host rule = [rule.getD gfwFallbackPolicy, env.defaultPolicy] := by
  unfold policiesFor
  rw [hname, if_neg Bool.false_ne_true, routeDomain_gfw h]
  cases rule with
  | none => rfl
  | some p => rfl

theorem merge_pair_mode (p d : Policy) :
    (mergePolicies [p, d]).mode =
      if p.mode ≠ .unknown then p.mode else if d.mode ≠ .unknown then d.mode else .tlsrf := by
  rw [merge_mode, List.map_cons, List.map_singleton]
  by_cases hp : p.mode = .unknown
  · rw [hp, firstSet_cons_unset, firstSet_singleton, if_neg (not_not.mpr rfl)]
    by_cases hd : d.mode = .unknown
    · rw [if_pos hd, if_neg (not_not.mpr hd)]
      rfl
    · rw [if_neg hd, if_pos hd]
  · rw [firstSet_cons_set hp, if_neg hp, if_pos hp]

/-- **A listed domain is fragmented if and only if** no rule without a mode, for the address it
resolves to, lets another mode of the default policy in; a rule with a mode of its own counts. -/
theorem gfw_fragmented_iff {σ : Type} (env : Env σ) (host : Bytes) (resolveDomain : Bool) {s s' : σ}
    (hname : isIP host = false) (hgfw : classifyDomainRoute env host = .gfw) {v : Verdict}
    (hrun : genPolicyWithOptions env host resolveDomain s = (.ok v, s')) (hok : v.failed = false)
    (hopen : v.blocked = false) :
    (v.policy.mode = .tlsrf ∨
        ∃ rule, addressRule env host resolveDomain s = some rule ∧ rule.mode ≠ .unknown) ↔
      ∀ rule, addressRule env host resolveDomain s = some rule → rule.mode = .unknown →
        env.defaultPolicy.mode = .unknown ∨ env.defaultPolicy.mode = .tlsrf := by
  have hmerged := genPolicy_merged (.inr (by rw [routeDomain_gfw hgfw]; nofun)) hrun hok
  rw [policiesFor_gfw hname hgfw] at hmerged
  cases hmerged with
  | blocked hb => rw [hb] at hopen; cases hopen
  | planned hb hp =>
    rw [hp, merge_pair_mode]
    cases addressRule env host resolveDomain s with
    | none => exact ⟨fun _ rule h => (nomatch h), fun _ => .inl rfl⟩
    | some rule =>
      rw [Option.getD_some]
      by_cases hset : rule.mode = .unknown
      · rw [if_neg (not_not.mpr hset)]
        constructor
        · rintro (h | ⟨rule', heq, hne⟩) rule'' heq' -
          · by_cases hd : env.defaultPolicy.mode = .unknown
            · exact .inl hd
            · rw [if_pos hd] at h
              exact .inr h
          · cases heq
            exact absurd hset hne
        · intro h
          rcases h rule rfl hset with hd | hd
          · exact .inl (if_neg (not_not.mpr hd))
          · exact .inl (by rw [hd]; rfl)
      · refine ⟨fun _ rule' heq hun => ?_, fun _ => .inr ⟨rule, rfl, hset⟩⟩
        cases heq
        exact absurd hun hset

/-- every name is listed, and every address has the same rule -/
def listedEnv (rule : Option Policy) (defaultPolicy : Policy) : Env Unit :=
  { oneRuleEnv {} defaultPolicy with isGFWDomain := fun _ => true, getIPPolicy := fun _ => rule }

def listedVerdict (dst : Bytes) (ps : List Policy) (matchedIP : Bool) : Verdict :=
  { dstHost := dst, policy := mergePolicies ps, matchedDomain := true, matchedIP := matchedIP }

theorem gfw_fragmented_unruled :
    (mergePolicies [gfwFallbackPolicy, { mode := .raw }]).mode = .tlsrf := by
  have hnone : addressRule (listedEnv none { mode := .raw }) (lit "listed.example") true () = none := by
    decide +kernel
  have hrun : genPolicyWithOptions (listedEnv none { mode := .raw }) (lit "listed.example") true () =
      (.ok (listedVerdict (lit "192.0.2.7") [gfwFallbackPolicy, { mode := .raw }] false), ()) :=
    Prod.ext (by decide +kernel) rfl
  have hunruled : ∀ rule, addressRule (listedEnv none { mode := .raw }) (lit "listed.example") true ()
      ≠ some rule := fun rule heq => by
    rw [hnone] at heq
    cases heq
  rcases (gfw_fragmented_iff (listedEnv none { mode := .raw }) (lit "listed.example") true
    (by decide +kernel) (by decide +kernel) hrun rfl rfl).mpr
    (fun rule heq => absurd heq (hunruled rule)) with h | ⟨rule, heq, -⟩
  · exact h
  · exact absurd heq (hunruled rule)

/-- a rule that only redirects: the mode of the default policy takes over -/
theorem gfw_not_fragmented :
    classifyDomainRoute (listedEnv (some { mapTo := some (lit "192.0.2.8") }) { mode := .raw })
      (lit "listed.example") = .gfw ∧
    addressRule (listedEnv (some { mapTo := some (lit "192.0.2.8") }) { mode := .raw })
      (lit "listed.example") true () = some { mapTo := some (lit "192.0.2.8") } ∧
    (genPolicyWithOptions (listedEnv (some { mapTo := some (lit "192.0.2.8") }) { mode := .raw })
      (lit "listed.example") true ()).1 = .ok (listedVerdict (lit "192.0.2.8")
        [{ mapTo := some (lit "192.0.2.8") }, { mode := .raw }] true) ∧
    (mergePolicies [{ mapTo := some (lit "192.0.2.8") }, { mode := .raw }]).mode = .raw :=
  ⟨by decide +kernel, by decide +kernel, by decide +kernel, by decide +kernel⟩

end Bill
