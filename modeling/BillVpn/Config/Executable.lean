import BillVpn.Config.Settings

/-!
# Which plans can be carried out

The checks of a policy look at one object at a time, so they cannot ask for a field: another policy
may set it.  `mergePolicies` fills in a mode and a DNS mode and nothing else.  What is left unset in
all the policies that match a request reaches the code that carries the plan out: no records, no
segments, or a timeout of `-1`.

* `Executable`                 what the code that sends a hello and the code that dials ask of a policy;
* `matched`                    the policies that match a request, in the order they are merged;
* `Complete`                   that they set, between them, the fields that have no default;
* `loaded_plans_executable`    **a plan can be carried out exactly if the policies are complete**,
                               for every file that loads and every request.
-/

set_option linter.unusedVariables false

namespace Bill
open Go Proc

/-- With mode `tls-rf` there are records and segments to send (`-1` segments stands for sending each
record by itself, which takes two).  The timeout of a dial is not negative; a plan of mode `block`
is never dialed. -/
def Executable (p : Policy) : Prop :=
  (p.mode = .tlsrf → 1 ≤ p.numRecords ∧ (1 ≤ p.numSegments ∨ p.numSegments = -1 ∧ 2 ≤ p.numRecords)) ∧
  (p.mode ≠ .block → 0 ≤ p.connectTimeout)

/-- some policy sets the field -/
def SetIn (unset : Int) (f : Policy → Int) (ps : List Policy) : Prop := ∃ p ∈ ps, f p ≠ unset

/-- the first mode that is set, or the built-in one -/
def modeOf (ps : List Policy) : Mode :=
  if firstSet .unknown (ps.map (·.mode)) = .unknown then Mode.default
  else firstSet .unknown (ps.map (·.mode))

/-- the policies set what has no default; a single record cannot be sent segment by record -/
structure Complete (ps : List Policy) : Prop where
  records : modeOf ps = .tlsrf → SetIn 0 (·.numRecords) ps
  segments : modeOf ps = .tlsrf → SetIn 0 (·.numSegments) ps
  pair : modeOf ps = .tlsrf → firstSet 0 (ps.map (·.numSegments)) = -1 →
    firstSet 0 (ps.map (·.numRecords)) ≠ 1
  timeout : modeOf ps ≠ .block → SetIn unsetInt (·.connectTimeout) ps

/-! ## merging valid policies -/

theorem setIn_iff {unset : Int} {f : Policy → Int} {ps : List Policy} :
    SetIn unset f ps ↔ firstSet unset (ps.map f) ≠ unset := by
  rw [Ne, firstSet_eq_unset]
  simp only [List.mem_map, forall_exists_index, and_imp, forall_apply_eq_imp_iff₂, not_forall]
  constructor
  · rintro ⟨p, hp, h⟩
    exact ⟨p, hp, h⟩
  · rintro ⟨p, hp, h⟩
    exact ⟨p, hp, h⟩

theorem firstSet_of_forall {P : Int → Prop} {unset : Int} {l : List Int} (h0 : P unset)
    (h : ∀ x ∈ l, P x) : P (firstSet unset l) := by
  by_cases he : firstSet unset l = unset
  · rw [he]; exact h0
  · exact h _ (firstSet_mem he)

/-- **The merge of valid policies can be carried out exactly if they are complete.** -/
theorem merge_executable_iff {ps : List Policy} (hps : ∀ p ∈ ps, p.Valid) :
    Executable (mergePolicies ps) ↔ Complete ps := by
  have hmode : (mergePolicies ps).mode = modeOf ps := merge_mode ps
  have each : ∀ {f : Policy → Int} {P : Int → Prop} {unset : Int}, P unset →
      (∀ p : Policy, p.Valid → P (f p)) → P (firstSet unset (ps.map f)) := by
    intro f P unset h0 hf
    apply firstSet_of_forall h0
    intro x hx
    obtain ⟨p, hp, rfl⟩ := List.mem_map.mp hx
    exact hf p (hps p hp)
  have hrec : 0 ≤ firstSet 0 (ps.map (·.numRecords)) :=
    each (P := fun v => 0 ≤ v) (by decide) fun p hp => hp.numRecords
  have hseg : -1 ≤ firstSet 0 (ps.map (·.numSegments)) :=
    each (P := fun v => -1 ≤ v) (by decide) fun p hp => hp.numSegments
  have htime : -1 ≤ firstSet unsetInt (ps.map (·.connectTimeout)) :=
    each (P := fun v => -1 ≤ v) (by decide) fun p hp => hp.connectTimeout
  unfold Executable
  rw [hmode, merge_numRecords, merge_numSegments, merge_connectTimeout]
  constructor
  · rintro ⟨h1, h2⟩
    constructor
    · intro hm
      rw [setIn_iff]
      have := h1 hm
      omega
    · intro hm
      rw [setIn_iff]
      have := h1 hm
      omega
    · intro hm hs
      have := h1 hm
      omega
    · intro hm
      rw [setIn_iff]
      have := h2 hm
      unfold unsetInt at *
      omega
  · intro h
    constructor
    · intro hm
      have h1 := setIn_iff.mp (h.records hm)
      have h2 := setIn_iff.mp (h.segments hm)
      have h3 := h.pair hm
      omega
    · intro hm
      have h4 := setIn_iff.mp (h.timeout hm)
      unfold unsetInt at *
      omega

/-! ## the policies that match -/

section
variable {σ : Type} (env : Env σ)

/-- the address that a domain stands for, if the rules for addresses are asked about it -/
def located (host : Bytes) (resolveDomain : Bool) (s : σ) : Option Bytes :=
  let p := mergePolicies (routeDomain env host).policies
  let target := hostTarget p.host host
  match (locate env resolveDomain target.2 p.dnsMode target.1 s).1 with
  | .ok a => if target.2 || !isIP a then none else some a
  | _ => none

/-- the policies that match a host: its rule or the rule of its address, or both, or a fallback;
and the default -/
def matchedHost (host : Bytes) (resolveDomain : Bool) (s : σ) : List Policy :=
  if isIP host then [(env.getIPPolicy host).getD plainFallbackPolicy, env.defaultPolicy]
  else match (located env host resolveDomain s).bind env.getIPPolicy with
    | some ipPolicy => (routeDomain env host).domainPolicy.toList ++ [ipPolicy, env.defaultPolicy]
    | none => (routeDomain env host).policies

/-- the policies that match a request; a fake address stands for its domain -/
def matched (req : RequestContext) (s : σ) : List Policy :=
  match recoverDomain env req.host s with
  | (.ok domain, s) =>
    matchedHost env (if domain = [] then req.host else domain) (req.domainTargetMode ≠ .preserve) s
  | _ => []

end

section
variable {σ : Type} {env : Env σ}

theorem genIPPolicy_matched {host : Bytes} {resolveDomain : Bool} {s s' : σ} {v : Verdict}
    (hip : isIP host = true) (h : genIPPolicy env host s = (.ok v, s')) (hf : v.failed = false)
    (hb : v.blocked = false) : v.policy = mergePolicies (matchedHost env host resolveDomain s) := by
  obtain ⟨r, s1, hr, h⟩ := run_bind_eq_ok.mp h
  unfold matchedHost
  rw [if_pos hip]
  rcases attempt_eq_ok hr with ⟨⟨dst, ipPolicy⟩, rfl, hred⟩ | ⟨e, rfl, -⟩
  · dsimp only at h
    rw [ipRedirect_rule hred]
    split_ifs at h with hm
    · cases h; cases hb
    · cases h; rfl
  · cases h; cases hf

theorem redirectDomain_matched {r : Route} {dst : Bytes} {s s' : σ} {v : Verdict}
    (h : redirectDomain env r dst s = (.ok v, s')) (hf : v.failed = false) (hb : v.blocked = false) :
    v.policy = mergePolicies (match env.getIPPolicy dst with
      | some ipPolicy => r.domainPolicy.toList ++ [ipPolicy, env.defaultPolicy]
      | none => r.policies) := by
  obtain ⟨x, s1, hr, h⟩ := run_bind_eq_ok.mp h
  rcases attempt_eq_ok hr with ⟨⟨dst', ipPolicy⟩, rfl, hred⟩ | ⟨e, rfl, -⟩
  · rw [ipRedirect_rule hred]
    cases ipPolicy with
    | none => cases h; rfl
    | some p =>
      dsimp only at h ⊢
      split_ifs at h with hm
      · cases h; cases hb
      · cases h; rfl
  · cases h; cases hf

theorem genDomainPolicy_matched {host : Bytes} {resolveDomain : Bool} {s s' : σ} {v : Verdict}
    (hip : isIP host = false) (h : genDomainPolicy env host resolveDomain s = (.ok v, s'))
    (hf : v.failed = false) (hb : v.blocked = false) :
    v.policy = mergePolicies (matchedHost env host resolveDomain s) := by
  unfold genDomainPolicy at h
  dsimp only at h
  split_ifs at h with hblk
  · cases h; cases hb
  obtain ⟨x, s1, hx, h⟩ := run_bind_eq_ok.mp h
  unfold matchedHost located
  rw [if_neg (by simp [hip])]
  dsimp only
  rcases attempt_eq_ok hx with ⟨dst, rfl, hloc⟩ | ⟨e, rfl, -⟩
  · rw [hloc]
    dsimp only at h ⊢
    split_ifs at h ⊢ with hskip
    · cases h; rfl
    · exact redirectDomain_matched h hf hb
  · cases h; cases hf

theorem genPolicy_matched {host : Bytes} {resolveDomain : Bool} {s s' : σ} {v : Verdict}
    (h : genPolicyWithOptions env host resolveDomain s = (.ok v, s')) (hf : v.failed = false)
    (hb : v.blocked = false) : v.policy = mergePolicies (matchedHost env host resolveDomain s) := by
  unfold genPolicyWithOptions at h
  by_cases hip : isIP host = true
  · rw [if_pos hip] at h
    exact genIPPolicy_matched hip h hf hb
  · rw [if_neg hip] at h
    exact genDomainPolicy_matched (by simpa using hip) h hf hb

/-- **The policy of an unblocked plan is the merge of the policies that match.** -/
theorem planRequest_matched {req : RequestContext} {s s' : σ} {plan : DialPlan}
    (h : planRequest env req s = (.ok plan, s')) (hb : plan.blocked = false) :
    plan.policy = mergePolicies (matched env req s) := by
  unfold planRequest at h
  split_ifs at h with h0
  · cases h
  obtain ⟨⟨domain, v⟩, s1, hv, h⟩ := run_bind_eq_ok.mp h
  dsimp only at h
  split_ifs at h with hf
  · cases h
  cases h
  obtain ⟨d, s2, hd, hv⟩ := run_bind_eq_ok.mp hv
  obtain ⟨v', s3, hg, hv⟩ := run_bind_eq_ok.mp hv
  cases hv
  unfold matched
  rw [hd]
  exact genPolicy_matched hg (by simpa using hf) hb

theorem matchedHost_mem {P : Policy → Prop} (hplain : P plainFallbackPolicy)
    (hgfw : P gfwFallbackPolicy) (hdefault : P env.defaultPolicy)
    (hdomain : ∀ d p, env.domainFind d = some p → P p) (hip : ∀ a p, env.getIPPolicy a = some p → P p)
    (host : Bytes) (resolveDomain : Bool) (s : σ) :
    ∀ p ∈ matchedHost env host resolveDomain s, P p := by
  have hroute : (∀ p ∈ (routeDomain env host).policies, P p) ∧
      ∀ p ∈ (routeDomain env host).domainPolicy.toList, P p := by
    rcases routeDomain_cases env host with ⟨d, hd, he⟩ | he | he
    · rw [he]; simp [hdomain host d hd, hdefault]
    · rw [he]; simp [hgfw, hdefault]
    · rw [he]; simp [hplain, hdefault]
  unfold matchedHost
  split_ifs with h
  · cases ha : env.getIPPolicy host with
    | none => simp [hplain, hdefault]
    | some p => simp [hip host p ha, hdefault]
  · cases ha : (located env host resolveDomain s).bind env.getIPPolicy with
    | none => exact hroute.1
    | some p =>
      obtain ⟨a, -, ha⟩ := Option.bind_eq_some_iff.mp ha
      intro q hq
      rcases List.mem_append.mp hq with hq | hq
      · exact hroute.2 q hq
      · rcases List.mem_cons.mp hq with rfl | hq
        · exact hip a _ ha
        · rw [List.mem_singleton.mp hq]; exact hdefault

end

/-! ## files that load -/

theorem plainFallback_valid : plainFallbackPolicy.Valid := ⟨nofun, nofun, by decide, by decide, by decide,
  by decide, by decide, by decide, by decide, by decide, by decide, by decide, by decide⟩

theorem gfwFallback_valid : gfwFallbackPolicy.Valid := ⟨nofun, nofun, by decide, by decide, by decide,
  by decide, by decide, by decide, by decide, by decide, by decide, by decide, by decide⟩

section
variable {κ τ σ : Type} {calls : Callees κ τ} {file : Res Json} {g g' : Globals κ τ}
  {r : Bytes × Bytes}

/-- **Every policy that matches a request is valid**, after a successful load. -/
theorem matched_valid (h : loadConfig calls file g = (.ok r, g')) (rt : Env σ) (req : RequestContext)
    (s : σ) : ∀ p ∈ matched (g'.env calls.std rt) req s, p.Valid := by
  obtain ⟨doc, c, -, hc, hdefault, hdomain, hips⟩ := loadConfig_rules h
  have hvalid := unmarshalConfig_valid hc
  have hfind : ∀ d p, g'.domainFind d = some p → p.Valid := by
    intro d p hp
    unfold Globals.domainFind at hp
    rw [hdomain] at hp
    obtain ⟨key, hk⟩ := buildDomainMatcher_find hp
    exact hvalid.domain key p (GoMap.mem_pairs.mp ((calls.rangePolicies.perm _).mem_iff.mp hk))
  have hip : ∀ a p, g'.getIPPolicy a = some p → p.Valid := by
    intro a p hp
    unfold Globals.getIPPolicy at hp
    rw [hips] at hp
    obtain ⟨key, hk⟩ := buildIPMatchers_find hp
    exact hvalid.ip key p (GoMap.mem_pairs.mp ((calls.rangePolicies.perm _).mem_iff.mp hk))
  have hdef : g'.defaultPolicy.Valid := hdefault ▸ hvalid.default
  unfold matched
  split
  · exact matchedHost_mem plainFallback_valid gfwFallback_valid hdef hfind hip _ _ _
  · exact fun p hp => nomatch hp

/-- **For every file that loads and every request with an unblocked plan, the plan can be carried
out exactly if the policies that match the request are complete.** -/
theorem loaded_plans_executable (h : loadConfig calls file g = (.ok r, g')) (rt : Env σ)
    (req : RequestContext) (s s' : σ) (plan : DialPlan)
    (hplan : planRequest (g'.env calls.std rt) req s = (.ok plan, s')) (hb : plan.blocked = false) :
    Executable plan.policy ↔ Complete (matched (g'.env calls.std rt) req s) := by
  rw [planRequest_matched hplan hb]
  exact merge_executable_iff (matched_valid h rt req s)

end

/-! ## two small files -/

/-- a file with one rule, for `a.example` -/
def ruleFile (rule : List (Bytes × Json)) : Res Json :=
  .ok (.obj [(lit "default_policy", .obj []),
    (lit "domain_policies", .obj [(lit "a.example", .obj rule)])])

/-- a rule with the fields that have no default, and a rule without -/
def fullFile : Res Json := ruleFile [(lit "mode", .str (lit "tls-rf")), (lit "num_records", .num (lit "4")),
  (lit "num_segs", .num (lit "3")), (lit "connect_timeout", .str (lit "5s"))]

def bareFile : Res Json := ruleFile [(lit "mode", .str (lit "tls-rf"))]

def ruleEnv (file : Res Json) : Env Unit := (loadedFrom file).env plainCallees.std (oneRuleEnv {} {})

def ruleRequest : RequestContext := { source := .socks5, host := lit "a.example", port := 443 }

def rulePlan (numRecords numSegments connectTimeout : Int) : DialPlan where
  source := .socks5
  originHost := lit "a.example"
  originPort := 443
  matchedDomain := true
  targetHost := lit "192.0.2.7"
  targetPort := 443
  policy := { mergeInit with
    mode := .tlsrf, dnsMode := .preferIPv4, port := -1, numRecords := numRecords,
    numSegments := numSegments, connectTimeout := connectTimeout }

theorem fullFile_plan_complete :
    Executable (rulePlan 4 3 (5 * 10 ^ 9)).policy ∧ Complete (matched (ruleEnv fullFile) ruleRequest ()) := by
  have hload : loadConfig plainCallees fullFile {} = (.ok ([], []), loadedFrom fullFile) :=
    Prod.ext (by decide +kernel) rfl
  have hplan : planRequest (ruleEnv fullFile) ruleRequest () = (.ok (rulePlan 4 3 (5 * 10 ^ 9)), ()) := by
    decide +kernel
  have hexec : Executable (rulePlan 4 3 (5 * 10 ^ 9)).policy := by unfold Executable; decide
  exact ⟨hexec, (loaded_plans_executable hload (oneRuleEnv {} {}) ruleRequest () () _ hplan rfl).mp hexec⟩

/-- a file that loads, with a plan of mode `tls-rf` that sends no record and dials with a negative
timeout -/
theorem bareFile_plan_not_executable :
    (loadConfig plainCallees bareFile {}).1 = .ok ([], []) ∧
    planRequest (ruleEnv bareFile) ruleRequest () = (.ok (rulePlan 0 0 (-1)), ()) ∧
    (rulePlan 0 0 (-1)).blocked = false ∧ ¬ Executable (rulePlan 0 0 (-1)).policy := by
  refine ⟨by decide +kernel, by decide +kernel, rfl, ?_⟩
  unfold Executable
  decide

end Bill
