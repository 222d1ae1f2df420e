import BillVpn.Tunnel.Relay

/-!
# Two entrances for plain HTTP

A request for `http://host/uri` reaches the proxy in absolute form (`forwardHTTPRequest`), or in a
tunnel to the host (`handleHTTP`).  Both look for an `http_status` to answer with.  The first takes
it from the plan for the host without its port: the domain rule, the rule of the address that is
dialed, the default policy, and no status at all for a host without a rule.  The second takes it from
the rule of the `Host` field as it stands, then from the default policy, then from the rule of the
address in the `host` field of these.

* `HttpDecision`        local answers, or upstream, as seen from a run;
* `lookUp`              what the tables and the pools say about a host, without its policy;
* `forwardAsks`, `tunnelAsks`   the status that the rules of either entrance ask for;
* `http_paths_iff`      **the two decide alike exactly if these are the same, and a final status other
                        than a redirection, or none**;
* `http_paths_differ`   a port in the `Host` field, and a redirection to the requested URL.
-/

set_option linter.unusedVariables false

namespace Bill
open Go Res Proc Conn

/-! ## decisions -/

inductive HttpDecision where
  /-- what the client gets, in order -/
  | answer (replies : List Reply)
  | upstream
  | nothing
deriving DecidableEq, Repr

/-- both give the same answers, none of them with the requested URL as its `Location`; or both go
upstream -/
def HttpDecision.Agree (url : Bytes) : HttpDecision → HttpDecision → Prop
  | .answer replies, .answer replies' =>
    replies = replies' ∧ ∀ status, .http status (some url) ∉ replies
  | .upstream, .upstream => True
  | _, _ => False

/-- in absolute form the host is that of the URL -/
def proxyRequest (host uri : Bytes) : HttpRequest :=
  { host := host, urlHost := host, scheme := lit "http", requestURI := uri }

/-- in a tunnel the URL is the path alone -/
def tunnelRequest (host uri : Bytes) : HttpRequest := { host := host, requestURI := uri }

section
variable {σ : Type}

def forwardDecision (x : Res Unit × World σ) : HttpDecision :=
  match x.2.contacts, x.2.replies with
  | _ :: _, _ => .upstream
  | [], [] => .nothing
  | [], r :: rs => .answer (r :: rs)

def tunnelDecision (x : Res (Option Bool) × Session σ) : HttpDecision :=
  match x.2.answers, x.1 with
  | r :: rs, _ => .answer (r :: rs)
  | [], .ok (some _) => .upstream
  | [], _ => .nothing

/-! ## what the rules ask for -/

/-- the first status that is set, if that is not `0` -/
def askedStatus (rules : List Policy) : Option Int :=
  let status := firstSet unsetInt (rules.map (·.httpStatus))
  if status ≠ 0 ∧ status ≠ -1 then some status else none

/-- the host that is planned for, the address whose rule counts, and the host that is dialed -/
structure Found where
  host : Bytes
  addr : Option Bytes
  dst : Bytes
deriving DecidableEq, Repr

variable (env : Env σ)

def findAddr (host addr : Bytes) : Proc σ Found := do
  let r ← ipRedirect env.toRedirects true addr
  pure ⟨host, some addr, r.1⟩

/-- nothing is looked up for a rule that blocks -/
def findDomain (host : Bytes) : Proc σ Found :=
  if (routeDomain env host).domainPolicy.map (·.mode) = some .block then pure ⟨host, none, []⟩
  else do
    let target := hostTarget (mergePolicies (routeDomain env host).policies).host host
    let dst ← poolTarget env target.1
    if target.2 || !isIP dst then pure ⟨host, none, dst⟩ else findAddr env host dst

def findHost (host : Bytes) : Proc σ Found :=
  if isIP host then findAddr env host host else findDomain env host

/-- the domain behind a fake address, and then the address behind the host -/
def lookUp (originHost : Bytes) : Proc σ Found :=
  if originHost = [] then fail "request host is empty"
  else do
    let domain ← recoverDomain env originHost
    findHost env (if domain = [] then originHost else domain)

/-- the rules in their order: domain, address, default -/
def Found.rules (f : Found) : List Policy :=
  if isIP f.host then [(f.addr.bind env.getIPPolicy).getD plainFallbackPolicy, env.defaultPolicy]
  else match f.addr.bind env.getIPPolicy with
    | some rule => (routeDomain env f.host).domainPolicy.toList ++ [rule, env.defaultPolicy]
    | none => (routeDomain env f.host).policies

/-- flagged: by the domain rule itself, or by the rules of an address -/
def Found.Blocked (f : Found) : Prop :=
  if isIP f.host then (mergePolicies (f.rules env)).mode = .block
  else (routeDomain env f.host).domainPolicy.map (·.mode) = some .block ∨
    (f.addr.bind env.getIPPolicy).isSome ∧ (mergePolicies (f.rules env)).mode = .block

instance (f : Found) : Decidable (f.Blocked env) := by unfold Found.Blocked; infer_instance

/-- `none` is upstream; without a host to dial there must be a port -/
def Found.asks (port : Int) (f : Found) : Option Int :=
  if f.Blocked env then (if 0 < port then none else some 502)
  else match askedStatus (f.rules env) with
    | some status => some status
    | none =>
      if (mergePolicies (f.rules env)).mode = .block then some 403
      else if f.dst = [] ∧ port ≤ 0 ∧ (mergePolicies (f.rules env)).port ≤ 0 then some 502
      else none

/-- the host without its port, and the port -/
def entrance (host : Bytes) : Option (Bytes × Int) :=
  if host = [] then none
  else match splitHostPort host with
    | some (originHost, port) => (atoi port).map fun n => (originHost, n)
    | none => some (host, 80)

/-- the local status of the forward proxy, if a decision is made -/
def forwardAsks (s : σ) (host : Bytes) : Option (Option Int) :=
  match entrance host with
  | none => some (some 400)
  | some (originHost, port) =>
    match (lookUp env originHost s).1 with
    | .ok f => some (f.asks env port)
    | .err _ => some (some 500)
    | .panic => none

/-- the rule of the `Host` field, port and all, and the default policy -/
def tunnelBase (host : Bytes) : Policy :=
  match env.domainFind host with
  | some d => mergePolicies [d, env.defaultPolicy]
  | none => env.defaultPolicy

/-- the `host` field of these, if it stands for an address -/
def tunnelAddr (host : Bytes) : Option Bytes :=
  match (tunnelBase env host).host with
  | none => none
  | some [] => none
  | some (c :: cs) => if c = caret then none else some (c :: cs)

/-- domain, default, and then the rule of the address -/
def tunnelRules (host : Bytes) : List Policy :=
  (env.domainFind host).toList ++ env.defaultPolicy ::
    match (tunnelAddr env host).bind env.getIPPolicy with
    | some rule => [rule, env.defaultPolicy]
    | none => []

def tunnelAsks (s : σ) (host : Bytes) : Option (Option Int) :=
  match tunnelAddr env host with
  | none => some (askedStatus (tunnelRules env host))
  | some addr =>
    match (ipRedirect env.toRedirects true addr s).1 with
    | .ok _ => some (askedStatus (tunnelRules env host))
    | .err _ => none
    | .panic => none

/-- a status that `WriteHeader` writes as the one answer, without a `Location` -/
def PlainStatus (status : Int) : Prop :=
  (status = 101 ∨ 200 ≤ status ∧ status ≤ 999) ∧ status ≠ 301 ∧ status ≠ 302

/-- the two ask for the same -/
def EntrancesAgree (s : σ) (host originHost : Bytes) : Prop :=
  ∃ asked, forwardAsks env s host = some asked ∧
    tunnelAsks env s (if host ≠ [] then host else originHost) = some asked ∧
      ∀ status, asked = some status → PlainStatus status

/-! ## the plan, from what was found -/

variable {env} {s : σ} {host : Bytes}

/-- policy and host, as the planner returns them -/
def Found.Gives (env : Env σ) (f : Found) (policy : Policy) (dstHost : Bytes) : Prop :=
  if f.Blocked env then policy = {} ∧ dstHost = []
  else policy = mergePolicies (f.rules env) ∧ dstHost = f.dst

theorem Found.gives_blocked {f : Found} (h : f.Blocked env) : f.Gives env {} [] := by
  unfold Found.Gives
  rw [if_pos h]
  exact ⟨rfl, rfl⟩

theorem Found.gives_merged {f : Found} (h : ¬ f.Blocked env) :
    f.Gives env (mergePolicies (f.rules env)) f.dst := by
  unfold Found.Gives
  rw [if_neg h]
  exact ⟨rfl, rfl⟩

theorem Found.blocked_ip (env : Env σ) {f : Found} (hip : isIP f.host = true) :
    f.Blocked env ↔ (mergePolicies (f.rules env)).mode = .block := by
  unfold Found.Blocked
  rw [if_pos hip]

theorem Found.blocked_domain (env : Env σ) {f : Found} (hip : ¬ isIP f.host = true) :
    f.Blocked env ↔ (routeDomain env f.host).domainPolicy.map (·.mode) = some .block ∨
      (f.addr.bind env.getIPPolicy).isSome ∧ (mergePolicies (f.rules env)).mode = .block := by
  unfold Found.Blocked
  rw [if_neg hip]

/-- `genPolicyWithOptions` fails where a look-up does, and otherwise merges the rules -/
inductive Mirrors (env : Env σ) : Res Found → Res Verdict → Prop where
  | found {f : Found} {v : Verdict} (h : f.Gives env v.policy v.dstHost) (hf : v.failed = false) :
      Mirrors env (.ok f) (.ok v)
  | failed {v : Verdict} (e : String) (h : v.failed = true) : Mirrors env (.err e) (.ok v)
  | panic : Mirrors env .panic .panic

theorem genIPPolicy_mirrors (hip : isIP host = true) :
    Mirrors env (findAddr env host host s).1 (genIPPolicy env host s).1 := by
  unfold findAddr genIPPolicy
  rcases hr : ipRedirect env.toRedirects true host s with ⟨r, s'⟩
  cases r with
  | panic =>
    rw [run_bind_panic hr, run_bind_panic (attempt_panic hr)]
    exact .panic
  | err e =>
    rw [run_bind_err hr, run_bind_ok (attempt_err hr)]
    exact .failed e rfl
  | ok r =>
    obtain ⟨dst, rule⟩ := r
    rw [run_bind_ok hr, run_bind_ok (attempt_ok hr)]
    have hrules : (⟨host, some host, dst⟩ : Found).rules env =
        [rule.getD plainFallbackPolicy, env.defaultPolicy] := by
      unfold Found.rules
      rw [if_pos hip, Option.bind_some, ipRedirect_rule hr]
    have hblocked := Found.blocked_ip env (f := ⟨host, some host, dst⟩) hip
    rw [hrules] at hblocked
    dsimp only
    by_cases hb : (mergePolicies [rule.getD plainFallbackPolicy, env.defaultPolicy]).mode = .block
    · rw [if_pos hb]
      exact .found (Found.gives_blocked (hblocked.mpr hb)) rfl
    · rw [if_neg hb, ← hrules]
      exact .found (Found.gives_merged fun h => hb (hblocked.mp h)) rfl

theorem redirectDomain_mirrors (hip : ¬ isIP host = true)
    (hblk : (routeDomain env host).domainPolicy.map (·.mode) ≠ some .block) (addr : Bytes) :
    Mirrors env (findAddr env host addr s).1
      (redirectDomain env (routeDomain env host) addr s).1 := by
  unfold findAddr redirectDomain
  rcases hr : ipRedirect env.toRedirects true addr s with ⟨r, s'⟩
  cases r with
  | panic =>
    rw [run_bind_panic hr, run_bind_panic (attempt_panic hr)]
    exact .panic
  | err e =>
    rw [run_bind_err hr, run_bind_ok (attempt_err hr)]
    exact .failed e rfl
  | ok r =>
    obtain ⟨dst, rule⟩ := r
    have hrule := ipRedirect_rule hr
    have hblocked := Found.blocked_domain env (f := ⟨host, some addr, dst⟩) hip
    rw [run_bind_ok hr, run_bind_ok (attempt_ok hr)]
    cases rule with
    | none =>
      have hrules : (⟨host, some addr, dst⟩ : Found).rules env = (routeDomain env host).policies := by
        unfold Found.rules
        rw [if_neg hip, Option.bind_some, hrule]
      rw [Option.bind_some, hrule] at hblocked
      dsimp only
      rw [← hrules]
      exact .found (Found.gives_merged fun h => (hblocked.mp h).elim hblk fun h => nomatch h.1) rfl
    | some rule =>
      have hrules : (⟨host, some addr, dst⟩ : Found).rules env =
          (routeDomain env host).domainPolicy.toList ++ [rule, env.defaultPolicy] := by
        unfold Found.rules
        rw [if_neg hip, Option.bind_some, hrule]
      rw [Option.bind_some, hrule] at hblocked
      dsimp only
      rw [← hrules]
      by_cases hb : (mergePolicies ((⟨host, some addr, dst⟩ : Found).rules env)).mode = .block
      · rw [if_pos hb]
        exact .found (Found.gives_blocked (hblocked.mpr (.inr ⟨rfl, hb⟩))) rfl
      · rw [if_neg hb]
        exact .found (Found.gives_merged fun h => (hblocked.mp h).elim hblk fun h => hb h.2) rfl

/-- the forward proxy does not resolve names -/
theorem locate_preserve (skip : Bool) (m : DNSMode) (dst : Bytes) :
    locate env false skip m dst s = poolTarget env dst s := by
  unfold locate
  rw [run_bind]
  rcases poolTarget env dst s with ⟨r, s'⟩
  cases r with
  | panic => rfl
  | err e => rfl
  | ok dst =>
    dsimp only
    rw [Bool.and_false, Bool.false_and, if_neg Bool.false_ne_true]
    rfl

theorem genDomainPolicy_mirrors (hip : ¬ isIP host = true) :
    Mirrors env (findDomain env host s).1 (genDomainPolicy env host false s).1 := by
  unfold findDomain genDomainPolicy
  dsimp only
  by_cases hblk : (routeDomain env host).domainPolicy.map (·.mode) = some .block
  · rw [if_pos hblk, if_pos hblk]
    have hblocked := Found.blocked_domain env (f := ⟨host, none, []⟩) hip
    exact .found (Found.gives_blocked (hblocked.mpr (.inl hblk))) rfl
  rw [if_neg hblk, if_neg hblk]
  generalize htarget : hostTarget (mergePolicies (routeDomain env host).policies).host host = target
  rcases hp : poolTarget env target.1 s with ⟨r, s'⟩
  have hloc := (locate_preserve target.2 (mergePolicies (routeDomain env host).policies).dnsMode
    target.1).trans hp
  cases r with
  | panic =>
    rw [run_bind_panic hp, run_bind_panic (attempt_panic hloc)]
    exact .panic
  | err e =>
    rw [run_bind_err hp, run_bind_ok (attempt_err hloc)]
    exact .failed e rfl
  | ok dst =>
    rw [run_bind_ok hp, run_bind_ok (attempt_ok hloc)]
    dsimp only
    by_cases hskip : (target.2 || !isIP dst) = true
    · rw [if_pos hskip, if_pos hskip]
      have hblocked := Found.blocked_domain env (f := ⟨host, none, dst⟩) hip
      have hrules : (⟨host, none, dst⟩ : Found).rules env = (routeDomain env host).policies := by
        unfold Found.rules
        rw [if_neg hip]
        rfl
      rw [← hrules]
      exact .found (Found.gives_merged fun h => (hblocked.mp h).elim hblk fun h => nomatch h.1) rfl
    · rw [if_neg hskip, if_neg hskip]
      exact redirectDomain_mirrors hip hblk dst

theorem genPolicy_mirrors (env : Env σ) (host : Bytes) (s : σ) :
    Mirrors env (findHost env host s).1 (genPolicyWithOptions env host false s).1 := by
  unfold findHost genPolicyWithOptions
  by_cases hip : isIP host = true
  · rw [if_pos hip, if_pos hip]
    exact genIPPolicy_mirrors hip
  · rw [if_neg hip, if_neg hip]
    exact genDomainPolicy_mirrors hip

/-- the plan of the forward proxy -/
inductive PlanMirrors (env : Env σ) (port : Int) : Res Found → Res DialPlan → Prop where
  | found {f : Found} {plan : DialPlan} (h : f.Gives env plan.policy plan.targetHost)
      (hport : plan.targetPort = if 0 < plan.policy.port then plan.policy.port else port) :
      PlanMirrors env port (.ok f) (.ok plan)
  | failed (e e' : String) : PlanMirrors env port (.err e) (.err e')
  | panic : PlanMirrors env port .panic .panic

theorem planRequest_mirrors (env : Env σ) (originHost : Bytes) (port : Int) (s : σ) :
    PlanMirrors env port (lookUp env originHost s).1
      (planRequest env (forwardContext originHost port) s).1 := by
  unfold lookUp planRequest
  by_cases hnil : originHost = []
  · rw [if_pos hnil, if_pos (show (forwardContext originHost port).host = [] from hnil)]
    exact .failed _ _
  rw [if_neg hnil, if_neg (show ¬ (forwardContext originHost port).host = [] from hnil)]
  rcases hr : recoverDomain env originHost s with ⟨r, s1⟩
  cases r with
  | panic =>
    have hv : planVerdict env (forwardContext originHost port) s = (.panic, s1) := run_bind_panic hr
    rw [run_bind_panic hr, run_bind_panic hv]
    exact .panic
  | err e =>
    have hv : planVerdict env (forwardContext originHost port) s = (.err e, s1) := run_bind_err hr
    rw [run_bind_err hr, run_bind_err hv]
    exact .failed e e
  | ok domain =>
    have hm := genPolicy_mirrors env (if domain = [] then originHost else domain) s1
    have hv : planVerdict env (forwardContext originHost port) s =
        (genPolicyWithOptions env (if domain = [] then originHost else domain) false >>= fun v =>
          pure (domain, v)) s1 := run_bind_ok hr
    rw [run_bind_ok hr]
    rcases hg : genPolicyWithOptions env (if domain = [] then originHost else domain) false s1 with
      ⟨rv, s2⟩
    rw [hg] at hm
    dsimp only at hm
    generalize (findHost env (if domain = [] then originHost else domain) s1).1 = rf at hm
    cases hm with
    | panic =>
      rw [run_bind_panic hg] at hv
      rw [run_bind_panic hv]
      exact .panic
    | failed e hfail =>
      rw [run_bind_ok hg] at hv
      rw [run_bind_ok hv]
      dsimp only
      rw [if_pos hfail]
      exact .failed _ _
    | found hgives hfail =>
      rw [run_bind_ok hg] at hv
      rw [run_bind_ok hv]
      dsimp only
      rw [if_neg (by rw [hfail]; exact Bool.false_ne_true)]
      exact .found hgives rfl

/-! ## the forward proxy -/

def statusAnswer (location : Bytes) (status : Int) : Reply :=
  .http status (if status = 301 ∨ status = 302 then some location else none)

/-- a status that is asked for, written as it is -/
def answered (location : Bytes) : Option (Option Int) → HttpDecision
  | none => .nothing
  | some none => .upstream
  | some (some status) => .answer [statusAnswer location status]

/-- a status, written by `WriteHeader` -/
def headerDecision (location : Bytes) (status : Int) : HttpDecision :=
  if status < 100 ∨ 999 < status then .nothing
  else if status < 200 ∧ status ≠ 101 then .answer [statusAnswer location status, .http 200 none]
  else .answer [statusAnswer location status]

def headed (location : Bytes) : Option (Option Int) → HttpDecision
  | none => .nothing
  | some none => .upstream
  | some (some status) => headerDecision location status

theorem targetAddress_eq_nil {plan : DialPlan} :
    plan.targetAddress = [] ↔ plan.targetPort ≤ 0 ∧ plan.targetHost = [] := by
  unfold DialPlan.targetAddress joinHostPort
  split_ifs with hport hcolon
  · exact ⟨fun h => ⟨hport, h⟩, fun h => h.2⟩
  · exact ⟨fun h => by simp at h, fun h => absurd h.1 hport⟩
  · exact ⟨fun h => by simp at h, fun h => absurd h.1 hport⟩

theorem roundTrip_decides (addr : Bytes) (s : σ) :
    forwardDecision (roundTrip (lit "http") addr ({ routing := s } : World σ)) =
      if addr = [] then .answer [.http 502 none] else .upstream := by
  unfold roundTrip
  by_cases haddr : addr = []
  · rw [if_pos haddr, if_neg fun h => h.2 haddr]
    rfl
  · rw [if_neg haddr, if_pos ⟨by decide, haddr⟩]
    rfl

theorem statusReply_eq (host uri : Bytes) (status : Int) :
    statusReply (proxyRequest host uri) host status =
      statusAnswer (lit "http://" ++ host ++ uri) status := by
  unfold statusReply statusAnswer
  by_cases h : status = 301 ∨ status = 302
  · rw [if_pos h, if_pos h]
    dsimp only
    rw [if_neg (show ¬ (proxyRequest host uri).scheme = [] from fun h => nomatch h)]
    rfl
  · rw [if_neg h, if_neg h]

theorem writeHeader_decides (location : Bytes) (status : Int) (s : σ) :
    forwardDecision (writeHeader status (statusAnswer location status) ({ routing := s } : World σ)) =
      headerDecision location status := by
  unfold writeHeader headerDecision
  split_ifs
  · rfl
  · rfl
  · rfl

theorem forwardDial_decides {f : Found} {plan : DialPlan} {port : Int} (uri : Bytes)
    (h : f.Gives env plan.policy plan.targetHost)
    (hport : plan.targetPort = if 0 < plan.policy.port then plan.policy.port else port) :
    forwardDecision (forwardDial (proxyRequest host uri) host plan ({ routing := s } : World σ)) =
      headed (lit "http://" ++ host ++ uri) (some (f.asks env port)) := by
  unfold forwardDial Found.asks
  unfold Found.Gives at h
  by_cases hb : f.Blocked env
  · -- the policy is zeroed, and the request goes to the port of no host
    rw [if_pos hb] at h ⊢
    obtain ⟨hp, hdst⟩ := h
    rw [hp] at hport
    rw [hp, if_neg (fun h => h.1 rfl), if_neg (fun h => nomatch h)]
    refine (roundTrip_decides _ s).trans ?_
    rw [if_neg (by decide)] at hport
    by_cases h0 : 0 < port
    · rw [if_pos h0, if_neg (fun h => by have := (targetAddress_eq_nil.mp h).1; omega)]
      rfl
    · rw [if_neg h0, if_pos (targetAddress_eq_nil.mpr ⟨by omega, hdst⟩)]
      rfl
  · rw [if_neg hb] at h ⊢
    obtain ⟨hp, hdst⟩ := h
    rw [hp] at hport ⊢
    have hstatus := merge_httpStatus (f.rules env)
    unfold askedStatus
    dsimp only
    rw [← hstatus]
    by_cases hset : (mergePolicies (f.rules env)).httpStatus ≠ 0 ∧
        (mergePolicies (f.rules env)).httpStatus ≠ -1
    · rw [if_pos hset, if_pos hset]
      rw [statusReply_eq]
      exact writeHeader_decides _ _ s
    rw [if_neg hset, if_neg hset]
    dsimp only
    by_cases hm : (mergePolicies (f.rules env)).mode = .block
    · rw [if_pos hm, if_pos hm]
      rfl
    rw [if_neg hm, if_neg hm]
    refine (roundTrip_decides _ s).trans ?_
    have hiff : plan.targetAddress = [] ↔
        f.dst = [] ∧ port ≤ 0 ∧ (mergePolicies (f.rules env)).port ≤ 0 := by
      rw [targetAddress_eq_nil, hport, hdst]
      split_ifs with h0
      · exact ⟨fun h => absurd h.1 (by omega), fun h => absurd h.2.2 (by omega)⟩
      · exact ⟨fun h => ⟨h.2, h.1, by omega⟩, fun h => ⟨h.2.1, h.1⟩⟩
    by_cases haddr : plan.targetAddress = []
    · rw [if_pos haddr, if_pos (hiff.mp haddr)]
      rfl
    · rw [if_neg haddr, if_neg fun h => haddr (hiff.mpr h)]
      rfl

theorem forwardTarget_proxy (host uri : Bytes) :
    forwardTarget (proxyRequest host uri) = if host = [] then none else match splitHostPort host with
      | some (originHost, port) => some (host, originHost, port)
      | none => some (host, host, lit "80") := by
  unfold forwardTarget
  have hhost : (if (proxyRequest host uri).host = [] then (proxyRequest host uri).urlHost
      else (proxyRequest host uri).host) = host := ite_self host
  rw [hhost]
  rfl

theorem forward_planned (env : Env σ) (host uri originHost : Bytes) (port : Int) (s : σ) :
    forwardDecision ((attempt (onRouting (planRequest env (forwardContext originHost port))) >>= fun r =>
        match r with
        | .error _ => reply (.http 500 none)
        | .ok plan => forwardDial (proxyRequest host uri) host plan) ({ routing := s } : World σ)) =
      headed (lit "http://" ++ host ++ uri) (match (lookUp env originHost s).1 with
        | .ok f => some (f.asks env port)
        | .err _ => some (some 500)
        | .panic => none) := by
  have hm := planRequest_mirrors env originHost port s
  rcases hp : planRequest env (forwardContext originHost port) s with ⟨r, s1⟩
  have hrun : onRouting (planRequest env (forwardContext originHost port)) ({ routing := s } : World σ) =
      (r, { routing := s1 }) := zoom_eq hp
  rw [hp] at hm
  dsimp only at hm
  generalize (lookUp env originHost s).1 = found at hm ⊢
  cases hm with
  | panic =>
    rw [run_bind_panic (attempt_panic hrun)]
    rfl
  | failed e e' =>
    rw [run_bind_ok (attempt_err hrun)]
    rfl
  | found hgives hport =>
    rw [run_bind_ok (attempt_ok hrun)]
    exact forwardDial_decides uri hgives hport

theorem forward_decides (env : Env σ) (host uri : Bytes) (s : σ) :
    forwardDecision (forwardHTTPRequest env (proxyRequest host uri) { routing := s }) =
      headed (lit "http://" ++ host ++ uri) (forwardAsks env s host) := by
  unfold forwardHTTPRequest forwardAsks entrance
  rw [forwardTarget_proxy]
  by_cases hnil : host = []
  · rw [if_pos hnil, if_pos hnil]
    rfl
  rw [if_neg hnil, if_neg hnil]
  cases splitHostPort host with
  | none => exact forward_planned env host uri host 80 s
  | some t =>
    obtain ⟨originHost, port⟩ := t
    dsimp only
    cases atoi port with
    | none => rfl
    | some n => exact forward_planned env host uri originHost n s

/-! ## the tunnel -/

theorem tunnelBase_status (env : Env σ) (host : Bytes) : (tunnelBase env host).httpStatus =
    firstSet unsetInt (((env.domainFind host).toList ++ [env.defaultPolicy]).map (·.httpStatus)) := by
  unfold tunnelBase
  cases env.domainFind host with
  | none => exact (firstSet_singleton _ _).symm
  | some d => exact merge_httpStatus _

/-- a status as `handleHTTP` reads it -/
def statusOf (p : Policy) : Option Int :=
  if p.httpStatus = 0 ∨ p.httpStatus = -1 then none else some p.httpStatus

theorem statusOf_eq {p : Policy} {rules : List Policy}
    (h : p.httpStatus = firstSet unsetInt (rules.map (·.httpStatus))) : statusOf p = askedStatus rules := by
  unfold statusOf askedStatus
  dsimp only
  rw [← h]
  by_cases h0 : p.httpStatus = 0 ∨ p.httpStatus = -1
  · rw [if_pos h0, if_neg fun hn => h0.elim hn.1 hn.2]
  · rw [if_neg h0, if_pos (not_or.mp h0)]

/-- the rest of `httpPolicy`, once the address is known -/
def addrPolicy (env : Env σ) (base : Policy) : Option Bytes → Proc σ Policy
  | none => pure base
  | some addr => ipRedirect env.toRedirects true addr >>= fun r =>
    match r.2 with
    | some rule => pure (mergePolicies [base, rule, env.defaultPolicy])
    | none => pure base

theorem httpPolicy_eq (env : Env σ) (host : Bytes) :
    httpPolicy env host = addrPolicy env (tunnelBase env host) (tunnelAddr env host) := by
  have hrun : httpPolicy env host = match (tunnelBase env host).host with
    | none => pure (tunnelBase env host)
    | some [] => pure (tunnelBase env host)
    | some (c :: cs) =>
      if c = caret then pure (tunnelBase env host)
      else addrPolicy env (tunnelBase env host) (some (c :: cs)) := rfl
  rw [hrun]
  unfold tunnelAddr
  cases (tunnelBase env host).host with
  | none => rfl
  | some text =>
    cases text with
    | nil => rfl
    | cons c cs =>
      dsimp only
      split_ifs
      · rfl
      · rfl

/-- the base alone decides if the address has no rule -/
theorem tunnelBase_asks {env : Env σ} {host : Bytes}
    (h : (tunnelAddr env host).bind env.getIPPolicy = none) :
    statusOf (tunnelBase env host) = askedStatus (tunnelRules env host) := by
  apply statusOf_eq
  unfold tunnelRules
  rw [h]
  exact tunnelBase_status env host

theorem tunnelRule_asks {env : Env σ} {host : Bytes} {rule : Policy}
    (h : (tunnelAddr env host).bind env.getIPPolicy = some rule) :
    statusOf (mergePolicies [tunnelBase env host, rule, env.defaultPolicy]) =
      askedStatus (tunnelRules env host) := by
  apply statusOf_eq
  unfold tunnelRules
  rw [h, merge_httpStatus, List.map_cons, tunnelBase_status, firstSet_firstSet_cons,
    ← List.map_append, List.append_assoc]
  rfl

theorem httpPolicy_asks (env : Env σ) (host : Bytes) (s : σ) :
    ∃ r s', httpPolicy env host s = (r, s') ∧ tunnelAsks env s host = match r with
      | .ok p => some (statusOf p)
      | .err _ => none
      | .panic => none := by
  rw [httpPolicy_eq]
  unfold tunnelAsks
  cases haddr : tunnelAddr env host with
  | none => exact ⟨_, _, rfl, congrArg some (tunnelBase_asks (by rw [haddr]; rfl)).symm⟩
  | some addr =>
    unfold addrPolicy
    dsimp only
    rcases hr : ipRedirect env.toRedirects true addr s with ⟨r, s1⟩
    cases r with
    | panic => exact ⟨_, _, run_bind_panic hr, rfl⟩
    | err e => exact ⟨_, _, run_bind_err hr, rfl⟩
    | ok r =>
      obtain ⟨dst, rule⟩ := r
      have hrule : (tunnelAddr env host).bind env.getIPPolicy = rule := by
        rw [haddr]
        exact ipRedirect_rule hr
      rw [run_bind_ok hr]
      cases rule with
      | none => exact ⟨_, _, rfl, congrArg some (tunnelBase_asks hrule).symm⟩
      | some rule => exact ⟨_, _, rfl, congrArg some (tunnelRule_asks hrule).symm⟩

theorem tunnelStatus_decides (req : HttpRequest) (host : Bytes) (status : Int) (s : Session σ)
    (h : s.answers = []) :
    tunnelDecision ((answer (tunnelStatus req host status) >>= fun _ => pure none) s) =
      answered (lit "https://" ++ host ++ req.requestURI) (some (some status)) := by
  have hrun : (answer (tunnelStatus req host status) >>= fun _ =>
      (pure none : Proc (Session σ) (Option Bool))) s =
      (.ok none, { s with answers := s.answers ++ [tunnelStatus req host status] }) := rfl
  rw [hrun, h]
  unfold tunnelStatus answered statusAnswer
  dsimp only
  by_cases hred : status = 301 ∨ status = 302
  · rw [if_pos hred, if_pos hred]
    rfl
  · rw [if_neg hred, if_neg hred]
    rfl

theorem tunnel_decides (env : Env σ) (lib : HttpLib) (req : HttpRequest) (replyFirst : Bool)
    (originHost target : Bytes) (s : σ) (r : Reader) {w : Bytes × Nat}
    (hw : lib.writeRequest req r.rest = .ok w) :
    tunnelDecision (handleHTTP env lib req replyFirst originHost target (!replyFirst)
        ⟨s, r, {}, [], false⟩) =
      answered (lit "https://" ++ requestHost req originHost ++ req.requestURI)
        (tunnelAsks env s (requestHost req originHost)) := by
  obtain ⟨rp, s1, hp, hasks⟩ := httpPolicy_asks env (requestHost req originHost) s
  have hrun : onRouter (httpPolicy env (requestHost req originHost))
      (⟨s, r, {}, [], false⟩ : Session σ) = (rp, ⟨s1, r, {}, [], false⟩) := zoom_eq hp
  unfold handleHTTP
  rw [hasks]
  cases rp with
  | panic =>
    rw [run_bind_panic (attempt_panic hrun)]
    rfl
  | err e =>
    rw [run_bind_ok (attempt_err hrun)]
    rfl
  | ok p =>
    rw [run_bind_ok (attempt_ok hrun)]
    unfold statusOf
    dsimp only
    by_cases h0 : p.httpStatus = 0 ∨ p.httpStatus = -1
    · rw [if_pos h0, if_pos h0]
      obtain ⟨t1, hdial⟩ : ∃ t1 : Tunnel, dialLate p replyFirst target {} = (.ok (), t1) ∧
          t1.dst = {} := by
        cases replyFirst with
        | true => exact ⟨_, rfl, rfl⟩
        | false => exact ⟨_, rfl, rfl⟩
      have hd : onTunnel (dialLate p replyFirst target) (⟨s1, r, {}, [], false⟩ : Session σ) =
          (.ok (), ⟨s1, r, t1, [], false⟩) := zoom_eq hdial.1
      have hf : ∃ s2, forwardRequest lib req (⟨s1, r, t1, [], false⟩ : Session σ) = (.ok (), s2) ∧
          s2.answers = [] := by
        unfold forwardRequest
        rw [run_bind_ok (run_get _)]
        dsimp only
        rw [hw]
        have hsend : onTunnel (onDst (send (.data w.1))) (⟨s1, r, t1, [], false⟩ : Session σ) =
            (.ok (), ⟨s1, r, { t1 with dst := t1.dst.pushAll [.data w.1] }, [], false⟩) :=
          zoom_eq (zoom_eq (Sends.send _ t1.dst (by rw [hdial.2]; exact fun _ => rfl)))
        dsimp only
        rw [run_bind_ok hsend]
        exact ⟨_, rfl, rfl⟩
      obtain ⟨s2, hrun2, hnone⟩ := hf
      rw [run_bind_ok (attempt_ok hd)]
      dsimp only
      rw [run_bind_ok (attempt_ok hrun2)]
      show tunnelDecision (.ok (some _), s2) = .upstream
      unfold tunnelDecision
      rw [hnone]
    · rw [if_neg h0, if_neg h0]
      exact tunnelStatus_decides req _ _ _ rfl

/-! ## when the two agree -/

theorem agree_status_iff (url url' : Bytes) (status status' : Int) :
    HttpDecision.Agree url (headerDecision url status) (.answer [statusAnswer url' status']) ↔
      status = status' ∧ PlainStatus status := by
  unfold headerDecision PlainStatus
  by_cases hdigits : status < 100 ∨ 999 < status
  · rw [if_pos hdigits]
    exact ⟨fun h => h.elim, fun ⟨_, h, _⟩ => by omega⟩
  rw [if_neg hdigits]
  by_cases hinfo : status < 200 ∧ status ≠ 101
  · rw [if_pos hinfo]
    exact ⟨fun h => (nomatch (List.cons.inj h.1).2), fun ⟨_, h, _⟩ => by omega⟩
  rw [if_neg hinfo]
  constructor
  · rintro ⟨heq, hurl⟩
    have hst : status = status' := (Reply.http.inj (List.cons.inj heq).1).1
    have hno : ¬ (status = 301 ∨ status = 302) := fun hred => hurl status (by
      unfold statusAnswer
      rw [if_pos hred]
      exact List.mem_singleton_self _)
    exact ⟨hst, by omega, fun h => hno (.inl h), fun h => hno (.inr h)⟩
  · rintro ⟨rfl, -, h1, h2⟩
    unfold HttpDecision.Agree statusAnswer
    dsimp only
    rw [if_neg (not_or.mpr ⟨h1, h2⟩), if_neg (not_or.mpr ⟨h1, h2⟩)]
    exact ⟨rfl, fun st h => by simp at h⟩

theorem not_agree_header (url : Bytes) (status : Int) {d : HttpDecision} (hd : ∀ rs, d ≠ .answer rs) :
    ¬ HttpDecision.Agree url (headerDecision url status) d := by
  unfold headerDecision
  cases d with
  | answer rs => exact absurd rfl (hd rs)
  | upstream => split_ifs <;> exact id
  | nothing => split_ifs <;> exact id

theorem agree_answered_iff (url url' : Bytes) (a b : Option (Option Int)) :
    HttpDecision.Agree url (headed url a) (answered url' b) ↔
      ∃ asked, a = some asked ∧ b = some asked ∧ ∀ status, asked = some status → PlainStatus status := by
  constructor
  · intro h
    match a, b with
    | some none, some none => exact ⟨none, rfl, rfl, fun _ h => (nomatch h)⟩
    | some (some status), some (some status') =>
      obtain ⟨rfl, hplain⟩ := (agree_status_iff url url' status status').mp h
      exact ⟨_, rfl, rfl, fun st hst => Option.some.inj hst ▸ hplain⟩
    | some (some status), some none =>
      exact (not_agree_header (d := .upstream) url status (fun _ => nofun) h).elim
    | some (some status), none =>
      exact (not_agree_header (d := .nothing) url status (fun _ => nofun) h).elim
    | some none, some (some _) => exact h.elim
    | none, none => exact h.elim
    | none, some none => exact h.elim
    | none, some (some _) => exact h.elim
    | some none, none => exact h.elim
  · rintro ⟨asked, rfl, rfl, hplain⟩
    cases asked with
    | none => exact trivial
    | some status => exact (agree_status_iff url url' status status).mpr ⟨rfl, hplain status rfl⟩

/-- **The two entrances.**  A request for `http://host/uri` is decided alike by the forward proxy and
in a tunnel, exactly if the rules of the two ask for the same: to go upstream, or for a status that is
no redirection, has three digits, and is final (101, or 200 and above). -/
theorem http_paths_iff (env : Env σ) (lib : HttpLib) (s : σ) (host uri originHost target : Bytes)
    (replyFirst : Bool) (r : Reader) (w : Bytes × Nat)
    (hw : lib.writeRequest (tunnelRequest host uri) r.rest = .ok w) :
    HttpDecision.Agree (lit "http://" ++ host ++ uri)
        (forwardDecision (forwardHTTPRequest env (proxyRequest host uri) { routing := s }))
        (tunnelDecision (handleHTTP env lib (tunnelRequest host uri) replyFirst originHost target
          (!replyFirst) ⟨s, r, {}, [], false⟩)) ↔
      EntrancesAgree env s host originHost := by
  have hhost : requestHost (tunnelRequest host uri) originHost =
      if host ≠ [] then host else originHost := rfl
  rw [forward_decides, tunnel_decides env lib _ replyFirst originHost target s r hw, agree_answered_iff,
    hhost]
  rfl

end

theorem http_paths_same_sample :
    HttpDecision.Agree (lit "http://" ++ lit "blocked.example" ++ lit "/x")
      (forwardDecision (forwardHTTPRequest (oneRuleEnv { mode := .direct, httpStatus := 404 } {})
        (proxyRequest (lit "blocked.example") (lit "/x")) { routing := () }))
      (tunnelDecision (handleHTTP (oneRuleEnv { mode := .direct, httpStatus := 404 } {}) lineLib
        (tunnelRequest (lit "blocked.example") (lit "/x")) false (lit "blocked.example")
        (lit "192.0.2.7:80") (!false) ⟨(), {}, {}, [], false⟩)) :=
  (http_paths_iff (oneRuleEnv { mode := .direct, httpStatus := 404 } {}) lineLib () (lit "blocked.example")
    (lit "/x") (lit "blocked.example") (lit "192.0.2.7:80") false {}
    (lit "GET /x HTTP/1.1\r\n\r\n", 0) (by decide +kernel)).mpr
    ⟨some 404, by decide +kernel, by decide +kernel,
      fun st hst => by cases hst; exact ⟨.inr (by decide), by decide, by decide⟩⟩

/-- With a port in the `Host` field the tunnel misses the rule.  A redirection by the forward proxy
leads back to the requested URL.  An informational status of the forward proxy ends in 200. -/
theorem http_paths_differ :
    ((planRequest (oneRuleEnv { mode := .direct, httpStatus := 404 } {})
        { host := lit "blocked.example", port := 80 } >>= fun plan =>
          pure (plan.blocked, plan.policy.mode)) ()).1 = .ok (false, .direct) ∧
    forwardDecision (forwardHTTPRequest (oneRuleEnv { mode := .direct, httpStatus := 404 } {})
      (proxyRequest (lit "blocked.example:80") (lit "/x")) { routing := () }) =
      .answer [.http 404 none] ∧
    tunnelDecision (handleHTTP (oneRuleEnv { mode := .direct, httpStatus := 404 } {}) lineLib
      (tunnelRequest (lit "blocked.example:80") (lit "/x")) false (lit "blocked.example")
      (lit "192.0.2.7:80") true ⟨(), {}, {}, [], false⟩) = .upstream ∧
    forwardDecision (forwardHTTPRequest (oneRuleEnv { mode := .direct, httpStatus := 301 } {})
      (proxyRequest (lit "blocked.example") (lit "/x")) { routing := () }) =
      .answer [.http 301 (some (lit "http://blocked.example/x"))] ∧
    tunnelDecision (handleHTTP (oneRuleEnv { mode := .direct, httpStatus := 301 } {}) lineLib
      (tunnelRequest (lit "blocked.example") (lit "/x")) false (lit "blocked.example")
      (lit "192.0.2.7:80") true ⟨(), {}, {}, [], false⟩) =
      .answer [.http 301 (some (lit "https://blocked.example/x"))] ∧
    forwardDecision (forwardHTTPRequest (oneRuleEnv { mode := .direct, httpStatus := 103 } {})
      (proxyRequest (lit "blocked.example") (lit "/x")) { routing := () }) =
      .answer [.http 103 none, .http 200 none] ∧
    tunnelDecision (handleHTTP (oneRuleEnv { mode := .direct, httpStatus := 103 } {}) lineLib
      (tunnelRequest (lit "blocked.example") (lit "/x")) false (lit "blocked.example")
      (lit "192.0.2.7:80") true ⟨(), {}, {}, [], false⟩) = .answer [.http 103 none] := by
  refine ⟨?_, ?_, ?_, ?_, ?_, ?_, ?_⟩ <;> decide +kernel

end Bill
