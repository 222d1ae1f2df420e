import BillVpn.Go.HostPort
import BillVpn.Go.TwoRuns
import BillVpn.Policy.Policy

/-!
# From a host name to a dial plan

`genPolicyWithOptions` finds the policy of a destination and the address to dial:
the domain rules first, then the built-in list, then the rules for the address the name resolves
to.  `PlanRequest` wraps it for the front ends and recovers the domain behind a fake address.

What the functions read outside the request is an `Env`: the rule tables, and the calls that
have a state of their own (the pools, the resolver, the table of recorded answers) as procedures
over a state `σ` that the model does not fix.

* `routeDomain`, `hostTarget`, `locate`     the stages of the domain branch;
* `ipRedirect_quiet`, `ipRedirect_logged`   which rule goes with an address that was moved;
* `genPolicy_outcome`                       **everything a call can return**, by the policies that
                                            were merged.
-/

set_option linter.unusedVariables false

namespace Bill
open Go Proc

/-- what the redirection of addresses reads and calls -/
structure Redirects (σ : Type) where
  getIPPolicy : Bytes → Option Policy
  getFromIPPool : Bytes → Proc σ Bytes
  resolveBootstrapHost : Bytes → Proc σ Bytes

/-- what routing reads and calls; `σ` is the state of pools, resolver and recorded answers -/
structure Env (σ : Type) extends Redirects σ where
  lower : Bytes → Bytes
  domainFind : Bytes → Option Policy
  isGFWDomain : Bytes → Bool
  defaultPolicy : Policy
  lookupRecordedDNSIP : Bytes → DNSMode → Proc σ (Option Bytes)
  resolve : Bytes → DNSMode → Proc σ (Bytes × Bool)
  lookupDomain : Bytes → Proc σ Bytes

/-! ## redirection of addresses -/

/-- one byte of the new address: from the network, from the source, or from both -/
def blendByte (bits i : Nat) (net ip : UInt8) : UInt8 :=
  if i * 8 + 8 ≤ bits then net
  else if bits ≤ i * 8 then ip
  else
    let mask : UInt8 := 0xFF <<< UInt8.ofNat (8 - (bits - i * 8))
    (net &&& mask) ||| (ip &&& ~~~ mask)

def transformIP (ipStr targetNetStr : Bytes) : Res Bytes :=
  match parseAddr ipStr with
  | none => .err "invalid IP"
  | some ip =>
    match parsePfx targetNetStr with
    | none => .err "invalid target network"
    | some net =>
      if ip.is4 ≠ net.addr.is4 then .err "IP version mismatch between source IP and target network"
      else
        let len := if ip.is4 then 4 else 16
        let ipBytes := toBytes len ip.val
        let netBytes := toBytes len net.base
        let newBytes := (List.range len).map fun i =>
          blendByte net.bits i (netBytes.getD i 0) (ipBytes.getD i 0)
        match addrFromSlice newBytes with
        | some a => .ok a.text
        | none => .panic

/-- `$`, the mark of a pool -/
def tagMark : UInt8 := 36

/-- `strings.HasPrefix` of a one-byte text -/
def startsWith (c : UInt8) (s : Bytes) : Bool := s.head? == some c

section
variable {σ : Type} (rd : Redirects σ)

/-- the address that a `map_to` value sends `ip` to -/
def mapTarget (ip mapTo : Bytes) : Proc σ Bytes :=
  if startsWith tagMark mapTo then rd.getFromIPPool (mapTo.drop 1)
  else if slash ∈ mapTo then lift (transformIP ip mapTo)
  else if isIP mapTo then pure mapTo
  else rd.resolveBootstrapHost mapTo

/-- with a logger and a changed address the rule of the OLD address is returned -/
def ipRedirect (logger : Bool) (ip : Bytes) : Proc σ (Bytes × Option Policy) :=
  match rd.getIPPolicy ip with
  | none => pure (ip, none)
  | some policy =>
    match policy.mapTo with
    | none => pure (ip, some policy)
    | some [] => pure (ip, some policy)
    | some (c :: cs) => do
      let mapTo ← mapTarget rd ip (c :: cs)
      if logger ∧ ip ≠ mapTo then pure (mapTo, some policy)
      else pure (mapTo, rd.getIPPolicy mapTo)

end

/-! ## the policy of a destination -/

section
variable {σ : Type} (env : Env σ)

inductive DomainRouteClass where
  | plain | rule | gfw
deriving DecidableEq, Repr

def plainFallbackPolicy : Policy := { mode := .raw }
def gfwFallbackPolicy : Policy := { mode := .tlsrf }

def classifyDomainRoute (domain : Bytes) : DomainRouteClass :=
  let domain := env.lower domain
  if domain = [] then .plain
  else if (env.domainFind domain).isSome then .rule
  else if env.isGFWDomain domain then .gfw
  else .plain

/-- what `genPolicyWithOptions` returns -/
structure Verdict where
  dstHost : Bytes := []
  policy : Policy := {}
  failed : Bool := false
  blocked : Bool := false
  matchedDomain : Bool := false
  matchedIP : Bool := false
deriving DecidableEq, Repr

/-- the domain rule, whether a domain rule or the built-in list matched, and the policies that
are merged before the address is known -/
structure Route where
  domainPolicy : Option Policy
  matchedDomain : Bool
  policies : List Policy
deriving DecidableEq, Repr

/-- the class is looked up under the lower-case name, the rule under the name as given -/
def routeDomain (originHost : Bytes) : Route :=
  let routeClass := classifyDomainRoute env originHost
  match if routeClass = .rule then env.domainFind originHost else none with
  | some d => ⟨some d, true, [d, env.defaultPolicy]⟩
  | none =>
    if routeClass = .gfw then ⟨none, true, [gfwFallbackPolicy, env.defaultPolicy]⟩
    else ⟨none, false, [plainFallbackPolicy, env.defaultPolicy]⟩

/-- `^` -/
def caret : UInt8 := 94

/-- the host to dial by the `host` field, and whether the IP rules are skipped -/
def hostTarget (host : Option Bytes) (originHost : Bytes) : Bytes × Bool :=
  match host with
  | none => (originHost, false)
  | some h =>
    if h = [] ∨ h = lit "self" then (originHost, false)
    else if h = [caret] then (originHost, true)
    else if startsWith caret h then (h.drop 1, true)
    else (h, false)

/-- `$pool` stands for an address of the pool -/
def poolTarget (dstHost : Bytes) : Proc σ Bytes :=
  if startsWith tagMark dstHost then env.getFromIPPool (dstHost.drop 1) else pure dstHost

/-- a recorded answer, or else the resolver -/
def resolveTarget (dnsMode : DNSMode) (dstHost : Bytes) : Proc σ Bytes := do
  match ← env.lookupRecordedDNSIP dstHost dnsMode with
  | some ip => pure ip
  | none => do
    let r ← env.resolve dstHost dnsMode
    pure r.1

/-- the host that is dialed, before the rules for addresses -/
def locate (resolveDomain skipIPRedirect : Bool) (dnsMode : DNSMode) (dstHost : Bytes) :
    Proc σ Bytes := do
  let dstHost ← poolTarget env dstHost
  if !skipIPRedirect && resolveDomain && !isIP dstHost then resolveTarget env dnsMode dstHost
  else pure dstHost

/-- the branch for an address -/
def genIPPolicy (originHost : Bytes) : Proc σ Verdict := do
  match ← attempt (ipRedirect env.toRedirects true originHost) with
  | .error _ => pure { failed := true }
  | .ok (dstHost, ipPolicy) =>
    let p := mergePolicies [ipPolicy.getD plainFallbackPolicy, env.defaultPolicy]
    if p.mode = .block then pure { blocked := true, matchedIP := ipPolicy.isSome }
    else pure { dstHost := dstHost, policy := p, matchedIP := ipPolicy.isSome }

/-- the end of the domain branch: the rules of the address the host stands for -/
def redirectDomain (r : Route) (dstHost : Bytes) : Proc σ Verdict := do
  match ← attempt (ipRedirect env.toRedirects true dstHost) with
  | .error _ => pure { failed := true, matchedDomain := r.matchedDomain }
  | .ok (dstHost, none) =>
    pure { dstHost := dstHost, policy := mergePolicies r.policies, matchedDomain := r.matchedDomain }
  | .ok (dstHost, some ipPolicy) =>
    let p := mergePolicies (r.domainPolicy.toList ++ [ipPolicy, env.defaultPolicy])
    if p.mode = .block then
      pure { blocked := true, matchedDomain := r.matchedDomain, matchedIP := true }
    else
      pure { dstHost := dstHost, policy := p, matchedDomain := r.matchedDomain, matchedIP := true }

def genDomainPolicy (originHost : Bytes) (resolveDomain : Bool) : Proc σ Verdict := do
  let r := routeDomain env originHost
  let p := mergePolicies r.policies
  let (dstHost, skipIPRedirect) := hostTarget p.host originHost
  if (r.domainPolicy.map (·.mode)) = some .block then
    pure { blocked := true, matchedDomain := r.matchedDomain }
  else do
    match ← attempt (locate env resolveDomain skipIPRedirect p.dnsMode dstHost) with
    | .error _ => pure { failed := true, matchedDomain := r.matchedDomain }
    | .ok dstHost =>
      if skipIPRedirect || !isIP dstHost then
        pure { dstHost := dstHost, policy := p, matchedDomain := r.matchedDomain }
      else redirectDomain env r dstHost

def genPolicyWithOptions (originHost : Bytes) (resolveDomain : Bool) : Proc σ Verdict :=
  if isIP originHost then genIPPolicy env originHost
  else genDomainPolicy env originHost resolveDomain

/-! ## the plan -/

inductive RequestSource where
  | unknown | mobile | socks5 | http
deriving DecidableEq, Repr

inductive DomainTargetMode where
  | resolve | preserve
deriving DecidableEq, Repr

structure RequestContext where
  source : RequestSource := .unknown
  host : Bytes
  port : Int := 0
  domainTargetMode : DomainTargetMode := .resolve
deriving DecidableEq, Repr

structure DialPlan where
  source : RequestSource := .unknown
  originHost : Bytes := []
  originPort : Int := 0
  recoveredDomain : Bytes := []
  matchedDomain : Bool := false
  matchedIP : Bool := false
  targetHost : Bytes := []
  targetPort : Int := 0
  policy : Policy := {}
  blocked : Bool := false
deriving DecidableEq, Repr

def DialPlan.targetAddress (p : DialPlan) : Bytes :=
  if p.targetPort ≤ 0 then p.targetHost else joinHostPort p.targetHost (itoaInt p.targetPort)

/-- the domain behind a fake address; only an address is looked up -/
def recoverDomain (host : Bytes) : Proc σ Bytes :=
  if isIP host then env.lookupDomain host else pure []

def planOf (req : RequestContext) (recoveredDomain : Bytes) (v : Verdict) : DialPlan where
  source := req.source
  originHost := req.host
  originPort := req.port
  recoveredDomain := recoveredDomain
  matchedDomain := v.matchedDomain
  matchedIP := v.matchedIP
  targetHost := v.dstHost
  targetPort := if 0 < v.policy.port then v.policy.port else req.port
  policy := v.policy
  blocked := v.blocked

/-- the recovered domain, and the verdict on the host the request is planned for -/
def planVerdict (req : RequestContext) : Proc σ (Bytes × Verdict) := do
  let recoveredDomain ← recoverDomain env req.host
  let planningHost := if recoveredDomain = [] then req.host else recoveredDomain
  let v ← genPolicyWithOptions env planningHost (req.domainTargetMode ≠ .preserve)
  pure (recoveredDomain, v)

def planRequest (req : RequestContext) : Proc σ DialPlan :=
  if req.host = [] then fail "request host is empty"
  else do
    let (recoveredDomain, v) ← planVerdict env req
    if v.failed then fail "failed to resolve dial plan"
    else pure (planOf req recoveredDomain v)

end

/-! ## the address and the rule that goes with it -/

section
variable {σ : Type}

/-- the address that the rule of an address leads to -/
def moved (rd : Redirects σ) (ip : Bytes) : Proc σ Bytes :=
  match rd.getIPPolicy ip with
  | none => pure ip
  | some policy =>
    match policy.mapTo with
    | none => pure ip
    | some [] => pure ip
    | some (c :: cs) => mapTarget rd ip (c :: cs)

theorem ipRedirect_quiet (rd : Redirects σ) (ip : Bytes) :
    ipRedirect rd false ip = moved rd ip >>= fun t => pure (t, rd.getIPPolicy t) := by
  unfold ipRedirect moved
  cases hp : rd.getIPPolicy ip with
  | none => exact funext fun s => by simp [run_bind, hp]
  | some policy =>
    dsimp only
    rcases policy.mapTo with _ | _ | ⟨c, cs⟩
    · exact funext fun s => by simp [run_bind, hp]
    · exact funext fun s => by simp [run_bind, hp]
    · rfl

theorem ipRedirect_logged (rd : Redirects σ) (ip : Bytes) :
    ipRedirect rd true ip = moved rd ip >>= fun t => pure (t, rd.getIPPolicy ip) := by
  unfold ipRedirect moved
  cases hp : rd.getIPPolicy ip with
  | none => rfl
  | some policy =>
    dsimp only
    rcases policy.mapTo with _ | _ | ⟨c, cs⟩
    · rfl
    · rfl
    · refine congrArg (mapTarget rd ip (c :: cs) >>= ·) (funext fun t => ?_)
      by_cases ht : ip = t
      · rw [if_neg (fun h => h.2 ht), ← ht, hp]
      · rw [if_pos ⟨rfl, ht⟩]

theorem moved_cases (rd : Redirects σ) (ip : Bytes) :
    moved rd ip = pure ip ∨ ∃ p c cs, rd.getIPPolicy ip = some p ∧ p.mapTo = some (c :: cs) ∧
      moved rd ip = mapTarget rd ip (c :: cs) := by
  unfold moved
  cases rd.getIPPolicy ip with
  | none => exact .inl rfl
  | some p =>
    dsimp only
    cases hm : p.mapTo with
    | none => exact .inl rfl
    | some m =>
      cases m with
      | nil => exact .inl rfl
      | cons c cs => exact .inr ⟨p, c, cs, rfl, hm, rfl⟩

/-- what the pools and the resolver see and change bounds what a redirection does -/
theorem moved_confined {γ δ : Type} {f : σ → γ} {v : σ → δ} {rd : Redirects σ}
    (hpool : ∀ tag, Confined f v (rd.getFromIPPool tag))
    (hboot : ∀ host, Confined f v (rd.resolveBootstrapHost host)) (ip : Bytes) :
    Confined f v (moved rd ip) := by
  rcases moved_cases rd ip with h | ⟨p, c, cs, -, -, h⟩
  · rw [h]
    exact Confined.pure ip
  · rw [h]
    exact (hpool _).ite ((Confined.lift _).ite ((Confined.pure _).ite (hboot _)))

/-- **With a logger, the rule that `ipRedirect` returns is the rule of the address it was given.** -/
theorem ipRedirect_rule {rd : Redirects σ} {ip dst : Bytes} {p : Option Policy} {s s' : σ}
    (h : ipRedirect rd true ip s = (.ok (dst, p), s')) : rd.getIPPolicy ip = p := by
  rw [ipRedirect_logged] at h
  obtain ⟨t, s1, -, h⟩ := run_bind_eq_ok.mp h
  cases h
  rfl

variable {s : σ}

theorem ipRedirect_kept {rd : Redirects σ} {host : Bytes} (h : moved rd host = pure host) :
    ipRedirect rd true host s = (.ok (host, rd.getIPPolicy host), s) := by
  rw [ipRedirect_logged, h]
  rfl

theorem ipRedirect_none {rd : Redirects σ} {host : Bytes} (hp : rd.getIPPolicy host = none) :
    ipRedirect rd true host s = (.ok (host, none), s) := by
  rw [← hp]
  refine ipRedirect_kept ?_
  unfold moved
  rw [hp]

theorem ipRedirect_stays {rd : Redirects σ} {host : Bytes} {p : Policy}
    (hp : rd.getIPPolicy host = some p) (hm : ¬ ∃ c cs, p.mapTo = some (c :: cs)) :
    ipRedirect rd true host s = (.ok (host, some p), s) := by
  rw [← hp]
  refine ipRedirect_kept ((moved_cases rd host).resolve_right ?_)
  rintro ⟨p', c, cs, hp', hmap, -⟩
  cases hp.symm.trans hp'
  exact hm ⟨c, cs, hmap⟩

theorem genIP_of_redirect {env : Env σ} {host dst : Bytes} {ipPolicy : Option Policy}
    {s' : σ} (h : ipRedirect env.toRedirects true host s = (.ok (dst, ipPolicy), s')) :
    genIPPolicy env host s =
      if (mergePolicies [ipPolicy.getD plainFallbackPolicy, env.defaultPolicy]).mode = .block then
        (.ok { blocked := true, matchedIP := ipPolicy.isSome }, s')
      else (.ok { dstHost := dst,
                  policy := mergePolicies [ipPolicy.getD plainFallbackPolicy, env.defaultPolicy],
                  matchedIP := ipPolicy.isSome }, s') := by
  unfold genIPPolicy
  rw [run_bind_ok (attempt_ok h)]
  dsimp only
  split_ifs with hb
  · rfl
  · rfl

end

/-! ## the domain branch in two steps -/

def IsBlock (rule : Option Policy) : Prop := rule.map (·.mode) = some .block

instance (rule : Option Policy) : Decidable (IsBlock rule) :=
  inferInstanceAs (Decidable (rule.map (·.mode) = some .block))

section
variable {σ : Type} {env : Env σ} {h : Bytes}

/-- the end of the domain branch, once the host is located -/
def settle (env : Env σ) (r : Route) (skipIPRedirect : Bool) : Except String Bytes → Proc σ Verdict
  | .error _ => pure { failed := true, matchedDomain := r.matchedDomain }
  | .ok dstHost =>
    if skipIPRedirect || !isIP dstHost then
      pure { dstHost := dstHost, policy := mergePolicies r.policies, matchedDomain := r.matchedDomain }
    else redirectDomain env r dstHost

theorem genDomainPolicy_block {resolveDomain : Bool} (hb : IsBlock (routeDomain env h).domainPolicy) :
    genDomainPolicy env h resolveDomain =
      pure { blocked := true, matchedDomain := (routeDomain env h).matchedDomain } := by
  unfold genDomainPolicy
  exact if_pos hb

theorem genDomainPolicy_settle {resolveDomain skip : Bool} {dst : Bytes}
    (hb : ¬ IsBlock (routeDomain env h).domainPolicy)
    (ht : hostTarget (mergePolicies (routeDomain env h).policies).host h = (dst, skip)) :
    genDomainPolicy env h resolveDomain =
      attempt (locate env resolveDomain skip (mergePolicies (routeDomain env h).policies).dnsMode dst)
        >>= settle env (routeDomain env h) skip := by
  unfold genDomainPolicy
  dsimp only
  rw [ht]
  dsimp only
  exact if_neg hb

theorem locate_plain {resolveDomain skip : Bool} {m : DNSMode} (hd : startsWith tagMark h = false)
    (hip : isIP h = false) :
    locate env resolveDomain skip m h =
      if !skip && resolveDomain then resolveTarget env m h else pure h := by
  have hp : poolTarget env h = pure h := by
    unfold poolTarget
    rw [hd]
    rfl
  unfold locate
  rw [hp]
  show (if !skip && resolveDomain && !isIP h then _ else _) = _
  rw [hip, Bool.not_false, Bool.and_true]

theorem settle_name (r : Route) (skip : Bool) {x : Bytes} (hx : isIP x = false) :
    settle env r skip (.ok x) = pure { dstHost := x, policy := mergePolicies r.policies,
                                       matchedDomain := r.matchedDomain } := by
  show (if (skip || !isIP x) = true then _ else _) = _
  rw [hx, Bool.not_false, Bool.or_true, if_pos rfl]

end

/-! ## everything a call can return -/

section
variable {σ : Type} {env : Env σ}

theorem routeDomain_cases (env : Env σ) (host : Bytes) :
    (∃ d, env.domainFind host = some d ∧
      routeDomain env host = ⟨some d, true, [d, env.defaultPolicy]⟩) ∨
    routeDomain env host = ⟨none, true, [gfwFallbackPolicy, env.defaultPolicy]⟩ ∨
    routeDomain env host = ⟨none, false, [plainFallbackPolicy, env.defaultPolicy]⟩ := by
  unfold routeDomain
  by_cases hr : classifyDomainRoute env host = .rule
  · cases hd : env.domainFind host with
    | some d => exact Or.inl ⟨d, rfl, by simp [hr]⟩
    | none => exact Or.inr (Or.inr (by simp [hr]))
  · by_cases hg : classifyDomainRoute env host = .gfw
    · exact Or.inr (Or.inl (by simp [hg]))
    · exact Or.inr (Or.inr (by simp [hr, hg]))

/-- the policies that can be merged for a host -/
inductive Applied (env : Env σ) (host : Bytes) : List Policy → Prop where
  | plain : isIP host = true → Applied env host [plainFallbackPolicy, env.defaultPolicy]
  | rule {a : Bytes} {p : Policy} : isIP host = true → env.getIPPolicy a = some p →
      Applied env host [p, env.defaultPolicy]
  | domain : isIP host = false → Applied env host (routeDomain env host).policies
  | domainRule {a : Bytes} {p : Policy} : isIP host = false → env.getIPPolicy a = some p →
      Applied env host ((routeDomain env host).domainPolicy.toList ++ [p, env.defaultPolicy])

/-- the policies of a domain whose rule does not block by itself -/
def Unflagged (env : Env σ) (host : Bytes) (ps : List Policy) : Prop :=
  ps = (routeDomain env host).policies ∧
    (routeDomain env host).domainPolicy.map (·.mode) ≠ some .block

/-- what a call can return; only the policies of a domain can merge to a block that is not flagged -/
inductive Outcome (env : Env σ) (host : Bytes) : Verdict → Prop where
  | failed (md : Bool) : Outcome env host { failed := true, matchedDomain := md }
  | blocked (md mi : Bool) :
      Outcome env host { blocked := true, matchedDomain := md, matchedIP := mi }
  | planned {ps : List Policy} (dst : Bytes) (md mi : Bool) : Applied env host ps →
      ((mergePolicies ps).mode = .block → Unflagged env host ps) →
      Outcome env host
        { dstHost := dst, policy := mergePolicies ps, matchedDomain := md, matchedIP := mi }

theorem genIPPolicy_outcome {host : Bytes} {s s' : σ} {v : Verdict} (hip : isIP host = true)
    (h : genIPPolicy env host s = (.ok v, s')) : Outcome env host v := by
  obtain ⟨r, s1, hr, h⟩ := run_bind_eq_ok.mp h
  rcases attempt_eq_ok hr with ⟨⟨dst, ipPolicy⟩, rfl, hred⟩ | ⟨e, rfl, -⟩
  · have happ : Applied env host [ipPolicy.getD plainFallbackPolicy, env.defaultPolicy] := by
      cases ipPolicy with
      | none => exact .plain hip
      | some p => exact .rule hip (ipRedirect_rule hred)
    dsimp only at h
    split_ifs at h with hb
    · cases h
      exact .blocked false _
    · cases h
      exact .planned dst false _ happ fun hm => absurd hm hb
  · cases h
    exact .failed false

theorem redirectDomain_outcome {host dst : Bytes} {s s' : σ} {v : Verdict} (hip : isIP host = false)
    (hblk : (routeDomain env host).domainPolicy.map (·.mode) ≠ some .block)
    (h : redirectDomain env (routeDomain env host) dst s = (.ok v, s')) : Outcome env host v := by
  obtain ⟨r, s1, hr, h⟩ := run_bind_eq_ok.mp h
  rcases attempt_eq_ok hr with ⟨⟨dst', ipPolicy⟩, rfl, hred⟩ | ⟨e, rfl, -⟩
  · cases ipPolicy with
    | none =>
      cases h
      exact .planned dst' _ false (.domain hip) fun _ => ⟨rfl, hblk⟩
    | some p =>
      have ha := ipRedirect_rule hred
      dsimp only at h
      split_ifs at h with hb
      · cases h
        exact .blocked _ true
      · cases h
        exact .planned dst' _ true (.domainRule hip ha) fun hm => absurd hm hb
  · cases h
    exact .failed _

/-- **Everything `genPolicyWithOptions` can return**: a failure, a block, or the merge of policies
that apply to the host. -/
theorem genPolicy_outcome {host : Bytes} {resolveDomain : Bool} {s s' : σ} {v : Verdict}
    (h : genPolicyWithOptions env host resolveDomain s = (.ok v, s')) : Outcome env host v := by
  unfold genPolicyWithOptions at h
  by_cases hip : isIP host = true
  · rw [if_pos hip] at h
    exact genIPPolicy_outcome hip h
  · rw [if_neg hip] at h
    have hip' : isIP host = false := by simpa using hip
    unfold genDomainPolicy at h
    dsimp only at h
    split_ifs at h with hb
    · cases h
      exact .blocked _ false
    obtain ⟨r, s1, hr, h⟩ := run_bind_eq_ok.mp h
    rcases attempt_eq_ok hr with ⟨dst, rfl, -⟩ | ⟨e, rfl, -⟩
    · dsimp only at h
      split_ifs at h with hskip
      · cases h
        exact .planned dst _ false (.domain hip') fun _ => ⟨rfl, hb⟩
      · exact redirectDomain_outcome hip' hb h
    · cases h
      exact .failed _

end

/-! ## a small environment -/

/-- one domain rule, one resolved name, one fake address -/
def oneRuleEnv (rule defaultPolicy : Policy) : Env Unit where
  lower := id
  domainFind := fun d => if d = lit "blocked.example" then some rule else none
  isGFWDomain := fun _ => false
  getIPPolicy := fun _ => none
  defaultPolicy := defaultPolicy
  getFromIPPool := fun _ => fail "no ip pools"
  lookupRecordedDNSIP := fun _ _ => pure none
  resolve := fun _ _ => pure (lit "192.0.2.7", false)
  resolveBootstrapHost := fun _ => fail "no such host"
  lookupDomain := fun ip => pure (if ip = lit "198.18.0.1" then lit "blocked.example" else [])

end Bill
