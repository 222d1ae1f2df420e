import BillVpn.Go.Case
import BillVpn.Routing.Net

/-!
# Whether a fake address is dialed

A request for a fake address is planned for the name behind it.  Without such a name it is planned
for the address itself, as for any other address.

* `isFakeIPAddress`        as in the source;
* `CleanNet`, `CleanEvent` no fake address comes from upstream, from the rules or from the pools;
* `planningHost`           the live name of a fake address, or the address;
* `Diverted`               a rule for the address itself maps it or blocks it;
* `fake_dial_iff`          **after every clean run, a fake address is kept from being dialed exactly
                           by its name or by a rule**;
* `fake_dialed`            a request after the entry has expired.
-/

set_option linter.unusedVariables false

namespace Bill
open Go Proc

def isFakeIPAddress (ip : Bytes) : Bool :=
  match parseAddr ip with
  | none => false
  | some addr => defaultFakeIPv4Store.pfx.contains addr || defaultFakeIPv6Store.pfx.contains addr

def NotFake (ip : Bytes) : Prop := isFakeIPAddress ip = false

/-! ## runs without fake answers -/

section
variable {κ τ : Type} (std : Std) (g : Globals κ τ)

/-- rule hosts, `map_to` values and what they give -/
structure CleanNet (g : Globals κ τ) : Prop where
  ruleHost : ∀ d p, g.domainFind d = some p → HostOk NotFake p.host
  defaultHost : HostOk NotFake g.defaultPolicy.host
  mapTo : ∀ ip p, g.getIPPolicy ip = some p → MapOk NotFake p.mapTo

structure CleanAround (a : Around) : Prop where
  pool : ∀ tag ip, a.getFromIPPool tag = .ok ip → NotFake ip
  bootstrap : ∀ host r, a.resolveBootstrapHost host = .ok r → NotFake r.1
  resolve : ∀ d m r, a.resolve d m = .ok r → NotFake r.1

def CleanEvent : NetEvent → Net Unit → Prop
  | .query exchange now req, _ => ∀ resp, exchange req = .ok resp →
      ∀ ip, IsAnswer resp.answer ip → NotFake ip
  | .plan a _ _ _, _ => CleanAround a

/-- nothing fake is recorded or in the reverse cache -/
abbrev CleanTables : Net Unit → Prop := NetInv (fun _ ip => NotFake ip) (fun _ ip => NotFake ip)

variable {std} {g}

theorem CleanNet.sound (hg : CleanNet g) {a : Around} (ha : CleanAround a) :
    Sound (fun _ ip => NotFake ip) (fun _ ip => NotFake ip) NotFake g a where
  nothing d := rfl
  recorded d ip h _ := h
  pool := ha.pool
  bootstrap host r hr := ⟨ha.bootstrap host r hr, ha.bootstrap host r hr⟩
  resolve d m r hr := ⟨ha.resolve d m r hr, ha.resolve d m r hr⟩
  ruleHost := hg.ruleHost
  defaultHost := hg.defaultHost
  mapTo := hg.mapTo

theorem recordedBy_answer {σ : Type} {env : Env σ} {exchange : Msg → Res Msg} {req : Msg}
    {domain : Bytes} {answers : List RR} (h : recordedBy env exchange req = some (domain, answers)) :
    ∃ resp, exchange req = .ok resp ∧ resp.answer = answers := by
  unfold recordedBy at h
  split at h
  · split_ifs at h
    split at h
    · rename_i resp hex
      split_ifs at h
      cases h
      exact ⟨resp, hex, rfl⟩
    · cases h
  · cases h

theorem cleanStep (hg : CleanNet g) (e : NetEvent) (s : Net Unit) (he : CleanEvent e s)
    (hs : CleanTables s) : CleanTables (netStep std g e s) := by
  cases e with
  | query exchange now req =>
    refine query_inv (T := fun _ ip => NotFake ip) (fun d => rfl) (fun domain answers hr ip hip => ?_) hs
    obtain ⟨resp, hex, rfl⟩ := recordedBy_answer hr
    exact ⟨he resp hex ip hip, he resp hex ip hip⟩
  | plan a now hit req => exact ((hg.sound he).planRequest_under req s hs).1

/-! ## one request -/

def fakeName (host : Bytes) (now : Int) (s : DnsState) : Bytes :=
  ((s.v4.lookupDomain host now).1 <|> (s.v6.lookupDomain host now).1).getD []

def planningHost (host : Bytes) (now : Int) (s : DnsState) : Bytes :=
  if fakeName host now s = [] then host else fakeName host now s

/-- a rule for the address maps it, or blocks it -/
def Diverted (g : Globals κ τ) (host : Bytes) : Prop :=
  ∃ p, g.getIPPolicy host = some p ∧
    ((∃ c cs, p.mapTo = some (c :: cs)) ∨ (mergePolicies [p, g.defaultPolicy]).mode = .block)

/-- it fails, is blocked, or does not dial a fake address -/
def Undialed : Res DialPlan → Prop
  | .ok plan => plan.blocked = true ∨ NotFake plan.targetHost
  | .err _ => True
  | .panic => False

theorem isIP_of_fake {host : Bytes} (h : isFakeIPAddress host = true) : isIP host = true := by
  unfold isFakeIPAddress at h
  unfold isIP parseIP
  cases hp : parseAddr host with
  | none =>
    rw [hp] at h
    cases h
  | some addr =>
    rw [hp] at h
    have hz : addr.zone = [] := by
      rcases Bool.or_eq_true_iff.mp h with h | h
      · exact (Pfx.contains_iff.mp h).1
      · exact (Pfx.contains_iff.mp h).1
    dsimp only
    rw [if_pos hz]
    cases addr with
    | v4 n => rfl
    | v6 n z => rfl

theorem lastAdded_none {calls : List (Bytes × Bytes)} {ip : Bytes} (h : ∀ p ∈ calls, p.1 ≠ ip) :
    lastAdded calls ip = none := by
  unfold lastAdded
  rw [List.find?_eq_none.mpr, Option.map_none]
  intro p hp
  simpa using h p (List.mem_reverse.mp hp)

/-- the reverse cache has no fake address, so the name comes from the stores -/
theorem cache_fake {hit : Bool} {host : Bytes} {s : Net Unit} (hs : CleanTables s)
    (h : isFakeIPAddress host = true) : ipDomainCacheGet hit host s.dns = none := by
  unfold ipDomainCacheGet
  split_ifs with hh
  · cases hc : s.dns.ipDomainCache with
    | none => rfl
    | some calls =>
      refine lastAdded_none fun p hp he => ?_
      have hclean : NotFake p.1 := hs.cache calls hc p hp
      rw [he] at hclean
      exact absurd h (by rw [hclean]; decide)
  · rfl

/-- what `Undialed` is for the verdict -/
def VerdictSafe : Res Verdict → Prop
  | .ok v => v.failed = true ∨ v.blocked = true ∨ NotFake v.dstHost
  | .err _ => True
  | .panic => False

section
variable {a : Around} {now : Int} {hit : Bool} {s : Net Unit}

theorem planRequest_fake (std : Std) (g : Globals κ τ) (a : Around) (now : Int) (hit : Bool)
    (hs : CleanTables s) {req : RequestContext}
    (h : isFakeIPAddress req.host = true) :
    ∃ s', CleanTables s' ∧ (Undialed (planRequest (planEnv std g a now hit) req s).1 ↔
      VerdictSafe (genPolicyWithOptions (planEnv std g a now hit) (planningHost req.host now s.dns)
        (req.domainTargetMode ≠ .preserve) s').1) := by
  have hne : req.host ≠ [] := by
    intro h0
    rw [h0] at h
    cases h
  obtain ⟨s', hs', -, hrec⟩ := recoverDomain_run std g a now hit hs (isIP_of_fake h)
  rw [cache_fake hs h, ite_self] at hrec
  have hrec : recoverDomain (planEnv std g a now hit) req.host s =
      (.ok (fakeName req.host now s.dns), s') := by
    rw [hrec]
    unfold fakeName
    cases (s.dns.v4.lookupDomain req.host now).1 with
    | some d => rfl
    | none =>
      cases (s.dns.v6.lookupDomain req.host now).1 with
      | some d => rfl
      | none => rfl
  refine ⟨s', hs', ?_⟩
  have hplan : planVerdict (planEnv std g a now hit) req s =
      (genPolicyWithOptions (planEnv std g a now hit) (planningHost req.host now s.dns)
        (req.domainTargetMode ≠ .preserve) >>= fun v => pure (fakeName req.host now s.dns, v)) s' := by
    unfold planVerdict
    rw [run_bind_ok hrec]
    rfl
  unfold planRequest
  rw [if_neg hne]
  rcases hgen : genPolicyWithOptions (planEnv std g a now hit) (planningHost req.host now s.dns)
    (req.domainTargetMode ≠ .preserve) s' with ⟨r, s1⟩
  cases r with
  | ok v =>
    rw [run_bind_ok (hplan.trans (run_bind_ok hgen))]
    show Undialed ((if v.failed = true then _ else _ : Proc (Net Unit) DialPlan) s1).1 ↔ _
    by_cases hf : v.failed = true
    · rw [if_pos hf]
      exact ⟨fun _ => .inl hf, fun _ => trivial⟩
    · rw [if_neg hf]
      exact ⟨fun hu => .inr hu, fun hv => hv.resolve_left hf⟩
  | err e =>
    rw [run_bind_err (hplan.trans (run_bind_err hgen))]
    exact Iff.rfl
  | panic =>
    rw [run_bind_panic (hplan.trans (run_bind_panic hgen))]
    exact Iff.rfl

theorem plain_mode (q : Policy) : (mergePolicies [plainFallbackPolicy, q]).mode = .raw := by
  rw [merge_mode]
  rfl

theorem genPolicy_undiverted {host : Bytes} (h : isFakeIPAddress host = true) (hd : ¬ Diverted g host)
    (b : Bool) : ¬ VerdictSafe (genPolicyWithOptions (planEnv std g a now hit) host b s).1 := by
  have hfake : ¬ NotFake host := by
    unfold NotFake
    rw [h]
    decide
  unfold genPolicyWithOptions
  rw [if_pos (isIP_of_fake h)]
  cases hp : g.getIPPolicy host with
  | none =>
    have hred : ipRedirect (planEnv std g a now hit).toRedirects true host s = (.ok (host, none), s) :=
      ipRedirect_none hp
    rw [genIP_of_redirect hred, if_neg (by rw [Option.getD_none, plain_mode]; decide)]
    rintro (hf | hb | hn)
    · cases hf
    · cases hb
    · exact hfake hn
  | some p =>
    have hm : ¬ ∃ c cs, p.mapTo = some (c :: cs) := fun hm => hd ⟨p, hp, .inl hm⟩
    have hb : (mergePolicies [(some p).getD plainFallbackPolicy,
        (planEnv std g a now hit).defaultPolicy]).mode ≠ .block := fun hb => hd ⟨p, hp, .inr hb⟩
    have hred : ipRedirect (planEnv std g a now hit).toRedirects true host s = (.ok (host, some p), s) :=
      ipRedirect_stays hp hm
    rw [genIP_of_redirect hred, if_neg hb]
    rintro (hf | hb | hn)
    · cases hf
    · cases hb
    · exact hfake hn

theorem verdictSafe_of_under {x : Proc (Net Unit) Verdict} (hs : CleanTables s)
    (h : Under CleanTables x fun v => v.failed = true ∨ v.blocked = true ∨ NotFake v.dstHost) :
    VerdictSafe (x s).1 := by
  obtain ⟨-, hp, hv⟩ := h s hs
  cases hr : (x s).1 with
  | ok v => exact hv v hr
  | err e => trivial
  | panic => exact absurd hr hp

theorem ipRedirect_mapped (hg : CleanNet g) (ha : CleanAround a) {host : Bytes} {p : Policy}
    (hp : g.getIPPolicy host = some p) {c : UInt8} {cs : Bytes} (hm : p.mapTo = some (c :: cs)) :
    Under CleanTables (ipRedirect (planEnv std g a now hit).toRedirects true host)
      fun r => NotFake r.1 := by
  have hok := hg.mapTo host p hp
  rw [hm] at hok
  unfold ipRedirect
  rw [show (planEnv std g a now hit).getIPPolicy host = some p from hp]
  dsimp only
  rw [hm]
  refine Under.bind ((hg.sound ha).mapTarget_under host hok) fun t ht => ?_
  exact Under.ite (fun _ => Under.pure ht) fun _ => Under.pure ht

theorem genPolicy_diverted (hg : CleanNet g) (ha : CleanAround a) (hs : CleanTables s) {host : Bytes}
    (h : isFakeIPAddress host = true) (hd : Diverted g host) (b : Bool) :
    VerdictSafe (genPolicyWithOptions (planEnv std g a now hit) host b s).1 := by
  obtain ⟨p, hp, hd⟩ := hd
  unfold genPolicyWithOptions
  rw [if_pos (isIP_of_fake h)]
  by_cases hm : ∃ c cs, p.mapTo = some (c :: cs)
  · obtain ⟨c, cs, hm⟩ := hm
    apply verdictSafe_of_under hs
    refine Under.bind (ipRedirect_mapped hg ha hp hm).attempt fun r hr => ?_
    cases r with
    | error e => exact Under.pure (.inl rfl)
    | ok r =>
      exact Under.ite (fun _ => Under.pure (.inr (.inl rfl))) fun _ =>
        Under.pure (.inr (.inr (hr r rfl)))
  · have hb : (mergePolicies [(some p).getD plainFallbackPolicy,
        (planEnv std g a now hit).defaultPolicy]).mode = .block := hd.resolve_left hm
    have hred : ipRedirect (planEnv std g a now hit).toRedirects true host s = (.ok (host, some p), s) :=
      ipRedirect_stays hp hm
    rw [genIP_of_redirect hred, if_pos hb]
    exact .inr (.inl rfl)

theorem undialed_iff (hg : CleanNet g) (ha : CleanAround a) (hs : CleanTables s) {req : RequestContext}
    (h : isFakeIPAddress req.host = true) :
    Undialed (planRequest (planEnv std g a now hit) req s).1 ↔
      NotFake (planningHost req.host now s.dns) ∨ Diverted g (planningHost req.host now s.dns) := by
  obtain ⟨s', hs', hiff⟩ := planRequest_fake std g a now hit hs h
  rw [hiff]
  constructor
  · intro hv
    by_contra hno
    push Not at hno
    have hfake : isFakeIPAddress (planningHost req.host now s.dns) = true := by
      simpa [NotFake] using hno.1
    exact genPolicy_undiverted hfake hno.2 _ hv
  · rintro (hn | hd)
    · apply verdictSafe_of_under hs'
      exact ((hg.sound ha).genPolicy_under _ _).weaken fun v hv => hv hn
    · by_cases hn : NotFake (planningHost req.host now s.dns)
      · apply verdictSafe_of_under hs'
        exact ((hg.sound ha).genPolicy_under _ _).weaken fun v hv => hv hn
      · have hfake : isFakeIPAddress (planningHost req.host now s.dns) = true := by
          simpa [NotFake] using hn
        exact genPolicy_diverted hg ha hs' hfake hd _

end

/-! ## runs -/

def netStart (cache : Bool) : Net Unit := ⟨{ ipDomainCache := if cache then some [] else none }, ()⟩

theorem netStart_clean (cache : Bool) : CleanTables (netStart cache) := by
  refine ⟨⟨defaultFakeIPv4Store_wf, defaultFakeIPv6Store_wf, rfl, rfl⟩, fun d e hd => ?_,
    fun calls hc p hp => ?_⟩
  · cases hd
  · cases cache with
    | true =>
      cases hc
      cases hp
    | false => cases hc

end

/-- **After any run of queries and requests without fake answers, a request for a fake address does
not dial it exactly when the address has a live name that is no fake address itself, or a rule for
the address that is left maps or blocks it.** -/
theorem fake_dial_iff {κ τ : Type} (std : Std) (g : Globals κ τ) (hg : CleanNet g) (cache : Bool)
    (es : List NetEvent) (hes : Along (netStep std g) CleanEvent es (netStart cache)) (a : Around)
    (ha : CleanAround a) (now : Int) (hit : Bool) (req : RequestContext)
    (h : isFakeIPAddress req.host = true) :
    Undialed (planRequest (planEnv std g a now hit) req
      (runAll (netStep std g) es (netStart cache))).1 ↔
    NotFake (planningHost req.host now (runAll (netStep std g) es (netStart cache)).dns) ∨
      Diverted g (planningHost req.host now (runAll (netStep std g) es (netStart cache)).dns) :=
  undialed_iff hg ha (hes.invariant (fun e s he hs => cleanStep hg e s he hs) (netStart_clean cache)) h

/-! ## one answer, two requests -/

def oneRuleGlobals : Globals Unit Unit where
  domainMatcher := some (buildDomainMatcher [(lit "blocked.example", { mode := .tlsrf })])

def oneAnswer : Around where
  getFromIPPool := fun _ => .error "no ip pools"
  resolveBootstrapHost := fun _ => .error "no such host"
  resolve := fun _ _ => .ok (lit "192.0.2.7", false)

def fakeQueried : List NetEvent := [.query (ruleAnswer 60) 0 ruleQuery]

def fakeRequest : RequestContext := { host := lit "198.18.0.1", port := 443 }

theorem oneRuleGlobals_clean : CleanNet oneRuleGlobals where
  ruleHost d p hp := by
    obtain ⟨key, hkey⟩ := buildDomainMatcher_find hp
    cases List.mem_singleton.mp hkey
    exact fun v hv => (nomatch hv)
  defaultHost v hv := nomatch hv
  mapTo ip p hp := nomatch hp

theorem oneAnswer_clean : CleanAround oneAnswer where
  pool tag ip hip := nomatch hip
  bootstrap host r hr := nomatch hr
  resolve d m r hr := by
    cases hr
    show isFakeIPAddress (lit "192.0.2.7") = false
    decide +kernel

theorem fakeQueried_clean :
    Along (netStep asciiStd oneRuleGlobals) CleanEvent fakeQueried (netStart true) := by
  refine ⟨fun resp hresp ip hip => ?_, trivial⟩
  cases hresp
  obtain ⟨rr, hrr, x, hd, rfl⟩ := hip
  cases List.mem_singleton.mp hrr
  rcases hd with hd | hd
  · cases hd
    show isFakeIPAddress _ = false
    decide +kernel
  · cases hd

theorem fake_dial_in_time :
    Undialed (planRequest (planEnv asciiStd oneRuleGlobals oneAnswer (59 * second) true) fakeRequest
      (runAll (netStep asciiStd oneRuleGlobals) fakeQueried (netStart true))).1 :=
  (fake_dial_iff asciiStd oneRuleGlobals oneRuleGlobals_clean true fakeQueried fakeQueried_clean
    oneAnswer oneAnswer_clean (59 * second) true fakeRequest (by decide +kernel)).mpr
    (.inl (by show isFakeIPAddress _ = false; decide +kernel))

/-- a minute later the address itself is dialed -/
theorem fake_dialed :
    isFakeIPAddress (lit "198.18.0.1") = true ∧
    ((planRequest (planEnv asciiStd oneRuleGlobals oneAnswer (60 * second) true) fakeRequest >>=
      fun plan => pure (plan.targetHost, plan.blocked, plan.policy.mode))
      (runAll (netStep asciiStd oneRuleGlobals) fakeQueried (netStart true))).1 =
      .ok (lit "198.18.0.1", false, .raw) := by
  constructor
  · decide +kernel
  · decide +kernel

end Bill
