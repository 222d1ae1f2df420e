import BillVpn.Routing.CaseFold
import BillVpn.Routing.FakeDial

/-!
# Traffic that no rule is for

A name without a rule is answered with its real addresses.  A request for such an address is still
planned for the name that the reverse cache has for it, and goes to the address that is recorded for
that name.

* `Names N`              none of the names has a rule, and none is an address or a pool;
* `Separate N addr`      the names of `N` are answered with the address, and no others are;
* `Current`              at the time of the request the name still leads to the address;
* `unmatched_kept`       **along separate events a request for the address is left alone**;
* `unmatched_diverted`   two addresses of one name, and two names with one address.
-/

set_option linter.unusedVariables false

namespace Bill
open Go Proc

section
variable {κ τ : Type} (std : Std) (g : Globals κ τ) (N : Bytes → Prop) (addr : Bytes)

/-- names that may stand behind the address -/
structure Names : Prop where
  plain : ∀ d, N d → classifyDomainRoute (queryEnv std g) d = .plain
  name : ∀ d, N d → d ≠ [] ∧ isIP d = false ∧ startsWith tagMark d = false
  lower : ∀ d, N d → N (std.toLower d)

/-- a query or a resolution gives the address for names of `N` only, and a query for such a name
gives nothing else -/
def Separate : NetEvent → Net Unit → Prop
  | .query exchange _ req, _ => ∀ domain answers,
      recordedBy (queryEnv std g) exchange req = some (domain, answers) →
      ∀ ip, IsAnswer answers ip → (N (std.toLower domain) ↔ ip = addr)
  | .plan a _ _ _, _ => (∀ d m r, a.resolve d m = .ok r → r.1 = addr → N d) ∧
      ∀ host r, a.resolveBootstrapHost host = .ok r → r.1 = addr → N host

def plainDNSMode : DNSMode := (mergePolicies [plainFallbackPolicy, g.defaultPolicy]).dnsMode

def liveRecord (d : Bytes) (m : DNSMode) (now : Int) (s : DnsState) : Option Bytes :=
  (s.recordedDNSIPs.get (std.toLower d)).bind fun e => (e.pruned now).byMode m

/-- No fake address is in use for `addr`.  If the reverse cache has a name for it, the name is to be
resolved, and its recorded answer has not expired or the resolver gives the address. -/
structure Current (a : Around) (now : Int) (hit : Bool) (req : RequestContext) (s : DnsState) :
    Prop where
  unused : (s.v4.lookupDomain addr now).1 = none ∧ (s.v6.lookupDomain addr now).1 = none
  leads : ∀ d, ipDomainCacheGet hit addr s = some d → req.domainTargetMode ≠ .preserve ∧
    ((liveRecord std d (plainDNSMode g) now s).isSome = true ∨
      ∃ cached, a.resolve d (plainDNSMode g) = .ok (addr, cached))

/-- no policy but the one for plain traffic, and the same address -/
def LeftAlone : Res DialPlan → Prop
  | .ok plan => plan.policy.mode = .raw ∧ plan.targetHost = addr ∧ plan.blocked = false
  | _ => False

/-- what is recorded for a name of `N`, and which names are behind the address -/
abbrev SeparateTables : Net Unit → Prop :=
  NetInv (fun d ip => N d → ip = [] ∨ ip = addr) (fun d ip => ip = addr → N d)

end

section
variable {κ τ : Type} {std : Std} {g : Globals κ τ} {N : Bytes → Prop} {addr : Bytes}

/-! ## runs -/

theorem separate_sound {a : Around} {now : Int} {hit : Bool} {req : RequestContext} {s : Net Unit}
    (h : Separate std g N addr (.plan a now hit req) s) :
    Sound (fun d ip => N d → ip = [] ∨ ip = addr) (fun d ip => ip = addr → N d) (fun _ => True) g a where
  nothing d _ := .inl rfl
  recorded d ip _ _ := trivial
  pool tag ip _ := trivial
  bootstrap host r hr := ⟨trivial, h.2 host r hr⟩
  resolve d m r hr := ⟨trivial, h.1 d m r hr⟩
  ruleHost d p _ v _ := ⟨trivial, fun _ => trivial⟩
  defaultHost v _ := ⟨trivial, fun _ => trivial⟩
  mapTo ip p _ v _ := ⟨trivial, fun _ _ _ => trivial⟩

theorem separateStep (e : NetEvent) (s : Net Unit) (he : Separate std g N addr e s)
    (hs : SeparateTables N addr s) : SeparateTables N addr (netStep std g e s) := by
  cases e with
  | query exchange now req =>
    refine query_inv (T := fun d ip => N d → ip = [] ∨ ip = addr) (fun d _ => .inl rfl)
      (fun domain answers hr ip hip => ?_) hs
    have h := he domain answers hr ip hip
    exact ⟨fun hd => .inr (h.mp hd), h.mpr⟩
  | plan a now hit req => exact ((separate_sound he).planRequest_under req s hs).1

theorem netStart_separate (cache : Bool) : SeparateTables N addr (netStart cache) := by
  refine ⟨(netStart_clean cache).wf, fun d e hd => ?_, fun calls hc p hp => ?_⟩
  · cases hd
  · cases cache with
    | true =>
      cases hc
      cases hp
    | false => cases hc

/-! ## one request -/

variable {a : Around} {now : Int} {hit : Bool} {s : Net Unit}

theorem SeparateTables.behind (hs : SeparateTables N addr s) {d : Bytes}
    (h : ipDomainCacheGet hit addr s.dns = some d) : N d := by
  unfold ipDomainCacheGet at h
  split_ifs at h
  obtain ⟨calls, hc, hl⟩ := Option.bind_eq_some_iff.mp h
  obtain ⟨p, hp, rfl⟩ := Option.map_eq_some_iff.mp hl
  have haddr : p.1 = addr := by simpa using List.find?_some hp
  exact hs.cache calls hc p (List.mem_reverse.mp (List.mem_of_find?_eq_some hp)) haddr

theorem lookupRecorded_value (std : Std) (now : Int) {d : Bytes} (hd : d ≠ []) (m : DNSMode)
    (t : DnsState) :
    (lookupRecordedDNSIP std.toLower d m now t).1 = .ok (liveRecord std d m now t) := by
  unfold lookupRecordedDNSIP liveRecord
  rw [if_neg hd]
  cases t.recordedDNSIPs.get (std.toLower d) with
  | none => rfl
  | some e =>
    dsimp only [Option.bind_some]
    by_cases he : (e.pruned now).ipv4 = [] ∧ (e.pruned now).ipv6 = []
    · rw [if_pos he]
      have hp : present? [] = none := rfl
      unfold RecordedDNSResult.byMode
      rw [he.1, he.2, hp]
      cases m with
      | ipv4Only => rfl
      | ipv6Only => rfl
      | preferIPv4 => rfl
      | preferIPv6 => rfl
      | unknown => rfl
    · rw [if_neg he]

theorem liveRecord_addr (hn : Names std g N) (hs : SeparateTables N addr s) {d ip : Bytes} (hd : N d)
    {m : DNSMode} (h : liveRecord std d m now s.dns = some ip) : ip = addr := by
  have hne := (hn.name d hd).1
  have hrec := lookupRecorded_under (C := fun d ip => ip = addr → N d)
    (fun d _ => .inl rfl) std.toLower d m now s.dns hs
  have hval := lookupRecorded_value std now hne m s.dns
  rw [h] at hval
  obtain ⟨hT, hip⟩ := hrec.2.2 _ hval ip rfl
  exact (hT (hn.lower d hd)).resolve_left hip

theorem resolveTarget_addr (a : Around) (hit : Bool) (hn : Names std g N) (hs : SeparateTables N addr s) {d : Bytes} (hd : N d)
    {m : DNSMode} (h : (liveRecord std d m now s.dns).isSome = true ∨
      ∃ cached, a.resolve d m = .ok (addr, cached)) :
    ∃ s', resolveTarget (planEnv std g a now hit) m d s = (.ok addr, s') := by
  have hval := lookupRecorded_value std now (hn.name d hd).1 m s.dns
  rcases hrun : lookupRecordedDNSIP std.toLower d m now s.dns with ⟨r, t⟩
  rw [hrun] at hval
  have hval : r = _ := hval
  subst hval
  have hrec : (planEnv std g a now hit).lookupRecordedDNSIP d m s =
      (.ok (liveRecord std d m now s.dns), { s with dns := t }) := by
    show (onDns (lookupRecordedDNSIP std.toLower d m now) : Proc (Net Unit) _) s = _
    unfold onDns
    exact zoom_eq hrun
  unfold resolveTarget
  rw [run_bind_ok hrec]
  cases hl : liveRecord std d m now s.dns with
  | some ip =>
    rw [liveRecord_addr hn hs hd hl]
    exact ⟨_, rfl⟩
  | none =>
    rw [hl] at h
    obtain ⟨cached, hres⟩ := h.resolve_left (by decide)
    have hcall : (planEnv std g a now hit).resolve d m = a.resolveCall d m := rfl
    dsimp only
    rw [hcall]
    unfold Around.resolveCall
    rw [hres]
    exact ⟨_, rfl⟩

/-- the verdict on plain traffic -/
def Untouched (addr : Bytes) (v : Verdict) : Prop :=
  v.failed = false ∧ v.blocked = false ∧ v.policy.mode = .raw ∧ v.dstHost = addr

theorem genIPPolicy_untouched (std : Std) (a : Around) (now : Int) (hit : Bool) (s : Net Unit)
    (hp : g.getIPPolicy addr = none) :
    ∃ v, genIPPolicy (planEnv std g a now hit) addr s = (.ok v, s) ∧ Untouched addr v := by
  have hred : ipRedirect (planEnv std g a now hit).toRedirects true addr s = (.ok (addr, none), s) :=
    ipRedirect_none hp
  rw [genIP_of_redirect hred, if_neg (by rw [Option.getD_none, plain_mode]; decide)]
  exact ⟨_, rfl, rfl, rfl, plain_mode _, rfl⟩

theorem routeDomain_plain (a : Around) (now : Int) (hit : Bool) (hn : Names std g N) {d : Bytes} (hd : N d) :
    routeDomain (planEnv std g a now hit) d =
      ⟨none, false, [plainFallbackPolicy, g.defaultPolicy]⟩ := by
  have hc : classifyDomainRoute (planEnv std g a now hit) d = .plain := hn.plain d hd
  unfold routeDomain
  rw [hc]
  rfl

theorem genDomainPolicy_untouched (hit : Bool) (hn : Names std g N) (hs : SeparateTables N addr s)
    (hip : isIP addr = true) (hp : g.getIPPolicy addr = none) (hq : g.defaultPolicy.host = none)
    {d : Bytes} (hd : N d) (h : (liveRecord std d (plainDNSMode g) now s.dns).isSome = true ∨
      ∃ cached, a.resolve d (plainDNSMode g) = .ok (addr, cached)) :
    ∃ v s', genDomainPolicy (planEnv std g a now hit) d true s = (.ok v, s') ∧ Untouched addr v := by
  obtain ⟨-, hname, hpool⟩ := hn.name d hd
  have hr := routeDomain_plain a now hit hn hd
  have hhost : (mergePolicies [plainFallbackPolicy, g.defaultPolicy]).host = none := by
    rw [merge_host]
    show firstSet none [none, g.defaultPolicy.host] = none
    rw [hq]
    rfl
  have hb : ¬ IsBlock (routeDomain (planEnv std g a now hit) d).domainPolicy := by
    rw [hr]
    exact fun hb => (nomatch hb)
  have ht : hostTarget (mergePolicies (routeDomain (planEnv std g a now hit) d).policies).host d =
      (d, false) := by
    rw [hr, hhost]
    rfl
  rw [genDomainPolicy_settle hb ht, locate_plain hpool hname, hr]
  obtain ⟨s1, hres⟩ := resolveTarget_addr a hit hn hs hd h
  have hred : ipRedirect (planEnv std g a now hit).toRedirects true addr s1 = (.ok (addr, none), s1) :=
    ipRedirect_none hp
  have hsettle : settle (planEnv std g a now hit) ⟨none, false, [plainFallbackPolicy, g.defaultPolicy]⟩
      false (.ok addr) s1 =
      (.ok { dstHost := addr, policy := mergePolicies [plainFallbackPolicy, g.defaultPolicy] }, s1) := by
    show (if (false || !isIP addr) = true then _ else redirectDomain _ _ addr) s1 = _
    rw [hip, if_neg (by decide)]
    unfold redirectDomain
    rw [run_bind_ok (attempt_ok hred)]
    rfl
  rw [if_pos (by decide)]
  refine ⟨_, s1, (run_bind_ok (attempt_ok hres)).trans hsettle, rfl, rfl, plain_mode _, rfl⟩

theorem leftAlone_of_current (hn : Names std g N) (hs : SeparateTables N addr s) (hip : isIP addr = true)
    (hp : g.getIPPolicy addr = none) (hq : g.defaultPolicy.host = none) {req : RequestContext}
    (hreq : req.host = addr) (hc : Current std g addr a now hit req s.dns) :
    LeftAlone addr (planRequest (planEnv std g a now hit) req s).1 := by
  have hne : addr ≠ [] := by
    intro h0
    rw [h0] at hip
    cases hip
  obtain ⟨s', hs', htab, hrec⟩ := recoverDomain_run std g a now hit hs hip
  rw [hc.unused.1, hc.unused.2, if_neg hne] at hrec
  -- either the address is planned for, or a name that is resolved to it
  obtain ⟨v, s1, hgen, hv⟩ : ∃ v s1, planVerdict (planEnv std g a now hit) req s =
      (.ok ((ipDomainCacheGet hit addr s.dns).getD [], v), s1) ∧ Untouched addr v := by
    unfold planVerdict
    rw [hreq, run_bind_ok hrec]
    cases hcache : ipDomainCacheGet hit addr s.dns with
    | none =>
      obtain ⟨v, hv, hun⟩ := genIPPolicy_untouched std a now hit s' hp
      have hgen : genPolicyWithOptions (planEnv std g a now hit) addr
          (req.domainTargetMode ≠ .preserve) s' = (.ok v, s') := by
        unfold genPolicyWithOptions
        rw [if_pos hip, hv]
      exact ⟨v, s', run_bind_ok hgen, hun⟩
    | some d =>
      have hd := hs.behind hcache
      obtain ⟨hmode, hlive⟩ := hc.leads d hcache
      have hsame : liveRecord std d (plainDNSMode g) now s'.dns =
          liveRecord std d (plainDNSMode g) now s.dns := by
        unfold liveRecord
        rw [show s'.dns.recordedDNSIPs = s.dns.recordedDNSIPs from congrArg Prod.fst htab]
      rw [← hsame] at hlive
      obtain ⟨v, s1, hv, hun⟩ := genDomainPolicy_untouched hit hn hs' hip hp hq hd hlive
      have hgen : genPolicyWithOptions (planEnv std g a now hit)
          (if d = [] then addr else d) (req.domainTargetMode ≠ .preserve) s' = (.ok v, s1) := by
        unfold genPolicyWithOptions
        rw [if_neg (hn.name d hd).1, (hn.name d hd).2.1, if_neg (by decide), decide_eq_true hmode, hv]
      exact ⟨v, s1, run_bind_ok hgen, hun⟩
  obtain ⟨hf, hb, hm, hd⟩ := hv
  unfold planRequest
  rw [if_neg (hreq ▸ hne), run_bind_ok hgen]
  show LeftAlone addr ((if v.failed = true then _ else _ : Proc (Net Unit) DialPlan) s1).1
  rw [hf, if_neg (by decide)]
  exact ⟨hm, hd, hb⟩

end

/-- **After any run of queries and requests in which only names without a rule get the address, and
these nothing else, a request for the address is left alone**, as long as the name behind it still
leads there. -/
theorem unmatched_kept {κ τ : Type} (std : Std) (g : Globals κ τ) (N : Bytes → Prop) (addr : Bytes)
    (hn : Names std g N) (hip : isIP addr = true) (hp : g.getIPPolicy addr = none)
    (hq : g.defaultPolicy.host = none) (cache : Bool) (es : List NetEvent)
    (hes : Along (netStep std g) (Separate std g N addr) es (netStart cache)) (a : Around) (now : Int)
    (hit : Bool) (req : RequestContext) (hreq : req.host = addr)
    (hc : Current std g addr a now hit req (runAll (netStep std g) es (netStart cache)).dns) :
    LeftAlone addr (planRequest (planEnv std g a now hit) req
      (runAll (netStep std g) es (netStart cache))).1 :=
  leftAlone_of_current hn (hes.invariant separateStep (netStart_separate cache)) hip hp hq hreq hc

/-! ## a name with one address, and with two -/

def openQuery : Msg := { question := [⟨lit "open.example.", typeA, classINET⟩] }

/-- a minute for every address -/
def answersOf (req : Msg) (ips : List IP) : Msg :=
  { req with answer := ips.map fun ip => ⟨⟨lit "open.example.", typeA, classINET, 60⟩, .a ip⟩ }

def queried (req : Msg) (ips : List IP) : NetEvent := .query (fun _ => .ok (answersOf req ips)) 0 req

def openRequest : RequestContext := { host := lit "192.0.2.1", port := 443 }

def openRun : List NetEvent := [queried openQuery [[192, 0, 2, 1]], queried ruleQuery [[192, 0, 2, 7]]]

theorem separate_queried {std : Std} {g : Globals Unit Unit} {N : Bytes → Prop} {addr domain : Bytes}
    {req : Msg} {ip : IP} {s : Net Unit}
    (hr : recordedBy (queryEnv std g) (fun _ => .ok (answersOf req [ip])) req =
      some (domain, (answersOf req [ip]).answer))
    (h : N (std.toLower domain) ↔ ipString ip = addr) :
    Separate std g N addr (queried req [ip]) s := by
  intro d answers hd x hx
  have hd : recordedBy (queryEnv std g) (fun _ => .ok (answersOf req [ip])) req = some (d, answers) := hd
  rw [hr] at hd
  cases hd
  obtain ⟨rr, hrr, y, hy, rfl⟩ := hx
  cases List.mem_singleton.mp hrr
  rcases hy with hy | hy
  · cases hy
    exact h
  · cases hy

theorem openRun_separate : Along (netStep asciiStd oneRuleGlobals)
    (Separate asciiStd oneRuleGlobals (· = lit "open.example") (lit "192.0.2.1")) openRun
    (netStart true) := by
  refine ⟨?_, ?_, trivial⟩
  · apply separate_queried (show _ = some (lit "open.example", _) by decide +kernel)
    decide +kernel
  · apply separate_queried (show _ = some (lit "blocked.example", _) by decide +kernel)
    decide +kernel

theorem openRun_current : Current asciiStd oneRuleGlobals (lit "192.0.2.1") unreachable second true
    openRequest (runAll (netStep asciiStd oneRuleGlobals) openRun (netStart true)).dns := by
  refine ⟨⟨by decide +kernel, by decide +kernel⟩, fun d hd => ⟨by decide, .inl ?_⟩⟩
  have hopen : ipDomainCacheGet true (lit "192.0.2.1")
      (runAll (netStep asciiStd oneRuleGlobals) openRun (netStart true)).dns =
        some (lit "open.example") := by decide +kernel
  rw [hopen] at hd
  cases hd
  decide +kernel

theorem unmatched_kept_one :
    LeftAlone (lit "192.0.2.1") (planRequest (planEnv asciiStd oneRuleGlobals unreachable second true)
      openRequest (runAll (netStep asciiStd oneRuleGlobals) openRun (netStart true))).1 := by
  refine unmatched_kept asciiStd oneRuleGlobals (· = lit "open.example") (lit "192.0.2.1")
    ⟨?_, ?_, ?_⟩ (by decide +kernel) rfl rfl true openRun openRun_separate unreachable second true
    openRequest rfl openRun_current
  · rintro d rfl
    decide +kernel
  · rintro d rfl
    decide +kernel
  · rintro d rfl
    show asciiStd.toLower (lit "open.example") = lit "open.example"
    decide +kernel

/-- a request for the first of two addresses goes to the second; and another name that has a rule and
the same address takes the request over -/
theorem unmatched_diverted :
    (handleDNSQuery (queryEnv asciiStd oneRuleGlobals) 0
      (fun _ => .ok (answersOf openQuery [[192, 0, 2, 1], [192, 0, 2, 2]])) 0 openQuery {}).1 =
      .ok (answersOf openQuery [[192, 0, 2, 1], [192, 0, 2, 2]]) ∧
    ((planRequest (planEnv asciiStd oneRuleGlobals unreachable second true) openRequest >>=
      fun plan => pure (plan.targetHost, plan.policy.mode))
      (runAll (netStep asciiStd oneRuleGlobals) [queried openQuery [[192, 0, 2, 1], [192, 0, 2, 2]]]
        (netStart true))).1 = .ok (lit "192.0.2.2", .raw) ∧
    ((planRequest (planEnv asciiStd oneRuleGlobals unreachable second true) openRequest >>=
      fun plan => pure (plan.targetHost, plan.policy.mode))
      (runAll (netStep asciiStd oneRuleGlobals) [queried openQuery [[192, 0, 2, 1]],
        queried ruleQuery [[192, 0, 2, 1]]] (netStart true))).1 = .ok (lit "192.0.2.1", .tlsrf) := by
  refine ⟨?_, ?_, ?_⟩
  · decide +kernel
  · decide +kernel
  · decide +kernel

end Bill
