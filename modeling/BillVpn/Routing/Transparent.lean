import BillVpn.Routing.FakeDial

/-!
# A fake address stands for its name

The app asks for a name, gets a fake address, and connects to that address; the proxy gives the
connection to the plan of the name.  Between the answer and the connection other queries and other
requests run, which read the stores and take out what has expired.

* `EnvKeeps f env`       nothing that routing calls changes what `f` observes;
* `EnvKeeps.genPolicy`   then routing changes nothing of it;
* `plan_stays`           a request keeps what is known of the stores, if lookups do;
* `fake_transparent`     **until its TTL is over, a request for the fake address has the plan of the
                         name**, along every run of lasting queries and of requests.
-/

set_option linter.unusedVariables false

namespace Bill
open Go Proc

/-! ## what routing leaves alone -/

section
variable {σ γ : Type} {f : σ → γ} {env : Env σ}

structure EnvKeeps (f : σ → γ) (env : Env σ) : Prop where
  pool : ∀ tag, Keeps f (env.getFromIPPool tag)
  bootstrap : ∀ host, Keeps f (env.resolveBootstrapHost host)
  recorded : ∀ d m, Keeps f (env.lookupRecordedDNSIP d m)
  resolve : ∀ d m, Keeps f (env.resolve d m)

theorem EnvKeeps.mapTarget (h : EnvKeeps f env) (ip mapTo : Bytes) :
    Keeps f (mapTarget env.toRedirects ip mapTo) :=
  Keeps.ite (h.pool _) (Keeps.ite (Keeps.lift _) (Keeps.ite (Keeps.pure _) (h.bootstrap _)))

theorem EnvKeeps.ipRedirect (h : EnvKeeps f env) (ip : Bytes) :
    Keeps f (ipRedirect env.toRedirects true ip) := by
  rw [ipRedirect_logged]
  refine Keeps.bind ?_ fun t => Keeps.pure _
  rcases moved_cases env.toRedirects ip with hm | ⟨p, c, cs, -, -, hm⟩
  · rw [hm]
    exact Keeps.pure _
  · rw [hm]
    exact h.mapTarget ip _

theorem EnvKeeps.locate (h : EnvKeeps f env) (b skip : Bool) (m : DNSMode) (host : Bytes) :
    Keeps f (locate env b skip m host) := by
  refine Keeps.bind (Keeps.ite (h.pool _) (Keeps.pure _)) fun x => Keeps.ite ?_ (Keeps.pure _)
  refine Keeps.bind (h.recorded x m) fun r => ?_
  cases r with
  | some ip => exact Keeps.pure _
  | none => exact Keeps.bind (h.resolve x m) fun r => Keeps.pure _

theorem EnvKeeps.genIPPolicy (h : EnvKeeps f env) (host : Bytes) : Keeps f (genIPPolicy env host) := by
  refine Keeps.bind (h.ipRedirect host).attempt fun r => ?_
  cases r with
  | error e => exact Keeps.pure _
  | ok r => exact Keeps.ite (Keeps.pure _) (Keeps.pure _)

theorem EnvKeeps.redirectDomain (h : EnvKeeps f env) (r : Route) (host : Bytes) :
    Keeps f (redirectDomain env r host) := by
  refine Keeps.bind (h.ipRedirect host).attempt fun res => ?_
  rcases res with e | ⟨dst, _ | p⟩
  · exact Keeps.pure _
  · exact Keeps.pure _
  · exact Keeps.ite (Keeps.pure _) (Keeps.pure _)

theorem EnvKeeps.genPolicy (h : EnvKeeps f env) (host : Bytes) (b : Bool) :
    Keeps f (genPolicyWithOptions env host b) := by
  refine Keeps.ite (h.genIPPolicy host) ?_
  unfold genDomainPolicy
  dsimp only
  refine Keeps.ite (Keeps.pure _) (Keeps.bind (h.locate b _ _ _).attempt fun res => ?_)
  cases res with
  | error e => exact Keeps.pure _
  | ok dst => exact Keeps.ite (Keeps.pure _) (h.redirectDomain _ dst)

end

/-! ## a request and the stores -/

def Net.stores (s : Net Unit) : FakeIPStore × FakeIPStore := (s.dns.v4, s.dns.v6)

section
variable {κ τ : Type} (std : Std) (g : Globals κ τ)

theorem remember_keeps (domain ip : Bytes) :
    Keeps Net.stores (onDns (modify (rememberDomainIPMapping domain ip)) : Proc (Net Unit) Unit) := by
  intro s
  show ((rememberDomainIPMapping domain ip s.dns).v4, (rememberDomainIPMapping domain ip s.dns).v6) = _
  unfold rememberDomainIPMapping
  split_ifs
  · rfl
  · rfl

theorem planEnv_keeps (a : Around) (now : Int) (hit : Bool) :
    EnvKeeps Net.stores (planEnv std g a now hit) where
  pool tag := Keeps.lift _
  bootstrap host := by
    refine Keeps.ite (Keeps.pure _) (Keeps.bind (Keeps.lift _) fun r => Keeps.ite (Keeps.pure _) ?_)
    exact Keeps.bind (remember_keeps host r.1) fun _ => Keeps.pure _
  recorded d m := by
    intro s
    show (((lookupRecordedDNSIP std.toLower d m now s.dns).2.v4,
      (lookupRecordedDNSIP std.toLower d m now s.dns).2.v6)) = _
    unfold lookupRecordedDNSIP
    split_ifs
    · rfl
    · split
      · rfl
      · dsimp only
        split_ifs
        · rfl
        · rfl
  resolve d m := Keeps.bind (Keeps.lift _) fun r => Keeps.bind (remember_keeps d r.1) fun _ =>
    Keeps.pure _

variable {std} {g}

theorem plan_stays {I : DnsState → Prop} (hI : ∀ s s', SameStores s s' → I s → I s') {now : Int}
    (hlookup : ∀ ip, Stays I (lookupFakeDomainByIP ip now)) (a : Around) (hit : Bool)
    (req : RequestContext) :
    Stays (fun s => I s.dns) (planRequest (planEnv std g a now hit) req) := by
  have hgen : ∀ host b, Stays (fun s => I s.dns)
      (genPolicyWithOptions (planEnv std g a now hit) host b) := by
    intro host b
    refine ((planEnv_keeps std g a now hit).genPolicy host b).stays fun s s' h hs => ?_
    exact hI _ _ ⟨congrArg Prod.fst h, congrArg Prod.snd h⟩ hs
  have hrec : Stays (fun s => I s.dns) (lookupDomain hit now req.host : Proc (Net Unit) Bytes) := by
    refine Stays.bind (Stays.zoom (J := I) ?_ (fun s hs => hs) fun s t hs ht => ht)
      fun _ => Stays.pure _
    refine Stays.bind (hlookup req.host) fun r => ?_
    cases r with
    | some domain => exact Stays.pure _
    | none => exact fun s hs => hs
  refine Stays.ite (Stays.lift (.err _)) (Stays.bind (Stays.bind ?_ fun domain => ?_) fun r => ?_)
  · exact Stays.ite hrec (Stays.pure _)
  · exact Stays.bind (hgen _ _) fun v => Stays.pure _
  · exact Stays.ite (Stays.lift (.err _)) (Stays.pure _)

/-! ## a live entry -/

/-- the stores are well formed, and one of them keeps the address for the name until `deadline` -/
def Bound (qtype : Nat) (d ip : Bytes) (deadline : Int) (s : DnsState) : Prop :=
  s.WF ∧ Holds qtype d ip deadline s

variable {qtype : Nat} {d ip : Bytes} {deadline : Int}

theorem Bound.of_same {s s' : DnsState} (h : SameStores s s') (hs : Bound qtype d ip deadline s) :
    Bound qtype d ip deadline s' := by
  obtain ⟨hwf, e, he, hip, hle⟩ := hs
  exact ⟨h.wf hwf, e, by rw [h.store]; exact he, hip, hle⟩

theorem lookup_bound {now : Int} (hnow : now < deadline) (host : Bytes) :
    Stays (Bound qtype d ip deadline) (lookupFakeDomainByIP host now) := by
  intro s hs
  have hstep : Holds qtype d ip deadline
      (DnsEvent.step unreachable.runtime 0 (.lookup host now) s) :=
    step_holds (fun _ => rfl) hs.1 trivial hnow hs.2
  exact ⟨lookupFake_wf hs.1 host now, hstep⟩

theorem lookupDomain_live {t : FakeIPStore} {now : Int} {e : FakeIPEntry}
    (h : t.ipToEntry.get ip = some e) (hlive : now < e.expiresAt) :
    t.lookupDomain ip now = (some e.domain, t) := by
  unfold FakeIPStore.lookupDomain
  rw [h]
  exact if_pos (decide_eq_true hlive)

theorem Holds.lookup_run {now : Int} {s : DnsState} (h : Holds qtype d ip deadline s) (hs : s.WF)
    (hnow : now < deadline) : lookupFakeDomainByIP ip now s = (.ok (some d), s) := by
  obtain ⟨e, he, rfl, hle⟩ := h
  obtain ⟨rfl, hip⟩ := (hs.store qtype).paired.forth he
  have hlive : now < e.expiresAt := Int.lt_of_lt_of_le hnow hle
  rw [lookupFake_run]
  unfold DnsState.store at hip
  by_cases hq : qtype = typeA
  · rw [if_pos hq] at hip
    rw [lookupDomain_live hip hlive]
  · rw [if_neg hq] at hip
    have h4 : s.v4.lookupDomain e.ip now = (none, s.v4) := by
      unfold FakeIPStore.lookupDomain
      rw [Option.eq_none_iff_forall_ne_some.mpr fun e' h4 => stores_disjoint hs h4 hip]
    rw [h4, lookupDomain_live hip hlive]

theorem Bound.lookup_run {now : Int} {s : Net Unit} (h : Bound qtype d ip deadline s.dns)
    (hnow : now < deadline) (hit : Bool) : lookupDomain hit now ip s = (.ok d, s) := by
  have hdns : lookupDomainByIP hit ip now s.dns = (.ok (some d), s.dns) := by
    unfold lookupDomainByIP
    rw [run_bind_ok (h.2.lookup_run h.1 hnow)]
    rfl
  unfold lookupDomain
  rw [run_bind_ok (show onDns (lookupDomainByIP hit ip now) s = (.ok (some d), s) by
    unfold onDns zoom
    rw [hdns])]
  rfl

/-! ## the plan of an address and the plan of its name -/

theorem Bound.isIP {s : DnsState} (h : Bound qtype d ip deadline s) : isIP ip = true := by
  obtain ⟨hwf, e, he, rfl, -⟩ := h
  obtain ⟨rfl, hip⟩ := (hwf.store qtype).paired.forth he
  obtain ⟨a, ha, hz, -⟩ := held_addr (hwf.store qtype) hip
  rw [← ha]
  unfold Go.isIP
  rw [parseIP_text hz]
  cases a with
  | v4 n => rfl
  | v6 n z => rfl

/-- what the request for the address adds to the plan of the name -/
def DialPlan.behind (ip d : Bytes) (p : DialPlan) : DialPlan :=
  { p with originHost := ip, recoveredDomain := d }

theorem planRequest_recovered {σ : Type} {env : Env σ} (req : RequestContext) {r : Bytes} {s : σ}
    (hne : req.host ≠ []) (hrec : recoverDomain env req.host s = (.ok r, s)) :
    planRequest env req s =
      (genPolicyWithOptions env (if r = [] then req.host else r) (req.domainTargetMode ≠ .preserve) >>=
        fun v => if v.failed then fail "failed to resolve dial plan" else pure (planOf req r v)) s := by
  have hv : planVerdict env req s =
      (genPolicyWithOptions env (if r = [] then req.host else r) (req.domainTargetMode ≠ .preserve) >>=
        fun v => pure (r, v)) s := by
    unfold planVerdict
    rw [run_bind_ok hrec]
  unfold planRequest
  rw [if_neg hne]
  rcases hgen : genPolicyWithOptions env (if r = [] then req.host else r)
    (req.domainTargetMode ≠ .preserve) s with ⟨res, s1⟩
  cases res with
  | ok v => rw [run_bind_ok (hv.trans (run_bind_ok hgen)), run_bind_ok hgen]
  | err e => rw [run_bind_err (hv.trans (run_bind_err hgen)), run_bind_err hgen]
  | panic => rw [run_bind_panic (hv.trans (run_bind_panic hgen)), run_bind_panic hgen]

theorem planRequest_bound {now : Int} {s : Net Unit} (h : Bound qtype d ip deadline s.dns)
    (hnow : now < deadline) (hd : d ≠ []) (hname : Go.isIP d = false) (a : Around) (hit : Bool)
    (req : RequestContext) :
    planRequest (planEnv std g a now hit) { req with host := ip } s =
      (planRequest (planEnv std g a now hit) { req with host := d } >>= fun p =>
        pure (p.behind ip d)) s := by
  have hip : ip ≠ [] := by
    rintro rfl
    exact absurd h.isIP (by decide)
  have haddr : recoverDomain (planEnv std g a now hit) ip s = (.ok d, s) := by
    unfold recoverDomain
    rw [if_pos h.isIP]
    exact h.lookup_run hnow hit
  have hdom : recoverDomain (planEnv std g a now hit) d s = (.ok [], s) := by
    unfold recoverDomain
    rw [hname]
    rfl
  have hplan := planRequest_recovered { req with host := d } hd hdom
  rw [planRequest_recovered { req with host := ip } hip haddr, if_neg hd]
  rcases hgen : genPolicyWithOptions (planEnv std g a now hit) d (req.domainTargetMode ≠ .preserve) s
    with ⟨res, s1⟩
  cases res with
  | ok v =>
    rw [run_bind_ok hgen]
    rw [if_pos rfl, run_bind_ok hgen] at hplan
    by_cases hf : v.failed = true
    · rw [if_pos hf] at hplan ⊢
      rw [run_bind_err hplan]
      rfl
    · rw [if_neg hf] at hplan ⊢
      rw [run_bind_ok hplan]
      rfl
  | err e =>
    rw [if_pos rfl, run_bind_err hgen] at hplan
    rw [run_bind_err hgen, run_bind_err hplan]
  | panic =>
    rw [if_pos rfl, run_bind_panic hgen] at hplan
    rw [run_bind_panic hgen, run_bind_panic hplan]

/-! ## runs -/

def NetEvent.now : NetEvent → Int
  | .query _ now _ => now
  | .plan _ now _ _ => now

/-- a request has no part in how long an entry lasts -/
def NetLasting (std : Std) (g : Globals κ τ) : NetEvent → Net Unit → Prop
  | .query exchange now req, s => Lasting (queryEnv std g) g.dnsCacheTTL (.query exchange now req) s.dns
  | .plan _ _ _ _, _ => True

theorem netStep_wf (e : NetEvent) {s : Net Unit} (hs : s.dns.WF) : (netStep std g e s).dns.WF := by
  cases e with
  | query exchange now req => exact dnsStep_wf hs (.query exchange now req)
  | plan a now hit req =>
    exact plan_stays (fun s s' h hs => h.wf hs) (fun ip s hs => lookupFake_wf hs ip now) a hit req s hs

theorem netStep_bound (hlower : ∀ b, std.toLower (std.toLower b) = std.toLower b) {e : NetEvent}
    {s : Net Unit} (hlast : NetLasting std g e s) (hnow : e.now < deadline)
    (h : Bound qtype d ip deadline s.dns) : Bound qtype d ip deadline (netStep std g e s).dns := by
  cases e with
  | query exchange now req =>
    have hlast : Lasting (queryEnv std g) g.dnsCacheTTL (.query exchange now req) s.dns := hlast
    exact ⟨dnsStep_wf h.1 (.query exchange now req), step_holds hlower h.1 hlast hnow h.2⟩
  | plan a now hit req =>
    exact plan_stays (fun s s' => Bound.of_same) (lookup_bound hnow) a hit req s h

theorem queryDomain_ne_nil {exchange : Msg → Res Msg} {req resp : Msg} {question : Question}
    (hf : fakeQuery (queryEnv std g) exchange req = some (question, resp))
    (hlower : ∀ b, std.toLower (std.toLower b) = std.toLower b) :
    queryDomain (queryEnv std g) question ≠ [] := by
  obtain ⟨-, -, -, huse, -⟩ := fakeQuery_eq_some hf
  intro h0
  have hnil : (queryEnv std g).lower [] = [] := by
    rw [← h0]
    exact hlower _
  unfold shouldUseFakeIP classifyDomainRoute at huse
  dsimp only at huse
  rw [h0, if_pos hnil] at huse
  cases huse

/-- **Until its TTL is over, the fake address stands for the name**: along any run of lasting queries
and of requests with a clock that does not go back, a request for the address has the plan of the
name, and leaves the same state. -/
theorem fake_transparent (std : Std) (g : Globals κ τ)
    (hlower : ∀ b, std.toLower (std.toLower b) = std.toLower b) (cache : Bool)
    (before after : List NetEvent) (exchange : Msg → Res Msg) (now time : Int)
    (req reply resp : Msg) (question : Question) (rr : RR) (a : Around) (hit : Bool)
    (rq : RequestContext)
    (hlast : Along (netStep std g) (NetLasting std g) (before ++ .query exchange now req :: after)
      (netStart cache))
    (hclock : ((before ++ .query exchange now req :: after).map NetEvent.now ++ [time]).Pairwise
      (· ≤ ·))
    (hf : fakeQuery (queryEnv std g) exchange req = some (question, resp))
    (hok : (handleDNSQuery (queryEnv std g) g.dnsCacheTTL exchange now req
      (runAll (netStep std g) before (netStart cache)).dns).1 = .ok reply)
    (hrr : rr ∈ reply.answer) (hq : rr.hdr.rrtype = question.qtype)
    (htime : time < now + rr.hdr.ttl * second)
    (hname : isIP (queryDomain (queryEnv std g) question) = false) :
    planRequest (planEnv std g a time hit) { rq with host := rr.ipText }
        (runAll (netStep std g) (before ++ .query exchange now req :: after) (netStart cache)) =
      (planRequest (planEnv std g a time hit)
          { rq with host := queryDomain (queryEnv std g) question } >>= fun p =>
        pure (p.behind rr.ipText (queryDomain (queryEnv std g) question)))
        (runAll (netStep std g) (before ++ .query exchange now req :: after) (netStart cache)) := by
  have hle : ∀ ev ∈ after, ev.now ≤ time := by
    intro ev hev
    refine (List.pairwise_append.mp hclock).2.2 ev.now ?_ time (List.mem_singleton.mpr rfl)
    exact List.mem_map_of_mem (List.mem_append_right _ (List.mem_cons_of_mem _ hev))
  obtain ⟨hlast1, hquery, hlast2⟩ := along_append.mp hlast
  have hs : (runAll (netStep std g) before (netStart cache)).dns.WF :=
    hlast1.invariant (I := fun s => s.dns.WF) (fun ev s _ hs => netStep_wf ev hs)
      (netStart_clean cache).wf
  have hhold := query_holds hs hlower hquery hf hok hrr hq
  rw [runAll_append, runAll_cons]
  have hinv := (Along.of_forall hle hlast2).invariant
    (I := fun s => Bound question.qtype (queryDomain (queryEnv std g) question) rr.ipText
      (now + rr.hdr.ttl * second) s.dns)
    (fun ev s hev hI => netStep_bound hlower hev.1 (Int.lt_of_le_of_lt hev.2 htime) hI)
    ⟨dnsStep_wf hs (.query exchange now req), hhold⟩
  exact planRequest_bound hinv htime (queryDomain_ne_nil hf hlower) hname a hit rq

end

/-! ## one answer -/

/-- the answer of a minute, and a request for the name in between -/
def nameRequest : RequestContext := { host := lit "blocked.example", port := 443 }

theorem fake_transparent_minute :
    planRequest (planEnv asciiStd oneRuleGlobals unreachable (59 * second) false)
        { nameRequest with host := lit "198.18.0.1" }
        (runAll (netStep asciiStd oneRuleGlobals) ([] ++ .query (ruleAnswer 60) 0 ruleQuery ::
          [.plan unreachable second false nameRequest]) (netStart true)) =
      (planRequest (planEnv asciiStd oneRuleGlobals unreachable (59 * second) false)
          { nameRequest with host := lit "blocked.example" } >>= fun p =>
        pure (p.behind (lit "198.18.0.1") (lit "blocked.example")))
        (runAll (netStep asciiStd oneRuleGlobals) ([] ++ .query (ruleAnswer 60) 0 ruleQuery ::
          [.plan unreachable second false nameRequest]) (netStart true)) := by
  have hfake : fakeQuery (queryEnv asciiStd oneRuleGlobals) (ruleAnswer 60) ruleQuery =
      some (⟨lit "blocked.example.", typeA, classINET⟩, aRecords [(lit "blocked.example.", 60)]) := by
    decide +kernel
  have h := fake_transparent asciiStd oneRuleGlobals lowerCase_asciiLower.idem true []
    [.plan unreachable second false nameRequest] (ruleAnswer 60) 0 (59 * second) ruleQuery
    { ruleQuery with answer := [⟨⟨lit "blocked.example.", typeA, classINET, 60⟩, .a [198, 18, 0, 1]⟩] }
    _ _ ⟨⟨lit "blocked.example.", typeA, classINET, 60⟩, .a [198, 18, 0, 1]⟩ unreachable false
    nameRequest
    ⟨fun question resp hq => by
      rw [hfake] at hq
      cases hq
      exact ⟨by decide +kernel, fun e he => by cases he⟩, trivial, trivial⟩
    (by decide +kernel) hfake (by decide +kernel) (by decide +kernel) rfl (by decide +kernel)
    (by decide +kernel)
  rwa [show RR.ipText ⟨⟨lit "blocked.example.", typeA, classINET, 60⟩, .a [198, 18, 0, 1]⟩ =
      lit "198.18.0.1" by decide +kernel,
    show queryDomain (queryEnv asciiStd oneRuleGlobals) ⟨lit "blocked.example.", typeA, classINET⟩ =
      lit "blocked.example" by decide +kernel] at h

end Bill
