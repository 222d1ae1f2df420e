import BillVpn.Dns.Lifetime
import BillVpn.Go.Hoare
import BillVpn.Routing.Recorded

/-!
# DNS queries and requests, one after the other

The DNS state is written by queries and by the resolver, and read by requests.

* `Around`                 what pools, bootstrap resolution and resolver answer during one request;
* `planEnv`                routing with these answers; what is resolved goes to the reverse cache;
* `NetEvent`, `netStep`    queries and requests, each at its reading of the clock;
* `DnsInv T C`             every recorded address satisfies `T`, every pair of the reverse cache `C`;
* `query_inv`, `genPolicy_under`, `planRequest_under`   **what is answered from outside decides what
                           is in the tables and where a request goes**.
-/

set_option linter.unusedVariables false

namespace Bill
open Go Proc

/-- the answers, and with the last two whether they come from the cache -/
structure Around where
  getFromIPPool : Bytes → Except String Bytes
  resolveBootstrapHost : Bytes → Except String (Bytes × Bool)
  resolve : Bytes → DNSMode → Except String (Bytes × Bool)

section
variable {κ τ : Type} (std : Std) (g : Globals κ τ)

/-- `Resolve` of the default resolver (what the server answered, `doDNSResolve` has stored as well) -/
def Around.resolveCall (a : Around) (domain : Bytes) (dnsMode : DNSMode) :
    Proc (Net Unit) (Bytes × Bool) := do
  let r ← lift (.ofExcept (a.resolve domain dnsMode))
  onDns (modify (rememberDomainIPMapping domain r.1))
  pure r

def Around.bootstrapCall (a : Around) (host : Bytes) : Proc (Net Unit) Bytes :=
  if host = [] ∨ isIP host = true then pure host
  else do
    let r ← lift (.ofExcept (a.resolveBootstrapHost host))
    if r.2 then pure r.1
    else do
      onDns (modify (rememberDomainIPMapping host r.1))
      pure r.1

def Around.runtime (a : Around) : Env (Net Unit) where
  lower := id
  domainFind := fun _ => none
  isGFWDomain := fun _ => false
  defaultPolicy := {}
  getIPPolicy := fun _ => none
  getFromIPPool := fun tag => lift (.ofExcept (a.getFromIPPool tag))
  resolveBootstrapHost := a.bootstrapCall
  lookupRecordedDNSIP := fun _ _ => pure none
  resolve := a.resolveCall
  lookupDomain := fun _ => pure []

def planEnv (a : Around) (now : Int) (hit : Bool) : Env (Net Unit) := g.dnsEnv std a.runtime now hit

inductive NetEvent where
  | query (exchange : Msg → Res Msg) (now : Int) (req : Msg)
  | plan (a : Around) (now : Int) (hit : Bool) (req : RequestContext)

def unreachable : Around :=
  ⟨fun _ => .error "no ip pools", fun _ => .error "no such host", fun _ _ => .error "no server"⟩

/-- what a query reads of the configuration; it calls nothing of the rest -/
def queryEnv : Env (Net Unit) := g.env std unreachable.runtime

def netStep : NetEvent → Net Unit → Net Unit
  | .query exchange now req, s =>
    { s with dns := (handleDNSQuery (queryEnv std g) g.dnsCacheTTL exchange now req s.dns).2 }
  | .plan a now hit req, s => (planRequest (planEnv std g a now hit) req s).2

end

/-! ## the tables -/

def DnsState.tables (s : DnsState) : GoMap Bytes RecordedDNSResult × Option (List (Bytes × Bytes)) :=
  (s.recordedDNSIPs, s.ipDomainCache)

structure DnsInv (T C : Bytes → Bytes → Prop) (s : DnsState) : Prop where
  wf : s.WF
  recorded : ∀ d e, s.recordedDNSIPs.get d = some e → T d e.ipv4 ∧ T d e.ipv6
  cache : ∀ calls, s.ipDomainCache = some calls → ∀ p ∈ calls, C p.2 p.1

section
variable {T C : Bytes → Bytes → Prop} {s : DnsState}

theorem DnsInv.remember (hs : DnsInv T C s) {domain ip : Bytes} (h : C domain ip) :
    DnsInv T C (rememberDomainIPMapping domain ip s) := by
  unfold rememberDomainIPMapping
  split_ifs with h0
  · exact hs
  · refine ⟨⟨hs.wf.v4, hs.wf.v6, hs.wf.is4, hs.wf.is6⟩, hs.recorded, fun calls hc p hp => ?_⟩
    obtain ⟨old, hold, rfl⟩ := Option.map_eq_some_iff.mp hc
    rcases List.mem_append.mp hp with hp | hp
    · exact hs.cache old hold p hp
    · rw [List.mem_singleton.mp hp]
      exact h

theorem DnsInv.of_tables {s' : DnsState} (hs : DnsInv T C s) (hwf : s'.WF) (h : s'.tables = s.tables) :
    DnsInv T C s' := by
  have hrec : s'.recordedDNSIPs = s.recordedDNSIPs := congrArg Prod.fst h
  have hcache : s'.ipDomainCache = s.ipDomainCache := congrArg Prod.snd h
  exact ⟨hwf, hrec ▸ hs.recorded, hcache ▸ hs.cache⟩

def IsAnswer (answers : List RR) (ip : Bytes) : Prop :=
  ∃ rr ∈ answers, ∃ a, (rr.data = .a a ∨ rr.data = .aaaa a) ∧ ipString a = ip

theorem rememberAnswer_inv {d : Bytes} (now : Int) {rr : RR}
    (h : ∀ ip, IsAnswer [rr] ip → T d ip ∧ C d ip) {st : RecordedDNSResult × DnsState}
    (he : T d st.1.ipv4 ∧ T d st.1.ipv6) (hs : DnsInv T C st.2) :
    (T d (rememberAnswer d now st rr).1.ipv4 ∧ T d (rememberAnswer d now st rr).1.ipv6) ∧
      DnsInv T C (rememberAnswer d now st rr).2 := by
  unfold rememberAnswer
  cases hd : rr.data with
  | a ip =>
    have hip := h (ipString ip) ⟨rr, List.mem_singleton_self rr, ip, .inl hd, rfl⟩
    exact ⟨⟨hip.1, he.2⟩, hs.remember hip.2⟩
  | aaaa ip =>
    have hip := h (ipString ip) ⟨rr, List.mem_singleton_self rr, ip, .inr hd, rfl⟩
    exact ⟨⟨he.1, hip.1⟩, hs.remember hip.2⟩
  | other => exact ⟨he, hs⟩

theorem rememberAnswers_inv {d : Bytes} (now : Int) (answers : List RR) :
    ∀ st : RecordedDNSResult × DnsState, (∀ ip, IsAnswer answers ip → T d ip ∧ C d ip) →
      (T d st.1.ipv4 ∧ T d st.1.ipv6) → DnsInv T C st.2 →
      (T d (answers.foldl (rememberAnswer d now) st).1.ipv4 ∧
        T d (answers.foldl (rememberAnswer d now) st).1.ipv6) ∧
        DnsInv T C (answers.foldl (rememberAnswer d now) st).2 := by
  induction answers with
  | nil =>
    intro st h he hs
    exact ⟨he, hs⟩
  | cons rr answers ih =>
    intro st h he hs
    have hone : ∀ ip, IsAnswer [rr] ip → T d ip ∧ C d ip := by
      rintro ip ⟨x, hx, a, hd, rfl⟩
      rw [List.mem_singleton.mp hx] at hd
      exact h _ ⟨rr, List.mem_cons_self, a, hd, rfl⟩
    obtain ⟨he', hs'⟩ := rememberAnswer_inv now hone he hs
    refine ih _ (fun ip hip => ?_) he' hs'
    obtain ⟨x, hx, a, hd, rfl⟩ := hip
    exact h _ ⟨x, List.mem_cons_of_mem _ hx, a, hd, rfl⟩

theorem rememberRecorded_inv {σ : Type} {env : Env σ} {domain : Bytes} {answers : List RR} {now : Int}
    (h0 : ∀ d, T d []) (h : ∀ ip, IsAnswer answers ip → T (env.lower domain) ip ∧ C (env.lower domain) ip)
    (hs : DnsInv T C s) : DnsInv T C (rememberRecordedDNSAnswers env domain answers now s) := by
  unfold rememberRecordedDNSAnswers
  split_ifs with hd
  · exact hs
  · have hold : T (env.lower domain) ((s.recordedDNSIPs.get (env.lower domain)).getD {}).ipv4 ∧
        T (env.lower domain) ((s.recordedDNSIPs.get (env.lower domain)).getD {}).ipv6 := by
      cases hg : s.recordedDNSIPs.get (env.lower domain) with
      | none => exact ⟨h0 _, h0 _⟩
      | some e => exact hs.recorded _ e hg
    obtain ⟨he, hs'⟩ := rememberAnswers_inv now answers (_, s) h hold hs
    dsimp only
    split_ifs with hempty
    · exact hs'
    · refine ⟨⟨hs'.wf.v4, hs'.wf.v6, hs'.wf.is4, hs'.wf.is6⟩, fun d e hg => ?_, hs'.cache⟩
      rw [GoMap.get_set] at hg
      split_ifs at hg with hk
      · cases hg
        rw [hk]
        exact he
      · exact hs'.recorded d e hg

/-! ## queries -/

section
variable {σ : Type} {env : Env σ} {dnsCacheTTL : Int}

theorem allocateFakeIP_tables (domain : Bytes) (qtype ttl : Nat) (now : Int) :
    Keeps DnsState.tables (allocateFakeIP env dnsCacheTTL domain qtype ttl now) := by
  unfold allocateFakeIP
  exact Keeps.ite (fun s => rfl) (Keeps.ite (fun s => rfl) (Keeps.fail _))

theorem rewriteAnswers_tables (domain : Bytes) (qtype : Nat) (now : Int) (rrs : List RR) :
    ∀ w, Keeps DnsState.tables (rewriteAnswers env dnsCacheTTL domain qtype now rrs w) := by
  induction rrs with
  | nil => exact fun w => Keeps.pure w
  | cons rr rrs ih =>
    intro w
    refine Keeps.bind ?_ fun w' => ih w'
    unfold rewriteRR
    refine Keeps.ite (Keeps.pure _) (Keeps.bind ?_ fun ip => Keeps.lift _)
    unfold ensureFakeIP
    exact Keeps.ite (allocateFakeIP_tables domain qtype _ now).wrap (Keeps.pure _)

theorem fakeReply_tables (domain : Bytes) (qtype : Nat) (now : Int) (question : Question) (resp : Msg) :
    Keeps DnsState.tables (fakeReply env dnsCacheTTL domain qtype now question resp) := by
  unfold fakeReply
  refine Keeps.bind (rewriteAnswers_tables domain qtype now _ _) fun w =>
    Keeps.ite (Keeps.pure _) ?_
  unfold fallbackAnswer
  exact Keeps.bind (allocateFakeIP_tables domain qtype _ now).wrap fun ip =>
    Keeps.bind (Keeps.lift _) fun rr => Keeps.pure _

/-- the name and the answers that a query records -/
def recordedBy (env : Env σ) (exchange : Msg → Res Msg) (req : Msg) : Option (Bytes × List RR) :=
  match req.question with
  | [question] =>
    if question.qclass = classINET ∧ (question.qtype = typeA ∨ question.qtype = typeAAAA) then
      match exchange req with
      | .ok resp =>
        if resp.rcode = rcodeSuccess then some (queryDomain env question, resp.answer) else none
      | _ => none
    else none
  | _ => none

theorem handleDNSQuery_tables (env : Env σ) (dnsCacheTTL : Int) (exchange : Msg → Res Msg) (now : Int)
    (req : Msg) (s : DnsState) :
    (handleDNSQuery env dnsCacheTTL exchange now req s).2.tables =
      match recordedBy env exchange req with
      | some (domain, answers) => (rememberRecordedDNSAnswers env domain answers now s).tables
      | none => s.tables := by
  unfold handleDNSQuery recordedBy
  rcases hreq : req.question with _ | ⟨question, _ | ⟨second, rest⟩⟩
  · rfl
  · dsimp only
    by_cases hc : question.qclass = classINET
    · rw [if_neg (not_not.mpr hc)]
      by_cases ht : question.qtype = typeA ∨ question.qtype = typeAAAA
      · rw [if_pos ht, if_pos ⟨hc, ht⟩]
        unfold buildFakeAddressResponse
        cases hex : exchange req with
        | ok resp =>
          rw [run_bind_ok (wrap_ok (run_lift _ s))]
          unfold answerFrom
          dsimp only
          by_cases hrc : resp.rcode = rcodeSuccess
          · rw [if_neg (not_not.mpr hrc), if_pos hrc, run_bind_ok (run_modify _ s)]
            by_cases hu : shouldUseFakeIP env (queryDomain env question) = true
            · rw [if_pos hu]
              exact fakeReply_tables _ _ now question resp _
            · rw [if_neg hu]
              rfl
          · rw [if_pos hrc, if_neg hrc]
            rfl
        | err e => rfl
        | panic => rfl
      · rw [if_neg ht, if_neg fun h => ht h.2]
        rfl
    · rw [if_pos hc, if_neg fun h => hc h.1]
      rfl
  · rfl

theorem query_inv (h0 : ∀ d, T d []) {exchange : Msg → Res Msg} {now : Int} {req : Msg}
    (h : ∀ domain answers, recordedBy env exchange req = some (domain, answers) →
      ∀ ip, IsAnswer answers ip → T (env.lower domain) ip ∧ C (env.lower domain) ip)
    (hs : DnsInv T C s) : DnsInv T C (handleDNSQuery env dnsCacheTTL exchange now req s).2 := by
  have hwf : (handleDNSQuery env dnsCacheTTL exchange now req s).2.WF :=
    dnsStep_wf hs.wf (.query exchange now req)
  have htab := handleDNSQuery_tables env dnsCacheTTL exchange now req s
  cases hr : recordedBy env exchange req with
  | none =>
    rw [hr] at htab
    exact hs.of_tables hwf htab
  | some r =>
    rw [hr] at htab
    exact (rememberRecorded_inv h0 (h r.1 r.2 hr) hs).of_tables hwf htab

end

/-! ## lookups -/

theorem lookupFake_under (ip : Bytes) (now : Int) :
    Under (DnsInv T C) (lookupFakeDomainByIP ip now) fun _ => True := by
  intro s hs
  have htab : (lookupFakeDomainByIP ip now s).2.tables = s.tables := by
    rw [lookupFake_run]
    cases (s.v4.lookupDomain ip now).1 with
    | some d => rfl
    | none => rfl
  refine ⟨hs.of_tables (lookupFake_wf hs.wf ip now) htab, ?_, fun _ _ => trivial⟩
  rw [lookupFake_run]
  cases (s.v4.lookupDomain ip now).1 with
  | some d => exact fun hp => (nomatch hp)
  | none => exact fun hp => (nomatch hp)

theorem lookupDomainByIP_under (hit : Bool) (ip : Bytes) (now : Int) :
    Under (DnsInv T C) (lookupDomainByIP hit ip now) fun _ => True := by
  refine Under.bind (lookupFake_under ip now) fun r _ => ?_
  cases r with
  | some domain => exact Under.pure trivial
  | none => exact fun s hs => ⟨hs, fun hp => (nomatch hp), fun _ _ => trivial⟩

theorem lookupDomainByIP_value (hit : Bool) (ip : Bytes) (now : Int) (s : DnsState) :
    (lookupDomainByIP hit ip now s).1 = .ok ((s.v4.lookupDomain ip now).1 <|>
      (s.v6.lookupDomain ip now).1 <|> if ip = [] then none else ipDomainCacheGet hit ip s) := by
  unfold lookupDomainByIP
  rw [run_bind, lookupFake_run]
  cases (s.v4.lookupDomain ip now).1 with
  | some d => rfl
  | none =>
    cases (s.v6.lookupDomain ip now).1 with
    | some d => rfl
    | none => rfl

theorem byMode_mem {e : RecordedDNSResult} {m : DNSMode} {ip : Bytes} (h : e.byMode m = some ip) :
    (ip = e.ipv4 ∨ ip = e.ipv6) ∧ ip ≠ [] := by
  have hp : ∀ {x}, present? x = some ip → ip = x ∧ ip ≠ [] := by
    intro x hx
    unfold present? at hx
    split_ifs at hx with h0
    cases hx
    exact ⟨rfl, h0⟩
  have hor : ∀ {x y}, (present? x <|> present? y) = some ip → (ip = x ∨ ip = y) ∧ ip ≠ [] := by
    intro x y hxy
    cases hx : present? x with
    | some z =>
      rw [hx] at hxy
      cases hxy
      exact ⟨.inl (hp hx).1, (hp hx).2⟩
    | none =>
      rw [hx] at hxy
      exact ⟨.inr (hp hxy).1, (hp hxy).2⟩
  cases m with
  | ipv4Only => exact ⟨.inl (hp h).1, (hp h).2⟩
  | ipv6Only => exact ⟨.inr (hp h).1, (hp h).2⟩
  | preferIPv6 => exact ⟨(hor h).1.symm, (hor h).2⟩
  | preferIPv4 => exact hor h
  | unknown => exact hor h

theorem pruned_cases (e : RecordedDNSResult) (now : Int) :
    ((e.pruned now).ipv4 = [] ∨ (e.pruned now).ipv4 = e.ipv4) ∧
      ((e.pruned now).ipv6 = [] ∨ (e.pruned now).ipv6 = e.ipv6) := by
  unfold RecordedDNSResult.pruned
  constructor
  · dsimp only
    split_ifs
    · exact .inr rfl
    · exact .inl rfl
  · dsimp only
    split_ifs
    · exact .inr rfl
    · exact .inl rfl

theorem lookupRecorded_under (h0 : ∀ d, T d []) (lower : Bytes → Bytes) (domain : Bytes) (m : DNSMode)
    (now : Int) : Under (DnsInv T C) (lookupRecordedDNSIP lower domain m now) fun r =>
      ∀ ip, r = some ip → T (lower domain) ip ∧ ip ≠ [] := by
  intro s hs
  have hnone : ∀ {s' : DnsState}, DnsInv T C s' → DnsInv T C s' ∧ (Res.ok (none : Option Bytes)) ≠ .panic ∧
      ∀ a, Res.ok (none : Option Bytes) = .ok a → ∀ ip, a = some ip → T (lower domain) ip ∧ ip ≠ [] := by
    intro s' hs'
    refine ⟨hs', (fun hp => by cases hp), fun a ha ip hip => ?_⟩
    cases ha
    cases hip
  unfold lookupRecordedDNSIP
  by_cases hd : domain = []
  · rw [if_pos hd]
    exact hnone hs
  rw [if_neg hd]
  cases hg : s.recordedDNSIPs.get (lower domain) with
  | none => exact hnone hs
  | some e =>
    have he : T (lower domain) (e.pruned now).ipv4 ∧ T (lower domain) (e.pruned now).ipv6 := by
      obtain ⟨h4, h6⟩ := hs.recorded _ e hg
      obtain ⟨hp4, hp6⟩ := pruned_cases e now
      constructor
      · rcases hp4 with h | h
        · rw [h]
          exact h0 _
        · rw [h]
          exact h4
      · rcases hp6 with h | h
        · rw [h]
          exact h0 _
        · rw [h]
          exact h6
    dsimp only
    by_cases hempty : (e.pruned now).ipv4 = [] ∧ (e.pruned now).ipv6 = []
    · rw [if_pos hempty]
      refine hnone ⟨⟨hs.wf.v4, hs.wf.v6, hs.wf.is4, hs.wf.is6⟩, fun d e' hd' => ?_, hs.cache⟩
      rw [GoMap.get_del] at hd'
      split_ifs at hd' with hk
      exact hs.recorded d e' hd'
    · rw [if_neg hempty]
      refine ⟨⟨⟨hs.wf.v4, hs.wf.v6, hs.wf.is4, hs.wf.is6⟩, fun d e' hd' => ?_, hs.cache⟩,
        (fun hp => by cases hp), fun a ha ip hip => ?_⟩
      · rw [GoMap.get_set] at hd'
        split_ifs at hd' with hk
        · cases hd'
          rw [hk]
          exact he
        · exact hs.recorded d e' hd'
      · cases ha
        obtain ⟨hmem, hne⟩ := byMode_mem hip
        refine ⟨?_, hne⟩
        rcases hmem with h | h
        · rw [h]
          exact he.1
        · rw [h]
          exact he.2

/-! ## requests -/

abbrev NetInv (T C : Bytes → Bytes → Prop) (s : Net Unit) : Prop := DnsInv T C s.dns

theorem onDns_under {α : Type} {x : Proc DnsState α} {P : α → Prop} (h : Under (DnsInv T C) x P) :
    Under (NetInv T C) (onDns x) P :=
  Under.zoom (fun s hs => hs) (fun s t hs ht => ht) h

/-- a `host` value: the text that is dialed, without its caret -/
def HostOk (V : Bytes → Prop) (host : Option Bytes) : Prop :=
  ∀ v, host = some v → V v ∧ (startsWith caret v = true → V (v.drop 1))

/-- a `map_to` value: an address, or the addresses that a block gives -/
def MapOk (V : Bytes → Prop) (mapTo : Option Bytes) : Prop :=
  ∀ v, mapTo = some v → V v ∧ ∀ ip t, transformIP ip v = .ok t → V t

/-- what configuration and answers say: the targets satisfy `V`, and what is stored `C` -/
structure Sound {κ τ : Type} (T C : Bytes → Bytes → Prop) (V : Bytes → Prop) (g : Globals κ τ)
    (a : Around) : Prop where
  nothing : ∀ d, T d []
  recorded : ∀ d ip, T d ip → ip ≠ [] → V ip
  pool : ∀ tag ip, a.getFromIPPool tag = .ok ip → V ip
  bootstrap : ∀ host r, a.resolveBootstrapHost host = .ok r → V r.1 ∧ C host r.1
  resolve : ∀ d m r, a.resolve d m = .ok r → V r.1 ∧ C d r.1
  ruleHost : ∀ d p, g.domainFind d = some p → HostOk V p.host
  defaultHost : HostOk V g.defaultPolicy.host
  mapTo : ∀ ip p, g.getIPPolicy ip = some p → MapOk V p.mapTo

section
variable {κ τ : Type} {std : Std} {g : Globals κ τ} {a : Around} {now : Int} {hit : Bool}
  {V : Bytes → Prop}

theorem ofExcept_under {α : Type} {x : Except String α} {P : α → Prop} (h : ∀ r, x = .ok r → P r) :
    Under (NetInv T C) (lift (.ofExcept x)) P := by
  refine Under.lift ?_ fun r hr => h r (Res.ofExcept_eq_ok.mp hr)
  cases x with
  | error e => exact fun hp => (nomatch hp)
  | ok r => exact fun hp => (nomatch hp)

theorem Sound.pool_under (h : Sound T C V g a) (tag : Bytes) :
    Under (NetInv T C) ((planEnv std g a now hit).getFromIPPool tag) V := ofExcept_under (h.pool tag)

theorem remember_under {domain ip : Bytes} (h : C domain ip) :
    Under (NetInv T C) (onDns (modify (rememberDomainIPMapping domain ip))) fun _ => True :=
  onDns_under (Under.modify fun s hs => hs.remember h)

theorem Sound.resolve_under (h : Sound T C V g a) (d : Bytes) (m : DNSMode) :
    Under (NetInv T C) (a.resolveCall d m) fun r => V r.1 := by
  unfold Around.resolveCall
  refine Under.bind (ofExcept_under (h.resolve d m)) fun r hr => ?_
  exact Under.bind (remember_under hr.2) fun _ _ => Under.pure hr.1

theorem Sound.bootstrap_under (h : Sound T C V g a) {host : Bytes} (hv : V host) :
    Under (NetInv T C) (a.bootstrapCall host) V := by
  unfold Around.bootstrapCall
  refine Under.ite (fun _ => Under.pure hv) fun _ => ?_
  refine Under.bind (ofExcept_under (h.bootstrap host)) fun r hr => ?_
  refine Under.ite (fun _ => Under.pure hr.1) fun _ => ?_
  exact Under.bind (remember_under hr.2) fun _ _ => Under.pure hr.1

theorem transformIP_ne_panic (ip target : Bytes) : transformIP ip target ≠ .panic := by
  unfold transformIP
  cases parseAddr ip with
  | none => exact fun hp => (nomatch hp)
  | some x =>
    cases parsePfx target with
    | none => exact fun hp => (nomatch hp)
    | some net =>
      dsimp only
      by_cases hv : x.is4 ≠ net.addr.is4
      · rw [if_pos hv]
        exact fun hp => (nomatch hp)
      · rw [if_neg hv]
        have hlen : ∀ f : Nat → UInt8, ((List.range (if x.is4 then 4 else 16)).map f).length = 4 ∨
            ((List.range (if x.is4 then 4 else 16)).map f).length = 16 := by
          intro f
          rw [List.length_map, List.length_range]
          cases x.is4
          · exact .inr rfl
          · exact .inl rfl
        obtain ⟨b, hb⟩ := addrFromSlice_isSome (hlen _)
        rw [hb]
        exact fun hp => (nomatch hp)

theorem Sound.mapTarget_under (h : Sound T C V g a) (ip : Bytes) {mapTo : Bytes}
    (hm : MapOk V (some mapTo)) :
    Under (NetInv T C) (mapTarget (planEnv std g a now hit).toRedirects ip mapTo) V := by
  obtain ⟨hv, ht⟩ := hm mapTo rfl
  unfold mapTarget
  refine Under.ite (fun _ => h.pool_under _) fun _ => Under.ite (fun _ => ?_) fun _ =>
    Under.ite (fun _ => Under.pure hv) fun _ => h.bootstrap_under hv
  exact Under.lift (transformIP_ne_panic ip mapTo) fun t => ht ip t

theorem Sound.ipRedirect_under (h : Sound T C V g a) (ip : Bytes) :
    Under (NetInv T C) (ipRedirect (planEnv std g a now hit).toRedirects true ip)
      fun r => V r.1 ∨ r.1 = ip := by
  rw [ipRedirect_logged]
  refine Under.bind (P := fun t => V t ∨ t = ip) ?_ fun t ht => Under.pure ht
  rcases moved_cases (planEnv std g a now hit).toRedirects ip with hm | ⟨p, c, cs, hp, hmap, hm⟩
  · rw [hm]
    exact Under.pure (.inr rfl)
  · rw [hm]
    have hok := h.mapTo ip p hp
    rw [hmap] at hok
    exact (h.mapTarget_under ip hok).weaken fun t ht => .inl ht

/-- it fails, is blocked, or goes to a target, if the host was one -/
def Reaches (V : Bytes → Prop) (h : Bytes) (v : Verdict) : Prop :=
  V h → v.failed = true ∨ v.blocked = true ∨ V v.dstHost

theorem Sound.genIPPolicy_under (h : Sound T C V g a) (host : Bytes) :
    Under (NetInv T C) (genIPPolicy (planEnv std g a now hit) host) (Reaches V host) := by
  refine Under.bind (h.ipRedirect_under host).attempt fun r hr => ?_
  cases r with
  | error e => exact Under.pure fun _ => .inl rfl
  | ok r =>
    refine Under.ite (fun _ => Under.pure fun _ => .inr (.inl rfl)) fun _ => Under.pure fun hv => ?_
    rcases hr r rfl with hd | hd
    · exact .inr (.inr hd)
    · rw [← hd] at hv
      exact .inr (.inr hv)

theorem HostOk.merge {p q : Policy} (hp : HostOk V p.host) (hq : HostOk V q.host) :
    HostOk V (mergePolicies [p, q]).host := by
  rw [merge_host]
  show HostOk V (firstSet none [p.host, q.host])
  cases hh : p.host with
  | none =>
    rw [firstSet_cons_unset]
    cases hq' : q.host with
    | none => exact fun v hv => (nomatch hv)
    | some w =>
      rw [firstSet_cons_set (by simp)]
      exact hq' ▸ hq
  | some w =>
    rw [firstSet_cons_set (by simp)]
    exact hh ▸ hp

theorem Sound.route_host (h : Sound T C V g a) (host : Bytes) :
    HostOk V (mergePolicies (routeDomain (planEnv std g a now hit) host).policies).host := by
  have hnone : ∀ p : Policy, p.host = none → HostOk V p.host := by
    intro p hp v hv
    rw [hp] at hv
    cases hv
  rcases routeDomain_cases (planEnv std g a now hit) host with ⟨d, hd, hr⟩ | hr | hr
  · rw [hr]
    exact (h.ruleHost host d hd).merge h.defaultHost
  · rw [hr]
    exact (hnone gfwFallbackPolicy rfl).merge h.defaultHost
  · rw [hr]
    exact (hnone plainFallbackPolicy rfl).merge h.defaultHost

theorem HostOk.target {host : Option Bytes} (hh : HostOk V host) {h : Bytes} (hv : V h) :
    V (hostTarget host h).1 := by
  unfold hostTarget
  cases host with
  | none => exact hv
  | some v =>
    obtain ⟨h1, h2⟩ := hh v rfl
    dsimp only
    split_ifs with h3 h4 h5
    · exact hv
    · exact hv
    · exact h2 h5
    · exact h1

theorem Sound.locate_under (h : Sound T C V g a) (b skip : Bool) (m : DNSMode) (x : Bytes) :
    Under (NetInv T C) (locate (planEnv std g a now hit) b skip m x) fun y => V x → V y := by
  have hpool : Under (NetInv T C) (poolTarget (planEnv std g a now hit) x) fun y => V x → V y :=
    Under.ite (fun _ => (h.pool_under _).weaken fun y hy _ => hy) fun _ => Under.pure fun hv => hv
  refine Under.bind hpool fun y hy => Under.ite (fun _ => ?_) fun _ => Under.pure hy
  have hrec := onDns_under (lookupRecorded_under (C := C) h.nothing std.toLower y m now)
  refine Under.bind hrec fun r hr => ?_
  cases r with
  | some ip =>
    obtain ⟨ht, hne⟩ := hr ip rfl
    exact Under.pure fun _ => h.recorded _ ip ht hne
  | none => exact Under.bind (h.resolve_under y m) fun r hr => Under.pure fun _ => hr

theorem Sound.redirectDomain_under (h : Sound T C V g a) (r : Route) (x : Bytes) :
    Under (NetInv T C) (redirectDomain (planEnv std g a now hit) r x) (Reaches V x) := by
  refine Under.bind (h.ipRedirect_under x).attempt fun res hres => ?_
  cases res with
  | error e => exact Under.pure fun _ => .inl rfl
  | ok res =>
    obtain ⟨dst, ipPolicy⟩ := res
    have hdst : V x → V dst := by
      intro hv
      rcases hres (dst, ipPolicy) rfl with hd | hd
      · exact hd
      · have hd : dst = x := hd
        rw [hd]
        exact hv
    cases ipPolicy with
    | none => exact Under.pure fun hv => .inr (.inr (hdst hv))
    | some p =>
      exact Under.ite (fun _ => Under.pure fun _ => .inr (.inl rfl)) fun _ =>
        Under.pure fun hv => .inr (.inr (hdst hv))

theorem Sound.genDomainPolicy_under (h : Sound T C V g a) (host : Bytes) (b : Bool) :
    Under (NetInv T C) (genDomainPolicy (planEnv std g a now hit) host b) (Reaches V host) := by
  have hhost : HostOk V (mergePolicies (routeDomain (planEnv std g a now hit) host).policies).host :=
    h.route_host host
  unfold genDomainPolicy
  dsimp only
  refine Under.ite (fun _ => Under.pure fun _ => .inr (.inl rfl)) fun _ => ?_
  refine Under.bind (h.locate_under b _ _ _).attempt fun res hres => ?_
  cases res with
  | error e => exact Under.pure fun _ => .inl rfl
  | ok y =>
    have hy : V host → V y := fun hv => hres y rfl (hhost.target hv)
    refine Under.ite (fun _ => Under.pure fun hv => .inr (.inr (hy hv))) fun _ => ?_
    exact (h.redirectDomain_under _ y).weaken fun v hv hh => hv (hy hh)

/-- **A request for a target goes to a target**, and the tables stay as they should be. -/
theorem Sound.genPolicy_under (h : Sound T C V g a) (host : Bytes) (b : Bool) :
    Under (NetInv T C) (genPolicyWithOptions (planEnv std g a now hit) host b) (Reaches V host) :=
  Under.ite (fun _ => h.genIPPolicy_under host) fun _ => h.genDomainPolicy_under host b

theorem lookupDomain_under (hit : Bool) (now : Int) (ip : Bytes) :
    Under (NetInv T C) (lookupDomain hit now ip : Proc (Net Unit) Bytes) fun _ => True :=
  Under.bind (onDns_under (lookupDomainByIP_under hit ip now)) fun d _ => Under.pure trivial

theorem lookupDomain_value (hit : Bool) (now : Int) (ip : Bytes) (s : Net Unit) :
    (lookupDomain hit now ip s).1 = .ok (((s.dns.v4.lookupDomain ip now).1 <|>
      (s.dns.v6.lookupDomain ip now).1 <|>
        if ip = [] then none else ipDomainCacheGet hit ip s.dns).getD []) := by
  have h := lookupDomainByIP_value hit ip now s.dns
  unfold lookupDomain
  rcases hr : lookupDomainByIP hit ip now s.dns with ⟨r, t⟩
  rw [hr] at h
  have hd : (onDns (lookupDomainByIP hit ip now) : Proc (Net Unit) _) s = (r, { s with dns := t }) :=
    zoom_eq hr
  have h : r = _ := h
  rw [h] at hd
  rw [run_bind_ok hd]
  rfl

theorem lookupDomain_tables (hit : Bool) (now : Int) (ip : Bytes) :
    Keeps (fun s : Net Unit => s.dns.tables) (lookupDomain hit now ip) := by
  have hfake : Keeps DnsState.tables (lookupFakeDomainByIP ip now) := by
    refine Keeps.bind (fun s => rfl) fun r => ?_
    cases r with
    | some d => exact Keeps.pure _
    | none => exact fun s => rfl
  have hby : Keeps DnsState.tables (lookupDomainByIP hit ip now) := by
    refine Keeps.bind hfake fun r => ?_
    cases r with
    | some d => exact Keeps.pure _
    | none => exact fun s => rfl
  exact Keeps.bind (fun s => hby s.dns) fun d => Keeps.pure _

theorem recoverDomain_run (std : Std) (g : Globals κ τ) (a : Around) (now : Int) (hit : Bool)
    {host : Bytes} {s : Net Unit} (hs : NetInv T C s) (hip : isIP host = true) :
    ∃ s', NetInv T C s' ∧ s'.dns.tables = s.dns.tables ∧ recoverDomain (planEnv std g a now hit) host s =
      (.ok (((s.dns.v4.lookupDomain host now).1 <|> (s.dns.v6.lookupDomain host now).1 <|>
        if host = [] then none else ipDomainCacheGet hit host s.dns).getD []), s') := by
  have hval := lookupDomain_value hit now host s
  have hinv := (lookupDomain_under hit now host s hs).1
  refine ⟨_, hinv, lookupDomain_tables hit now host s, ?_⟩
  unfold recoverDomain
  rw [if_pos hip, ← hval]
  rfl

theorem Sound.planRequest_under (h : Sound T C V g a) (req : RequestContext) :
    Under (NetInv T C) (planRequest (planEnv std g a now hit) req) fun _ => True := by
  refine Under.ite (fun _ => Under.fail _) fun _ => Under.bind (P := fun _ => True) ?_ fun r _ =>
    Under.ite (fun _ => Under.fail _) fun _ => Under.pure trivial
  refine Under.bind (P := fun _ => True) ?_ fun d _ => ?_
  · exact Under.ite (fun _ => lookupDomain_under hit now req.host) fun _ => Under.pure trivial
  · exact Under.bind (h.genPolicy_under _ _) fun v _ => Under.pure trivial

end

end

end Bill
