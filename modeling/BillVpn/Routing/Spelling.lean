import BillVpn.Dns.Reply
import BillVpn.Go.Spelling
import BillVpn.Go.TwoRuns
import BillVpn.Routing.CaseFold
import BillVpn.Routing.Net

/-!
# One address, spelled in two ways

The rules for addresses are looked up in the trie that a colon in the text selects.  The fake stores
and the reverse cache are looked up under the text itself.

* `SpelledAlike`     two texts of one address;
* `rule_iff`         the same rule, if the colons agree or no IPv4 rule covers the address;
* `fake_iff`         the same name from the fake stores, if neither text is held;
* `SeesOnly`         the calls of routing depend on a view of the state only;
* `planned_alike`    texts that are held nowhere have the same plans;
* `spelling_iff`     **two texts are treated alike if and only if** they are held nowhere and reach
                     the same rules, for every configuration and every state that can be reached.
-/

set_option linter.unusedVariables false

namespace Bill
open Go Proc FakeIPStore

/-- texts that `net.ParseIP` accepts and reads as the same address -/
structure SpelledAlike (a b : Bytes) : Prop where
  address : isIP a = true
  same : parseIP a = parseIP b

section
variable {a b : Bytes}

theorem SpelledAlike.symm (h : SpelledAlike a b) : SpelledAlike b a := by
  refine ⟨?_, h.same.symm⟩
  have ha := h.address
  unfold isIP at ha ⊢
  rw [← h.same]
  exact ha

theorem SpelledAlike.parsed (h : SpelledAlike a b) : ∃ x y, parseAddr a = some x ∧
    parseAddr b = some y ∧ x.zone = [] ∧ y.zone = [] ∧ x.wide = y.wide := by
  obtain ⟨x, hx, hxz⟩ := isIP_iff.mp h.address
  obtain ⟨y, hy, hyz⟩ := isIP_iff.mp h.symm.address
  have hsame := h.same
  rw [parseIP_of hx hxz, parseIP_of hy hyz] at hsame
  exact ⟨x, y, hx, hy, hxz, hyz, Addr.wide_eq hsame⟩

theorem isIPv6_eq {x : Addr} (h : parseAddr a = some x) : isIPv6 a = !x.is4 := by
  unfold isIPv6
  have hiff := colon_iff h
  cases h4 : x.is4 with
  | true =>
    rw [h4] at hiff
    exact decide_eq_false fun hc => (nomatch hiff.mp hc)
  | false => exact decide_eq_true (hiff.mpr h4)

/-! ## rules -/

theorem IPv4Trie.find_spelled {α : Type} (t : IPTrie α) (h : SpelledAlike a b) :
    IPv4Trie.find t a = IPv4Trie.find t b := by
  obtain ⟨x, y, hx, hy, hxz, hyz, hw⟩ := h.parsed
  unfold IPv4Trie.find
  rw [hx, hy]
  dsimp only
  rw [Addr.unmap_eq hxz hyz hw]

theorem SpelledAlike.parseAddr_eq (h : SpelledAlike a b) (h6 : isIPv6 a = isIPv6 b) :
    parseAddr a = parseAddr b := by
  obtain ⟨x, y, hx, hy, hxz, hyz, hw⟩ := h.parsed
  rw [isIPv6_eq hx, isIPv6_eq hy] at h6
  rw [hx, hy, Addr.eq_of_wide hxz hyz (Bool.not_inj h6) hw]

theorem getIPPolicy_family (m : IPTrie Policy × IPTrie Policy) (h : SpelledAlike a b)
    (h6 : isIPv6 a = isIPv6 b) : getIPPolicy m a = getIPPolicy m b := by
  unfold getIPPolicy IPv4Trie.find IPv6Trie.find
  rw [h6, h.parseAddr_eq h6]

theorem getIPPolicy_mapped (m : IPTrie Policy × IPTrie Policy) (h : SpelledAlike a b)
    (ha : isIPv6 a = false) (hb : isIPv6 b = true) :
    getIPPolicy m a = IPv4Trie.find m.1 a ∧ getIPPolicy m b = none := by
  obtain ⟨x, y, hx, hy, hxz, hyz, hw⟩ := h.parsed
  unfold getIPPolicy
  rw [ha, hb, if_neg Bool.false_ne_true, if_pos rfl]
  refine ⟨rfl, ?_⟩
  rw [isIPv6_eq hx] at ha
  have h4 : y.unmap.is4 = true := by
    cases x with
    | v4 n => rw [← Addr.unmap_eq hxz hyz hw]; rfl
    | v6 n z => cases ha
  unfold IPv6Trie.find
  rw [hy]
  dsimp only
  rw [if_pos h4]

theorem getIPPolicy_split (m : IPTrie Policy × IPTrie Policy) (h : SpelledAlike a b)
    (h6 : isIPv6 a ≠ isIPv6 b) :
    (getIPPolicy m a = IPv4Trie.find m.1 a ∧ getIPPolicy m b = none) ∨
      (getIPPolicy m a = none ∧ getIPPolicy m b = IPv4Trie.find m.1 a) := by
  cases ha : isIPv6 a with
  | false =>
    have hb : isIPv6 b = true := Bool.eq_true_of_not_eq_false fun hb => h6 (ha.trans hb.symm)
    exact .inl (getIPPolicy_mapped m h ha hb)
  | true =>
    have hb : isIPv6 b = false := Bool.eq_false_of_not_eq_true fun hb => h6 (ha.trans hb.symm)
    obtain ⟨h1, h2⟩ := getIPPolicy_mapped m h.symm hb ha
    exact .inr ⟨h2, h1.trans (IPv4Trie.find_spelled m.1 h).symm⟩

theorem rule_iff (m : IPTrie Policy × IPTrie Policy) (h : SpelledAlike a b) :
    getIPPolicy m a = getIPPolicy m b ↔ isIPv6 a = isIPv6 b ∨ IPv4Trie.find m.1 a = none := by
  by_cases h6 : isIPv6 a = isIPv6 b
  · exact ⟨fun _ => .inl h6, fun _ => getIPPolicy_family m h h6⟩
  · refine Iff.trans ?_ (or_iff_right h6).symm
    rcases getIPPolicy_split m h h6 with ⟨h1, h2⟩ | ⟨h1, h2⟩
    · rw [h1, h2]
    · rw [h1, h2]
      exact eq_comm

end

/-! ## fake addresses -/

/-- one of the stores holds the text for a name, at this time -/
def LiveIn (s : DnsState) (ip : Bytes) (now : Int) : Prop :=
  ∃ qtype e, (s.store qtype).ipToEntry.get ip = some e ∧ now < e.expiresAt

section
variable {s : DnsState} {ip a b : Bytes} {now : Int}

theorem lookupFake_live (hs : s.WF) {qtype : Nat} {e : FakeIPEntry}
    (h : (s.store qtype).ipToEntry.get ip = some e) (hnow : now < e.expiresAt) :
    (lookupFakeDomainByIP ip now s).1 = .ok (some e.domain) := by
  rw [lookupFake_held hs h, lookup_live h hnow]

theorem lookupDomain_dead {t : FakeIPStore}
    (h : ∀ e, t.ipToEntry.get ip = some e → ¬ now < e.expiresAt) : (t.lookupDomain ip now).1 = none := by
  unfold FakeIPStore.lookupDomain
  cases he : t.ipToEntry.get ip with
  | none => rfl
  | some e =>
    dsimp only
    rw [if_neg]
    exact fun hl => h e he (of_decide_eq_true hl)

theorem stores_dead (h : ¬ LiveIn s ip now) :
    (s.v4.lookupDomain ip now).1 = none ∧ (s.v6.lookupDomain ip now).1 = none :=
  ⟨lookupDomain_dead fun e he hnow => h ⟨typeA, e, he, hnow⟩,
    lookupDomain_dead fun e he hnow => h ⟨typeAAAA, e, he, hnow⟩⟩

theorem lookupFake_dead (h : ¬ LiveIn s ip now) : (lookupFakeDomainByIP ip now s).1 = .ok none := by
  obtain ⟨h4, h6⟩ := stores_dead h
  rw [lookupFake_run, h4, h6]

theorem held_v4 (hs : s.WF) {e : FakeIPEntry} (h : s.v4.ipToEntry.get ip = some e) :
    ∃ x, parseAddr ip = some x ∧ x.wide < 2 ^ 127 := by
  obtain ⟨x, rfl, -, hl⟩ := held_addr hs.v4 h
  refine ⟨x, parseAddr_text x, ?_⟩
  rw [hs.is4] at hl
  cases x with
  | v4 n =>
    have hn := n.isLt
    show 0xffff * 2 ^ 32 + n.val < 2 ^ 127
    omega
  | v6 n z => exact absurd (show 128 = 32 from hl) (by decide)

theorem held_v6 (hs : s.WF) (hp : s.v6.pfx = defaultFakeIPv6Store.pfx) {e : FakeIPEntry}
    (h : s.v6.ipToEntry.get ip = some e) :
    ∃ x, parseAddr ip = some x ∧ 2 ^ 127 ≤ x.wide := by
  obtain ⟨k, x, hk, -, hx, rfl⟩ := hs.v6.held h
  obtain ⟨hl, -, hv⟩ := Addr.withVal_eq_some.mp hx
  refine ⟨x, parseAddr_text x, ?_⟩
  have hbig : 2 ^ 127 ≤ k := by
    have hfirst : 2 ^ 127 ≤ defaultFakeIPv6Store.pfx.addr.val := by decide
    unfold first at hk
    rw [hp] at hk
    omega
  rw [hs.is6] at hl
  cases x with
  | v4 n => exact absurd (show 32 = 128 from hl) (by decide)
  | v6 n z =>
    show 2 ^ 127 ≤ n.val
    rw [show n.val = k from hv]
    exact hbig

theorem held_wide (hs : s.WF) (hp : s.v6.pfx = defaultFakeIPv6Store.pfx) {q : Nat} {e : FakeIPEntry}
    (h : (s.store q).ipToEntry.get ip = some e) :
    ∃ x, parseAddr ip = some x ∧ (q = typeA ↔ x.wide < 2 ^ 127) := by
  unfold DnsState.store at h
  by_cases hA : q = typeA
  · rw [if_pos hA] at h
    obtain ⟨x, hx, hlt⟩ := held_v4 hs h
    exact ⟨x, hx, iff_of_true hA hlt⟩
  · rw [if_neg hA] at h
    obtain ⟨x, hx, hge⟩ := held_v6 hs hp h
    exact ⟨x, hx, iff_of_false hA (Nat.not_lt.mpr hge)⟩

theorem held_once (hs : s.WF) (hp : s.v6.pfx = defaultFakeIPv6Store.pfx) (h : SpelledAlike a b)
    {q q' : Nat} {e e' : FakeIPEntry} (ha : (s.store q).ipToEntry.get a = some e)
    (hb : (s.store q').ipToEntry.get b = some e') (hd : e.domain = e'.domain) : a = b := by
  obtain ⟨x, y, hx, hy, -, -, hw⟩ := h.parsed
  obtain ⟨x', hx', hxq⟩ := held_wide hs hp ha
  obtain ⟨y', hy', hyq⟩ := held_wide hs hp hb
  cases hx.symm.trans hx'
  cases hy.symm.trans hy'
  have hq : (q = typeA) = (q' = typeA) := by
    rw [hw] at hxq
    exact propext (hxq.trans hyq.symm)
  -- one store, and in it one text for each name
  rw [DnsState.store_congr hq] at ha
  obtain ⟨rfl, hea⟩ := (hs.store q').paired.back ha
  obtain ⟨rfl, heb⟩ := (hs.store q').paired.back hb
  rw [hd, heb] at hea
  rw [Option.some.inj hea]

theorem fake_iff (hs : s.WF) (hp : s.v6.pfx = defaultFakeIPv6Store.pfx) (h : SpelledAlike a b)
    (hne : a ≠ b) :
    (lookupFakeDomainByIP a now s).1 = (lookupFakeDomainByIP b now s).1 ↔
      ¬ LiveIn s a now ∧ ¬ LiveIn s b now := by
  refine ⟨fun heq => ?_, fun ⟨ha, hb⟩ => by rw [lookupFake_dead ha, lookupFake_dead hb]⟩
  have hnone : ∀ {x y : Bytes}, SpelledAlike x y → x ≠ y →
      (lookupFakeDomainByIP x now s).1 = (lookupFakeDomainByIP y now s).1 → ¬ LiveIn s x now := by
    rintro x y hxy hne heq ⟨q, e, he, hnow⟩
    rw [lookupFake_live hs he hnow] at heq
    by_cases hy : LiveIn s y now
    · obtain ⟨q', e', he', hnow'⟩ := hy
      rw [lookupFake_live hs he' hnow'] at heq
      exact hne (held_once hs hp hxy he he' (Option.some.inj (Res.ok.inj heq)))
    · rw [lookupFake_dead hy] at heq
      cases heq
  exact ⟨hnone h hne heq, hnone h.symm hne.symm heq.symm⟩

theorem DnsState.Reachable.pfx {σ : Type} (h : s.Reachable σ) :
    s.v6.pfx = defaultFakeIPv6Store.pfx := by
  induction h with
  | init h => rw [h.2]
  | caches h hsame ih => rw [hsame.2]; exact ih
  | @step s env dnsCacheTTL ev h ih =>
    have hs := h.wf
    rw [← ih]
    cases ev with
    | lookup ip now =>
      rcases (lookupFake_state ip now s).2 with h6 | h6
      · exact congrArg FakeIPStore.pfx h6
      · exact (congrArg FakeIPStore.pfx h6).trans (lookupDomain_wf hs.v6 ip now).2
    | query exchange now req =>
      cases hf : fakeQuery env exchange req with
      | none => exact congrArg FakeIPStore.pfx (handleDNSQuery_none hf).2
      | some qr =>
        obtain ⟨question, resp⟩ := qr
        obtain ⟨r, t, hr, hsame, -⟩ := handleDNSQuery_fake dnsCacheTTL now hs hf
        obtain ⟨r', hr', -, hp⟩ := allocate_wf (hs.store question.qtype) env.lower
          (queryDomain env question) (fakeIPLifetime dnsCacheTTL (allocTTL question resp)) now
        rw [hr] at hr'
        cases hr'
        have hpfx : (s.setStore question.qtype t).v6.pfx = s.v6.pfx := by
          unfold DnsState.store at hp
          unfold DnsState.setStore
          split_ifs at hp ⊢
          · rfl
          · exact hp
        exact (congrArg FakeIPStore.pfx hsame.2).trans hpfx

end

/-! ## what routing sees of the state -/

/-- the calls of routing depend on the state through `v` only -/
structure SeesOnly {σ γ : Type} (v : σ → γ) (env : Env σ) : Prop where
  pool : ∀ tag, Same v (env.getFromIPPool tag)
  bootstrap : ∀ host, Same v (env.resolveBootstrapHost host)
  recorded : ∀ domain dnsMode, Same v (env.lookupRecordedDNSIP domain dnsMode)
  resolve : ∀ domain dnsMode, Same v (env.resolve domain dnsMode)

section
variable {σ γ : Type} {v : σ → γ} {env : Env σ}

theorem SeesOnly.ipRedirect (h : SeesOnly v env) (ip : Bytes) :
    Same v (ipRedirect env.toRedirects true ip) := by
  rw [ipRedirect_logged]
  have hmoved : Confined (fun _ => ()) v (moved env.toRedirects ip) :=
    moved_confined (fun tag => ⟨fun s => rfl, h.pool tag⟩)
      (fun host => ⟨fun s => rfl, h.bootstrap host⟩) ip
  exact hmoved.same.bind fun t => Same.pure _

theorem SeesOnly.genIPPolicy (h : SeesOnly v env) (host : Bytes) : Same v (genIPPolicy env host) := by
  refine (h.ipRedirect host).attempt.bind fun r => ?_
  cases r with
  | error e => exact Same.pure _
  | ok r => exact Same.ite (Same.pure _) (Same.pure _)

theorem SeesOnly.redirectDomain (h : SeesOnly v env) (r : Route) (host : Bytes) :
    Same v (redirectDomain env r host) := by
  refine (h.ipRedirect host).attempt.bind fun x => ?_
  rcases x with e | ⟨dst, _ | p⟩
  · exact Same.pure _
  · exact Same.pure _
  · exact Same.ite (Same.pure _) (Same.pure _)

theorem SeesOnly.locate (h : SeesOnly v env) (resolveDomain skip : Bool) (m : DNSMode)
    (host : Bytes) : Same v (locate env resolveDomain skip m host) := by
  refine Same.bind (Same.ite (h.pool _) (Same.pure _)) fun dst => Same.ite ?_ (Same.pure _)
  refine (h.recorded dst m).bind fun r => ?_
  cases r with
  | some ip => exact Same.pure _
  | none => exact (h.resolve dst m).bind fun r => Same.pure _

theorem SeesOnly.genDomainPolicy (h : SeesOnly v env) (host : Bytes) (resolveDomain : Bool) :
    Same v (genDomainPolicy env host resolveDomain) := by
  refine Same.ite (Same.pure _) ((h.locate _ _ _ _).attempt.bind fun x => ?_)
  cases x with
  | error e => exact Same.pure _
  | ok dst => exact Same.ite (Same.pure _) (h.redirectDomain _ dst)

theorem SeesOnly.genPolicy (h : SeesOnly v env) (host : Bytes) (resolveDomain : Bool) :
    Same v (genPolicyWithOptions env host resolveDomain) :=
  Same.ite (h.genIPPolicy host) (h.genDomainPolicy host resolveDomain)

end

theorem onDns_same {α : Type} {x : Proc DnsState α} (h : Same DnsState.tables x) :
    Same (fun s : Net Unit => s.dns.tables) (onDns x) :=
  Same.zoom_view (fun s t h => h) (fun a b s t hab h => hab) h

theorem remember_same (domain ip : Bytes) :
    Same (fun s : Net Unit => s.dns.tables) (onDns (modify (rememberDomainIPMapping domain ip))) := by
  refine onDns_same (Same.modify fun s t h => ?_)
  unfold rememberDomainIPMapping
  split_ifs with h0
  · exact h
  · exact congrArg (fun v => (v.1, Option.map (· ++ [(ip, domain)]) v.2)) h

theorem recorded_same (lower : Bytes → Bytes) (domain : Bytes) (m : DNSMode) (now : Int) :
    Same DnsState.tables (lookupRecordedDNSIP lower domain m now) := by
  intro s t h
  have hrec : s.recordedDNSIPs = t.recordedDNSIPs := congrArg Prod.fst h
  have hcache : s.ipDomainCache = t.ipDomainCache := congrArg Prod.snd h
  unfold lookupRecordedDNSIP
  rw [hrec]
  by_cases hd : domain = []
  · rw [if_pos hd, if_pos hd]
    exact ⟨rfl, h⟩
  rw [if_neg hd, if_neg hd]
  cases t.recordedDNSIPs.get (lower domain) with
  | none => exact ⟨rfl, h⟩
  | some entry =>
    dsimp only
    split_ifs with hempty
    · exact ⟨rfl, Prod.ext rfl hcache⟩
    · exact ⟨rfl, Prod.ext rfl hcache⟩

theorem planEnv_sees {κ τ : Type} (std : Std) (g : Globals κ τ) (around : Around) (now : Int)
    (hit : Bool) : SeesOnly (fun s : Net Unit => s.dns.tables) (planEnv std g around now hit) := by
  refine ⟨fun tag => Same.lift _, fun host => ?_, fun domain m => ?_, fun domain m => ?_⟩
  · refine Same.ite (Same.pure _) ((Same.lift _).bind fun r => Same.ite (Same.pure _) ?_)
    exact (remember_same host r.1).bind fun _ => Same.pure _
  · exact onDns_same (recorded_same std.toLower domain m now)
  · exact (Same.lift _).bind fun r => (remember_same domain r.1).bind fun _ => Same.pure _

/-! ## the rules of an address, under two texts -/

section
variable {σ : Type} {a b : Bytes}

theorem mapTarget_parsed (rd : Redirects σ) (h : parseAddr a = parseAddr b) (mapTo : Bytes) :
    mapTarget rd a mapTo = mapTarget rd b mapTo := by
  unfold mapTarget transformIP
  rw [h]

theorem moved_alike (rd : Redirects σ) (hrule : rd.getIPPolicy a = rd.getIPPolicy b)
    (haddr : rd.getIPPolicy a ≠ none → parseAddr a = parseAddr b) :
    (moved rd a = pure a ∧ moved rd b = pure b) ∨ moved rd a = moved rd b := by
  unfold moved
  rw [← hrule]
  cases hp : rd.getIPPolicy a with
  | none => exact .inl ⟨rfl, rfl⟩
  | some p =>
    dsimp only
    rcases p.mapTo with _ | _ | ⟨c, cs⟩
    · exact .inl ⟨rfl, rfl⟩
    · exact .inl ⟨rfl, rfl⟩
    · exact .inr (mapTarget_parsed rd (haddr fun hn => (nomatch hp.symm.trans hn)) _)

/-- the report on an address that is not redirected -/
def ruleReport (defaultPolicy : Policy) (rule : Option Policy) : Report :=
  let p := mergePolicies [rule.getD plainFallbackPolicy, defaultPolicy]
  if p.mode = .block then ⟨false, true, false, rule.isSome, {}⟩
  else ⟨false, false, false, rule.isSome, p⟩

theorem genIPPolicy_kept {env : Env σ} {ip : Bytes} (h : moved env.toRedirects ip = pure ip) (s : σ) :
    ((genIPPolicy env ip >>= fun v => pure v.report) s).1 =
      .ok (ruleReport env.defaultPolicy (env.getIPPolicy ip)) := by
  unfold ruleReport
  rw [run_bind, genIP_of_redirect (ipRedirect_kept h)]
  dsimp only
  split_ifs with hblock
  · rfl
  · rfl

theorem report_alike {env : Env σ} (h : SpelledAlike a b)
    (hrule : env.getIPPolicy a = env.getIPPolicy b)
    (haddr : env.getIPPolicy a ≠ none → parseAddr a = parseAddr b) (resolveDomain : Bool) (s : σ) :
    reportOf env a resolveDomain s = reportOf env b resolveDomain s := by
  unfold reportOf genPolicyWithOptions
  rw [if_pos h.address, if_pos h.symm.address]
  rcases moved_alike env.toRedirects hrule haddr with ⟨ha, hb⟩ | heq
  · rw [genIPPolicy_kept ha, genIPPolicy_kept hb, hrule]
  · have hred : ipRedirect env.toRedirects true a = ipRedirect env.toRedirects true b := by
      rw [ipRedirect_logged, ipRedirect_logged, heq, hrule]
    unfold genIPPolicy
    rw [hred]

end

/-! ## plans -/

/-- the plan without the two fields in which the text of the host comes back -/
def DialPlan.unspelled (p : DialPlan) : DialPlan := { p with originHost := [], targetHost := [] }

def cachedName (hit : Bytes → Bool) (ip : Bytes) (s : DnsState) : Bytes :=
  (ipDomainCacheGet (hit ip) ip s).getD []

section
variable {κ τ : Type} (std : Std) (g : Globals κ τ) (now : Int) (hit : Bytes → Bool) (s : Net Unit)

/-- `PlanRequest` at this time, with the reverse cache as it is for the text of the host -/
def planAt (around : Around) (req : RequestContext) : Res DialPlan :=
  ((planRequest (planEnv std g around now (hit req.host)) req >>= fun p => pure p.unspelled) s).1

/-- Two texts are treated alike: one rule, one name behind the address, and one plan for every
request, whatever is answered from outside. -/
structure TreatedAlike (a b : Bytes) : Prop where
  rule : g.getIPPolicy a = g.getIPPolicy b
  fake : (lookupFakeDomainByIP a now s.dns).1 = (lookupFakeDomainByIP b now s.dns).1
  recovered : (lookupDomain (hit a) now a s).1 = (lookupDomain (hit b) now b s).1
  plan : ∀ around source port mode,
    planAt std g now hit s around ⟨source, a, port, mode⟩ =
      planAt std g now hit s around ⟨source, b, port, mode⟩

/-- the texts are held nowhere, and no rule for IPv4 addresses is in reach of only one of them -/
structure Neutral (a b : Bytes) : Prop where
  left : ¬ LiveIn s.dns a now
  right : ¬ LiveIn s.dns b now
  cached : cachedName hit a s.dns = cachedName hit b s.dns
  rule : isIPv6 a = isIPv6 b ∨ ∀ m, g.ipMatchers = some m → IPv4Trie.find m.1 a = none

variable {std g now hit s} {a b : Bytes}

theorem ne_nil_of_isIP (h : isIP a = true) : a ≠ [] := by
  rintro rfl
  exact absurd h (by decide)

theorem lookupDomain_uncached (hip : isIP a = true) (h : ¬ LiveIn s.dns a now) :
    ∃ s', lookupDomain (hit a) now a s = (.ok (cachedName hit a s.dns), s') ∧
      s'.dns.tables = s.dns.tables := by
  refine ⟨_, Prod.ext ?_ rfl, lookupDomain_tables (hit a) now a s⟩
  obtain ⟨h4, h6⟩ := stores_dead h
  rw [lookupDomain_value, h4, h6, if_neg (ne_nil_of_isIP hip)]
  rfl

theorem globalRule_iff (h : SpelledAlike a b) : g.getIPPolicy a = g.getIPPolicy b ↔
    isIPv6 a = isIPv6 b ∨ ∀ m, g.ipMatchers = some m → IPv4Trie.find m.1 a = none := by
  unfold Globals.getIPPolicy
  cases g.ipMatchers with
  | none => exact iff_of_true rfl (.inr fun m hm => (nomatch hm))
  | some m =>
    refine (rule_iff m h).trans (or_congr_right ⟨fun hm m' hm' => ?_, fun hm => hm m rfl⟩)
    cases hm'
    exact hm

theorem parsed_of_rule (h : SpelledAlike a b) (hrule : g.getIPPolicy a = g.getIPPolicy b)
    (hsome : g.getIPPolicy a ≠ none) : parseAddr a = parseAddr b := by
  refine h.parseAddr_eq (by_contra fun h6 => hsome ?_)
  unfold Globals.getIPPolicy at hrule ⊢
  cases hm : g.ipMatchers with
  | none => rfl
  | some m =>
    rw [hm] at hrule
    show Bill.getIPPolicy m a = none
    rcases getIPPolicy_split m h h6 with ⟨-, h2⟩ | ⟨h1, -⟩
    · exact hrule.trans h2
    · exact h1

/-- the plan by the recovered name and the report on what is planned for -/
def reportPlan (req : RequestContext) (domain : Bytes) (r : Report) : Res DialPlan :=
  if r.failed then .err "failed to resolve dial plan"
  else .ok { source := req.source
             originPort := req.port
             recoveredDomain := domain
             matchedDomain := r.matchedDomain
             matchedIP := r.matchedIP
             targetPort := if 0 < r.policy.port then r.policy.port else req.port
             policy := r.policy
             blocked := r.blocked }

theorem planAt_eq (around : Around) (req : RequestContext) {d : Bytes} {s' : Net Unit}
    (hip : isIP req.host = true) (hd : lookupDomain (hit req.host) now req.host s = (.ok d, s')) :
    planAt std g now hit s around req =
      (reportOf (planEnv std g around now (hit req.host)) (if d = [] then req.host else d)
        (req.domainTargetMode ≠ .preserve) s' >>= reportPlan req d) := by
  have hrec : recoverDomain (planEnv std g around now (hit req.host)) req.host s = (.ok d, s') := by
    unfold recoverDomain
    rw [if_pos hip]
    exact hd
  unfold planAt planRequest planVerdict reportOf
  rw [if_neg (ne_nil_of_isIP hip), seq_assoc, seq_assoc, run_bind_ok hrec]
  rw [run_bind, run_bind, run_bind]
  rcases genPolicyWithOptions (planEnv std g around now (hit req.host))
    (if d = [] then req.host else d) (req.domainTargetMode ≠ .preserve) s' with ⟨_ | e | v, s1⟩
  · rfl
  · rfl
  · show (((if v.failed = true then fail _ else pure _ : Proc (Net Unit) DialPlan) >>= _) s1).1 =
      if v.failed = true then _ else _
    by_cases hf : v.failed = true
    · rw [if_pos hf, if_pos hf]
      rfl
    · rw [if_neg hf, if_neg hf]
      rfl

theorem report_tables (around : Around) (hit hit' : Bool) {s s' : Net Unit}
    (h : s.dns.tables = s'.dns.tables) (host : Bytes) (resolveDomain : Bool) :
    reportOf (planEnv std g around now hit) host resolveDomain s =
      reportOf (planEnv std g around now hit') host resolveDomain s' := by
  have hsame := ((planEnv_sees std g around now hit').genPolicy host resolveDomain).bind
    fun v => Same.pure v.report
  exact (hsame s s' h).1

/-- **Texts that are held nowhere are planned for alike.** -/
theorem planned_alike (h : SpelledAlike a b) (hn : Neutral g now hit s a b) (around : Around)
    (source : RequestSource) (port : Int) (mode : DomainTargetMode) :
    planAt std g now hit s around ⟨source, a, port, mode⟩ =
      planAt std g now hit s around ⟨source, b, port, mode⟩ := by
  obtain ⟨sa, ha, hta⟩ := lookupDomain_uncached h.address hn.left
  obtain ⟨sb, hb, htb⟩ := lookupDomain_uncached h.symm.address hn.right
  have htables : sa.dns.tables = sb.dns.tables := hta.trans htb.symm
  rw [← hn.cached] at hb
  rw [planAt_eq around ⟨source, a, port, mode⟩ h.address ha,
    planAt_eq around ⟨source, b, port, mode⟩ h.symm.address hb, report_tables around _ (hit b) htables]
  -- with a name both requests are for the name, and without one each is for its own text
  by_cases hd : cachedName hit a s.dns = []
  · have hrule := (globalRule_iff h).mpr hn.rule
    rw [if_pos hd, if_pos hd]
    show (reportOf (planEnv std g around now (hit b)) a _ sb >>= _) = _
    rw [report_alike h hrule (parsed_of_rule h hrule)]
    rfl
  · rw [if_neg hd, if_neg hd]
    rfl

/-- **Two texts of one address are treated alike if and only if** they are the same text, or the
stores hold neither, the reverse cache has one name for both, and no rule for IPv4 addresses is in
reach of only one of them. -/
theorem spelling_iff (std : Std) (g : Globals κ τ) (now : Int) (hit : Bytes → Bool) (s : Net Unit)
    (hs : s.dns.Reachable (Net Unit)) (h : SpelledAlike a b) :
    TreatedAlike std g now hit s a b ↔ a = b ∨ Neutral g now hit s a b := by
  constructor
  · intro ht
    by_cases hab : a = b
    · exact .inl hab
    · obtain ⟨ha, hb⟩ := (fake_iff hs.wf hs.pfx h hab).mp ht.fake
      refine .inr ⟨ha, hb, ?_, (globalRule_iff h).mp ht.rule⟩
      obtain ⟨sa, hsa, -⟩ := lookupDomain_uncached h.address ha
      obtain ⟨sb, hsb, -⟩ := lookupDomain_uncached h.symm.address hb
      have hname := ht.recovered
      rw [hsa, hsb] at hname
      exact Res.ok.inj hname
  · rintro (rfl | hn)
    · exact ⟨rfl, rfl, rfl, fun around source port mode => rfl⟩
    · refine ⟨(globalRule_iff h).mpr hn.rule, ?_, ?_, planned_alike h hn⟩
      · rw [lookupFake_dead hn.left, lookupFake_dead hn.right]
      · obtain ⟨sa, hsa, -⟩ := lookupDomain_uncached h.address hn.left
        obtain ⟨sb, hsb, -⟩ := lookupDomain_uncached h.symm.address hn.right
        rw [hsa, hsb]
        exact congrArg Res.ok hn.cached

end

/-- addresses of both families that are blocked -/
def blockedNets : Globals Unit Unit where
  ipMatchers := some (buildIPMatchers [(lit "192.0.2.0/24", { mode := .block }),
    (lit "2001:db8::/32", { mode := .block })])

theorem not_liveIn_init (ip : Bytes) (now : Int) : ¬ LiveIn {} ip now := by
  rintro ⟨qtype, e, he, -⟩
  unfold DnsState.store at he
  split_ifs at he
  · cases he
  · cases he

theorem spelling_iff_zeros :
    planAt asciiStd blockedNets 0 (Function.const Bytes true) quietNet unreachable
        { host := lit "2001:DB8:0:0::7", port := 443 } =
      planAt asciiStd blockedNets 0 (Function.const Bytes true) quietNet unreachable
        { host := lit "2001:db8::7", port := 443 } := by
  have h : SpelledAlike (lit "2001:DB8:0:0::7") (lit "2001:db8::7") :=
    ⟨by decide +kernel, by decide +kernel⟩
  have hn : Neutral blockedNets 0 (Function.const Bytes true) quietNet (lit "2001:DB8:0:0::7")
      (lit "2001:db8::7") :=
    ⟨not_liveIn_init _ 0, not_liveIn_init _ 0, by decide +kernel, .inl (by decide +kernel)⟩
  have halike := (spelling_iff asciiStd blockedNets 0 (Function.const Bytes true) quietNet
    (.init ⟨rfl, rfl⟩) h).mpr (.inr hn)
  exact halike.plan unreachable .unknown 443 .resolve

/-- A rule that blocks an address, and a name behind a fake one: neither is found for the text with
`::ffff:` before it. -/
theorem respelled_unblocked :
    SpelledAlike (lit "192.0.2.7") (lit "::ffff:192.0.2.7") ∧
    planAt asciiStd blockedNets 0 (Function.const Bytes true) quietNet unreachable
        { host := lit "192.0.2.7", port := 443 } =
      .ok { originPort := 443, matchedIP := true, targetPort := 443, blocked := true } ∧
    planAt asciiStd blockedNets 0 (Function.const Bytes true) quietNet unreachable
        { host := lit "::ffff:192.0.2.7", port := 443 } =
      .ok { originPort := 443, targetPort := 443, policy := mergePolicies [plainFallbackPolicy, {}] } ∧
    SpelledAlike (lit "198.18.0.1") (lit "::ffff:198.18.0.1") ∧
    (lookupFakeDomainByIP (lit "198.18.0.1") 0
      (handleDNSQuery (oneRuleEnv {} {}) 0 (ruleAnswer 60) 0 ruleQuery {}).2).1 =
        .ok (some (lit "blocked.example")) ∧
    (lookupFakeDomainByIP (lit "::ffff:198.18.0.1") 0
      (handleDNSQuery (oneRuleEnv {} {}) 0 (ruleAnswer 60) 0 ruleQuery {}).2).1 = .ok none := by
  refine ⟨⟨by decide +kernel, by decide +kernel⟩, by decide +kernel, by decide +kernel,
    ⟨by decide +kernel, by decide +kernel⟩, by decide +kernel, by decide +kernel⟩

end Bill
