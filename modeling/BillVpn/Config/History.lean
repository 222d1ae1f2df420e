import BillVpn.Config.Settings

/-!
# Loading twice in one process

A variable that a file does not set keeps what an earlier load put there.  `StartBill` loads at every
start in one process, so what is left over decides about routing.

* `Globals.routing`     what routing reads, with the clients of DNS only as far as they are used;
* `Unstained c g`           every variable that `c` leaves alone has the value of a fresh process;
* `load_history_iff`    **a load gives what it gives in a fresh process exactly if the variables are
                        clean for its file**.
-/

set_option linter.unusedVariables false

namespace Bill
open Go Proc

/-- how a query is sent: the client that is not in use does not count, nor the policy of a connection
that goes through a proxy -/
inductive Resolver where
  | none
  | do53 (addr : Bytes) (client : Option Int)
  | doh (addr : Bytes) (client : Option Dialer) (policy : Option Policy)
deriving DecidableEq, Repr

structure Routing where
  logLevel : LogLevel
  defaultPolicy : Policy
  ipPools : IPPools
  dnsSingleflight : Bool
  ttlSingleflight : Bool
  hasDNSCache : Bool
  hasIPDomainCache : Bool
  dnsCacheTTL : Int
  hasTTLCache : Bool
  ttlCacheTTL : Int
  calcTTL : Option (Int → Res Int)
  domainMatcher : Option (DomainMatcher Policy)
  gfwDomainMatcher : Option (DomainMatcher Unit)
  gfwBypassMatcher : Option (DomainMatcher Unit)
  ipMatchers : Option (IPTrie Policy × IPTrie Policy)
  resolver : Resolver

section
variable {κ τ : Type}

/-- the policy that is applied to the connection of a client -/
def Globals.clientPolicy (g : Globals κ τ) : Option Dialer → Option Policy
  | some (.direct _ _) => some g.dohPolicy
  | _ => none

def Globals.resolver (g : Globals κ τ) : Resolver :=
  match g.dnsExchange with
  | none => .none
  | some .do53 => .do53 g.dnsAddr g.dnsClient
  | some .doh => .doh g.dnsAddr g.httpCli (g.clientPolicy g.httpCli)

def Globals.routing (g : Globals κ τ) : Routing where
  logLevel := g.logLevel
  defaultPolicy := g.defaultPolicy
  ipPools := g.ipPools
  dnsSingleflight := g.dnsSingleflight
  ttlSingleflight := g.ttlSingleflight
  hasDNSCache := g.dnsCache.isSome
  hasIPDomainCache := g.ipDomainCache.isSome
  dnsCacheTTL := g.dnsCacheTTL
  hasTTLCache := g.ttlCache.isSome
  ttlCacheTTL := g.ttlCacheTTL
  calcTTL := g.calcTTL
  domainMatcher := g.domainMatcher
  gfwDomainMatcher := g.gfwDomainMatcher
  gfwBypassMatcher := g.gfwBypassMatcher
  ipMatchers := g.ipMatchers
  resolver := g.resolver

/-- each variable is set by the file, or is what it is in a fresh process -/
structure Unstained (c : Config) (g : Globals κ τ) : Prop where
  logLevel : c.logLevel ≠ [] ∨ g.logLevel = .info
  ipPools : c.ipPools.entries ≠ [] ∨ g.ipPools.entries = []
  dnsSingleflight : c.dnsSingleflight = true ∨ g.dnsSingleflight = false
  ttlSingleflight : c.ttlSingleflight = true ∨ g.ttlSingleflight = false
  dnsCache : c.dnsCacheTTL ≠ 0 ∨ g.dnsCache = none ∧ g.ipDomainCache = none ∧ g.dnsCacheTTL = 0
  ttlCache : c.ttlCacheTTL ≠ 0 ∨ g.ttlCache = none ∧ g.ttlCacheTTL = 0
  calcTTL : c.fakeTTLRules ≠ [] ∨ g.calcTTL = none

variable {calls : Callees κ τ} {c : Config} {v : Settings κ τ} {g h : Globals κ τ}

/-! ## two runs of the choice of a resolver -/

/-- what it may look at before it has chosen a policy for the connection -/
def Globals.before (g : Globals κ τ) : Globals κ τ := { g.seen with dohConnPolicy := .own {} }

theorem genDialContext_two (addr : Bytes) (he : g.before = h.before) :
    (genDialContext calls addr g).1 = (genDialContext calls addr h).1 ∧
      (∀ d, (genDialContext calls addr g).1 = .ok d →
        (genDialContext calls addr g).2.seen = (genDialContext calls addr h).2.seen) := by
  unfold genDialContext
  cases hu : calls.parseURL addr with
  | error e => exact ⟨rfl, fun d hd => nomatch hd⟩
  | ok u =>
    obtain ⟨host, port⟩ := u
    have hrest : Same Globals.seen (dohTarget calls host >>= fun host => get >>= fun g =>
        (pure (dohDialer host port g.dohPolicy) : Proc (Globals κ τ) Dialer)) := by
      refine (dohTarget_tame host).same.bind fun host => Same.get_bind ?_ fun g => Same.pure _
      intro g h he
      rw [dohPolicy_congr he]
    -- once the policy is reset, the two states look alike
    obtain ⟨h1, h2⟩ := hrest { g with dohConnPolicy := .own {} } { h with dohConnPolicy := .own {} } he
    exact ⟨h1, fun _ _ => h2⟩

theorem dohClient_two (he : g.before = h.before) (d : Dialer)
    (hd : (dohClient calls c g).1 = .ok d) :
    (dohClient calls c h).1 = .ok d ∧
      (dohClient calls c g).2.before = (dohClient calls c h).2.before ∧
      (dohClient calls c g).2.clientPolicy (some d) = (dohClient calls c h).2.clientPolicy (some d) := by
  unfold dohClient at hd ⊢
  by_cases hp : c.dohProxy = []
  · rw [if_pos hp] at hd
    rw [if_pos hp]
    obtain ⟨h1, h2⟩ := genDialContext_two c.dnsAddr he
    have hs := h2 d hd
    refine ⟨h1 ▸ hd, congrArg (fun g : Globals κ τ => { g with dohConnPolicy := .own {} }) hs, ?_⟩
    cases d with
    | direct a t => exact congrArg some (dohPolicy_congr hs)
    | socks5 p => rfl
  · rw [if_neg hp] at hd
    rw [if_neg hp]
    cases hs : calls.socks5Dialer c.dohProxy with
    | error e => rw [hs] at hd; cases hd
    | ok u =>
      rw [hs] at hd
      cases hd
      exact ⟨rfl, he, rfl⟩

theorem loadDNS_two {g' : Globals κ τ} (he : g.before = h.before)
    (hg : loadDNS calls c g = (.ok (), g')) :
    ∃ h', loadDNS calls c h = (.ok (), h') ∧ g'.before = h'.before ∧ g'.resolver = h'.resolver := by
  unfold loadDNS at hg ⊢
  rw [run_bind_ok (run_modify _ _)] at hg ⊢
  have he1 : ({ g with dnsAddr := c.dnsAddr } : Globals κ τ).before =
      ({ h with dnsAddr := c.dnsAddr } : Globals κ τ).before := he
  by_cases hs : lit "https://" <+: c.dnsAddr
  · rw [if_pos hs] at hg ⊢
    obtain ⟨d, s, hd, hg⟩ := run_bind_eq_ok.mp hg
    obtain ⟨h1, h2, h3⟩ := dohClient_two he1 d (congrArg Prod.fst hd)
    have ha := congrArg (fun p => p.1.dnsAddr) (dohClient_frame calls c
      { g with dnsAddr := c.dnsAddr })
    have hb := congrArg (fun p => p.1.dnsAddr) (dohClient_frame calls c
      { h with dnsAddr := c.dnsAddr })
    rw [hd] at h2 h3 ha
    rcases hr : dohClient calls c { h with dnsAddr := c.dnsAddr } with ⟨r, t⟩
    rw [hr] at h1 h2 h3 hb
    dsimp only at h1 h2 h3
    subst h1
    cases hg
    have hst : s.dnsAddr = t.dnsAddr := (show s.dnsAddr = c.dnsAddr from ha).trans
      (show t.dnsAddr = c.dnsAddr from hb).symm
    refine ⟨_, run_bind_ok hr, h2, ?_⟩
    show Resolver.doh s.dnsAddr (some d) (s.clientPolicy (some d)) =
      Resolver.doh t.dnsAddr (some d) (t.clientPolicy (some d))
    rw [hst, h3]
  · rw [if_neg hs] at hg ⊢
    cases hg
    exact ⟨_, rfl, he, rfl⟩

/-! ## a whole load -/

theorem loadConfig_run {doc : Json} (hc : unmarshalConfig calls.std doc = .ok c)
    (hv : Sets (loadSettings calls c) () (v.write calls c)) (g : Globals κ τ) :
    loadConfig calls (.ok doc) g = (loadDNS calls c >>= fun _ =>
      pure (c.socks5Addr, c.httpAddr)) (v.write calls c g) := by
  unfold loadConfig
  rw [run_bind_ok (Sets.lift rfl g), run_bind_ok (Sets.lift hc _), run_bind_ok (hv _)]
  rfl

theorem Unstained.write (hclean : Unstained c g) (hv : v.Of c) :
    (v.write calls c g).before = (v.write calls c {}).before := by
  obtain ⟨level, pools, caches, ttlCache, f, gfw⟩ := v
  have h1 : level.getD g.logLevel = level.getD .info := by
    cases level with
    | some l => rfl
    | none => exact hclean.logLevel.resolve_left fun h => absurd (hv.level.mpr h) (by simp)
  have h2 : pools.getD g.ipPools = pools.getD ∅ := by
    cases pools with
    | some p => rfl
    | none => exact AList.ext (hclean.ipPools.resolve_left fun h => absurd (hv.pools.mpr h) (by simp))
  have h3 : (g.dnsSingleflight || c.dnsSingleflight) = (false || c.dnsSingleflight) := by
    rcases hclean.dnsSingleflight with h | h <;> simp [h]
  have h4 : (g.ttlSingleflight || c.ttlSingleflight) = (false || c.ttlSingleflight) := by
    rcases hclean.ttlSingleflight with h | h <;> simp [h]
  have h5 : (caches.map (·.1)).or g.dnsCache = (caches.map (·.1)).or none ∧
      (caches.map (·.2.1)).or g.ipDomainCache = (caches.map (·.2.1)).or none ∧
      (caches.map (·.2.2)).getD g.dnsCacheTTL = (caches.map (·.2.2)).getD 0 := by
    cases caches with
    | some k => exact ⟨rfl, rfl, rfl⟩
    | none => exact hclean.dnsCache.resolve_left fun h => absurd (hv.caches.mpr h) (by simp)
  have h6 : (ttlCache.map (·.1)).or g.ttlCache = (ttlCache.map (·.1)).or none ∧
      (ttlCache.map (·.2)).getD g.ttlCacheTTL = (ttlCache.map (·.2)).getD 0 := by
    cases ttlCache with
    | some k => exact ⟨rfl, rfl⟩
    | none => exact hclean.ttlCache.resolve_left fun h => absurd (hv.ttlCache.mpr h) (by simp)
  have h7 : f.or g.calcTTL = f.or none := by
    cases f with
    | some f => rfl
    | none => exact hclean.calcTTL.resolve_left fun h => absurd (hv.calcTTL.mpr h) (by simp)
  unfold Settings.write Globals.before Globals.seen
  dsimp only
  rw [h1, h2, h3, h4, h5.1, h5.2.1, h5.2.2, h6.1, h6.2, h7]

theorem Unstained.of_write (hv : v.Of c)
    (hlevel : (v.write calls c {}).logLevel = (v.write calls c g).logLevel)
    (hpools : (v.write calls c {}).ipPools.entries.isEmpty = (v.write calls c g).ipPools.entries.isEmpty)
    (hsf : (v.write calls c {}).dnsSingleflight = (v.write calls c g).dnsSingleflight)
    (htf : (v.write calls c {}).ttlSingleflight = (v.write calls c g).ttlSingleflight)
    (hdc : (v.write calls c {}).dnsCache.isSome = (v.write calls c g).dnsCache.isSome)
    (hic : (v.write calls c {}).ipDomainCache.isSome = (v.write calls c g).ipDomainCache.isSome)
    (hdl : (v.write calls c {}).dnsCacheTTL = (v.write calls c g).dnsCacheTTL)
    (htc : (v.write calls c {}).ttlCache.isSome = (v.write calls c g).ttlCache.isSome)
    (htl : (v.write calls c {}).ttlCacheTTL = (v.write calls c g).ttlCacheTTL)
    (hcalc : (v.write calls c {}).calcTTL = (v.write calls c g).calcTTL) : Unstained c g := by
  obtain ⟨level, pools, caches, ttlCache, f, gfw⟩ := v
  constructor
  · cases level with
    | some l => exact Or.inl (hv.level.mp rfl)
    | none => exact Or.inr hlevel.symm
  · cases pools with
    | some p => exact Or.inl (hv.pools.mp rfl)
    | none => exact Or.inr (List.isEmpty_iff.mp hpools.symm)
  · have h : (false || c.dnsSingleflight) = (g.dnsSingleflight || c.dnsSingleflight) := hsf
    cases hb : c.dnsSingleflight with
    | true => exact Or.inl rfl
    | false => rw [hb] at h; exact Or.inr (by simpa using h.symm)
  · have h : (false || c.ttlSingleflight) = (g.ttlSingleflight || c.ttlSingleflight) := htf
    cases hb : c.ttlSingleflight with
    | true => exact Or.inl rfl
    | false => rw [hb] at h; exact Or.inr (by simpa using h.symm)
  · cases caches with
    | some k => exact Or.inl (hv.caches.mp rfl)
    | none =>
      have h1 : g.dnsCache.isSome = false := hdc.symm
      have h2 : g.ipDomainCache.isSome = false := hic.symm
      exact Or.inr ⟨by simpa using h1, by simpa using h2, hdl.symm⟩
  · cases ttlCache with
    | some k => exact Or.inl (hv.ttlCache.mp rfl)
    | none =>
      have h1 : g.ttlCache.isSome = false := htc.symm
      exact Or.inr ⟨by simpa using h1, htl.symm⟩
  · cases f with
    | some k => exact Or.inl (hv.calcTTL.mp rfl)
    | none => exact Or.inr hcalc.symm

theorem routing_congr (he : g.before = h.before) (hr : g.resolver = h.resolver) :
    g.routing = h.routing := by
  have hb : ({ g.before.routing with resolver := g.resolver } : Routing) =
      { h.before.routing with resolver := h.resolver } := by rw [he, hr]
  exact hb

theorem settled_write {f : Globals κ τ} (hf : loadDNS calls c (v.write calls c g) = (.ok (), f)) :
    f.settled = (v.write calls c g).settled := by
  have hk := loadDNS_settled calls c (v.write calls c g)
  rwa [hf] at hk

/-- **A load leaves the variables as a load in a fresh process does, exactly if they are clean for
its file.** -/
theorem load_history_iff {doc : Json} {r : Bytes × Bytes} {g' : Globals κ τ}
    (hc : unmarshalConfig calls.std doc = .ok c) (hg : loadConfig calls (.ok doc) g = (.ok r, g')) :
    (∃ f, loadConfig calls (.ok doc) {} = (.ok r, f) ∧ f.routing = g'.routing) ↔ Unstained c g := by
  obtain ⟨doc', c', v, hdoc, hc', hv, -, hsets, hdns, hr⟩ := loadConfig_ok hg
  cases hdoc
  cases hc.symm.trans hc'
  constructor
  · rintro ⟨f, hf, hrouting⟩
    rw [loadConfig_run hc hsets] at hf
    obtain ⟨_, s, hfd, hf⟩ := run_bind_eq_ok.mp hf
    cases hf
    -- both runs keep what the settings wrote
    have hG := settled_write hdns
    have hF := settled_write hfd
    have field : ∀ {γ : Type} (p : Globals κ τ → γ), (∀ g, p g.settled.1 = p g) →
        p f = p g' → p (v.write calls c {}) = p (v.write calls c g) := by
      intro γ p hp he
      rw [← hp, ← hF, hp, he, ← hp, hG, hp]
    have hlevel := field Globals.logLevel (fun _ => rfl) (congrArg Routing.logLevel hrouting)
    have hsf := field Globals.dnsSingleflight (fun _ => rfl) (congrArg Routing.dnsSingleflight hrouting)
    have htf := field Globals.ttlSingleflight (fun _ => rfl) (congrArg Routing.ttlSingleflight hrouting)
    have hdl := field Globals.dnsCacheTTL (fun _ => rfl) (congrArg Routing.dnsCacheTTL hrouting)
    have htl := field Globals.ttlCacheTTL (fun _ => rfl) (congrArg Routing.ttlCacheTTL hrouting)
    have htc := field (·.ttlCache.isSome) (fun _ => rfl) (congrArg Routing.hasTTLCache hrouting)
    have hcalc := field Globals.calcTTL (fun _ => rfl) (congrArg Routing.calcTTL hrouting)
    have hpools : (v.write calls c {}).ipPools.entries.isEmpty =
        (v.write calls c g).ipPools.entries.isEmpty := by
      have h1 : f.ipPools.entries.isEmpty = _ := congrArg (·.2.2.2) hF
      have h2 : g'.ipPools.entries.isEmpty = _ := congrArg (·.2.2.2) hG
      have h3 : f.ipPools = g'.ipPools := congrArg Routing.ipPools hrouting
      exact h1.symm.trans ((congrArg (·.entries.isEmpty) h3).trans h2)
    have hdc : (v.write calls c {}).dnsCache.isSome = (v.write calls c g).dnsCache.isSome := by
      have h1 : f.dnsCache.isSome = _ := congrArg (·.2.1) hF
      have h2 : g'.dnsCache.isSome = _ := congrArg (·.2.1) hG
      exact h1.symm.trans ((congrArg Routing.hasDNSCache hrouting).trans h2)
    have hic : (v.write calls c {}).ipDomainCache.isSome = (v.write calls c g).ipDomainCache.isSome := by
      have h1 : f.ipDomainCache.isSome = _ := congrArg (·.2.2.1) hF
      have h2 : g'.ipDomainCache.isSome = _ := congrArg (·.2.2.1) hG
      exact h1.symm.trans ((congrArg Routing.hasIPDomainCache hrouting).trans h2)
    exact Unstained.of_write hv hlevel hpools hsf htf hdc hic hdl htc htl hcalc
  · intro hclean
    obtain ⟨f, hf, hb, hres⟩ := loadDNS_two (hclean.write hv) hdns
    refine ⟨f, ?_, (routing_congr hb hres).symm⟩
    rw [loadConfig_run hc hsets, run_bind_ok hf, hr]
    rfl

end

/-! ## a profile with caches, and an empty one -/

/-- a file that sets every variable a file may leave alone, but no pools -/
def cachingDoc : Json := .obj [(lit "log_level", .str (lit "DEBUG")),
  (lit "dns_singleflight", .bool true), (lit "ttl_singleflight", .bool true),
  (lit "dns_cache_ttl", .num (lit "60")), (lit "dns_cache_cap", .num (lit "100")),
  (lit "ttl_cache_ttl", .num (lit "60")), (lit "ttl_cache_cap", .num (lit "100")),
  (lit "fake_ttl_rules", .str (lit "1=5"))]

theorem cachingDoc_twice :
    (loadConfig plainCallees (.ok cachingDoc) {}).2.routing =
      (loadConfig plainCallees (.ok cachingDoc) (loadedFrom (.ok cachingDoc))).2.routing := by
  have hload : loadConfig plainCallees (.ok cachingDoc) (loadedFrom (.ok cachingDoc)) =
      (.ok ([], []), (loadConfig plainCallees (.ok cachingDoc) (loadedFrom (.ok cachingDoc))).2) :=
    Prod.ext (by decide +kernel) rfl
  have hfields : (unmarshalConfig plainCallees.std cachingDoc >>= fun c => .ok (c.logLevel,
      c.dnsSingleflight, c.ttlSingleflight, c.dnsCacheTTL, c.ttlCacheTTL, c.fakeTTLRules)) =
      .ok (lit "DEBUG", true, true, 60, 60, lit "1=5") := by decide +kernel
  obtain ⟨c, hc, hfields⟩ := Res.bind_eq_ok.mp hfields
  simp only [Res.ok.injEq, Prod.mk.injEq] at hfields
  obtain ⟨h1, h2, h3, h4, h5, h6⟩ := hfields
  have hclean : Unstained c (loadedFrom (.ok cachingDoc)) :=
    ⟨Or.inl (by rw [h1]; decide +kernel), Or.inr (by decide +kernel), Or.inl h2, Or.inl h3,
      Or.inl (by rw [h4]; decide), Or.inl (by rw [h5]; decide), Or.inl (by rw [h6]; decide +kernel)⟩
  obtain ⟨f, hf, hr⟩ := (load_history_iff hc hload).mpr hclean
  rw [hf, hr]

/-- the empty file after the one with caches: it loads, and keeps the log level, the caches and the
rules of the other -/
theorem emptyDoc_keeps_caches :
    (loadConfig plainCallees (.ok cachingDoc) {}).1 = .ok ([], []) ∧
    (loadConfig plainCallees (.ok (.obj [])) (loadedFrom (.ok cachingDoc))).1 = .ok ([], []) ∧
    (loadConfig plainCallees (.ok (.obj [])) {}).1 = .ok ([], []) ∧
    (loadConfig plainCallees (.ok (.obj [])) (loadedFrom (.ok cachingDoc))).2.routing ≠
      (loadConfig plainCallees (.ok (.obj [])) {}).2.routing := by
  refine ⟨by decide +kernel, by decide +kernel, by decide +kernel, ?_⟩
  intro h
  have hcache := congrArg Routing.hasDNSCache h
  revert hcache
  decide +kernel

end Bill
