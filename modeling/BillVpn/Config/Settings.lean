import BillVpn.Config.Load
import BillVpn.Go.TwoRuns

/-!
# What a successful load has written

Up to the resolver, what `LoadConfig` writes comes from the file and from the calls it makes, never
from the variables.  So one run that succeeds tells what every run does: each variable is set to a
value that the runs share, or stays as it was.

* `Settings`              the values, absent where the file leaves a variable alone;
* `loadSettings_ok`       **one successful run makes every run successful, with the same values**;
* `loadDNS_settled`         the rest of the load touches nothing but how the resolver is reached;
* `loadConfig_ok`         a successful load, taken apart;
* `loadConfig_rules`      **after a load the rules are those of the file**.
-/

set_option linter.unusedVariables false

namespace Bill
open Go Proc

structure Settings (κ τ : Type) where
  level : Option LogLevel
  pools : Option IPPools
  /-- the two caches and their lifetime -/
  caches : Option (κ × κ × Int)
  ttlCache : Option (τ × Int)
  calcTTL : Option (Int → Res Int)
  gfw : DomainMatcher Unit × DomainMatcher Unit

section
variable {κ τ : Type} {calls : Callees κ τ} {c : Config} {g g' : Globals κ τ}

/-- which variables a file sets -/
structure Settings.Of (c : Config) (v : Settings κ τ) : Prop where
  level : v.level.isSome ↔ c.logLevel ≠ []
  pools : v.pools.isSome ↔ c.ipPools.entries ≠ []
  caches : v.caches.isSome ↔ c.dnsCacheTTL ≠ 0
  ttlCache : v.ttlCache.isSome ↔ c.ttlCacheTTL ≠ 0
  calcTTL : v.calcTTL.isSome ↔ c.fakeTTLRules ≠ []

def Settings.write (calls : Callees κ τ) (c : Config) (v : Settings κ τ) (g : Globals κ τ) :
    Globals κ τ :=
  { g with
    logLevel := v.level.getD g.logLevel
    defaultPolicy := c.defaultPolicy
    ipPools := v.pools.getD g.ipPools
    dnsSingleflight := g.dnsSingleflight || c.dnsSingleflight
    ttlSingleflight := g.ttlSingleflight || c.ttlSingleflight
    dnsCache := (v.caches.map (·.1)).or g.dnsCache
    ipDomainCache := (v.caches.map (·.2.1)).or g.ipDomainCache
    dnsCacheTTL := (v.caches.map (·.2.2)).getD g.dnsCacheTTL
    ttlCache := (v.ttlCache.map (·.1)).or g.ttlCache
    ttlCacheTTL := (v.ttlCache.map (·.2)).getD g.ttlCacheTTL
    calcTTL := v.calcTTL.or g.calcTTL
    sem := if v.calcTTL.isSome ∧ calls.windows ∧ 0 < c.transmitFileLimit then
        some c.transmitFileLimit else g.sem
    domainMatcher := some (buildDomainMatcher (calls.rangePolicies.visit c.domainPolicies.pairs))
    gfwDomainMatcher := some v.gfw.1
    gfwBypassMatcher := some v.gfw.2
    ipMatchers := some (buildIPMatchers (calls.rangePolicies.visit c.ipPolicies.pairs)) }

/-! ## one statement at a time -/

theorem loadLogLevel_ok {s : Bytes} {level : Option LogLevel}
    (h : loadLogLevel calls s = .ok level) : level.isSome ↔ s ≠ [] := by
  unfold loadLogLevel at h
  dsimp only at h
  split_ifs at h with h0 h1 h2 h3
  · cases h; simp [h0]
  · cases h; simp [h0]
  · cases h; simp [h0]
  · cases h; simp [h0]

theorem loadPools_ok {pools : IPPools} (h : loadPools calls pools g = (.ok (), g')) :
    ∃ p : Option IPPools, (p.isSome ↔ pools.entries ≠ []) ∧
      Sets (loadPools calls pools) () fun g => { g with ipPools := p.getD g.ipPools } := by
  unfold loadPools at h ⊢
  by_cases he : pools.entries = []
  · rw [if_pos he]
    exact ⟨none, by simp [he], Sets.pure ()⟩
  · rw [if_neg he] at h ⊢
    rw [run_bind_ok (run_modify _ g)] at h
    -- the scans run on the pools of the file, whatever was there before
    rcases hi : initPools calls (calls.rangePools.visit pools.pairs) pools with ⟨r, pools'⟩
    have hz : ∀ s : Globals κ τ, zoom (·.ipPools) (fun p g => { g with ipPools := p })
        (initPools calls (calls.rangePools.visit pools.pairs)) { s with ipPools := pools } =
        (r, { s with ipPools := pools' }) := fun s => zoom_eq hi
    rw [hz g] at h
    injection h with h1 h2
    subst h1
    refine ⟨some pools', by simp [he], fun s => ?_⟩
    rw [run_bind_ok (run_modify _ s), hz s]
    rfl

theorem assignNew_ok {α : Type} {msg : String} {x : Res α}
    {set : Option α → Globals κ τ → Globals κ τ} (h : assignNew msg x set g = (.ok (), g')) :
    ∃ a, x = .ok a ∧ Sets (assignNew msg x set) () (set (some a)) := by
  cases x with
  | ok a => exact ⟨a, rfl, fun s => rfl⟩
  | err e => cases h
  | panic => cases h

theorem loadDNSCache_ok {ttl capacity : Int} (h : loadDNSCache calls ttl capacity g = (.ok (), g')) :
    ∃ k : Option (κ × κ × Int), (k.isSome ↔ ttl ≠ 0) ∧
      Sets (loadDNSCache calls ttl capacity) () fun g => { g with
        dnsCache := (k.map (·.1)).or g.dnsCache
        ipDomainCache := (k.map (·.2.1)).or g.ipDomainCache
        dnsCacheTTL := (k.map (·.2.2)).getD g.dnsCacheTTL } := by
  unfold loadDNSCache at h ⊢
  split_ifs at h ⊢ with h1 h2 h3
  · cases h
  · exact ⟨none, by simp [h2], Sets.pure ()⟩
  · cases h
  · obtain ⟨_, s1, ha, h⟩ := run_bind_eq_ok.mp h
    obtain ⟨a, -, ha⟩ := assignNew_ok ha
    obtain ⟨_, s2, hb, h⟩ := run_bind_eq_ok.mp h
    obtain ⟨b, -, hb⟩ := assignNew_ok hb
    exact ⟨some (a, b, seconds ttl), by simp [h2],
      (ha.bind (hb.bind (Sets.modify _))).congr fun s => rfl⟩

theorem loadTTLCache_ok {ttl capacity : Int} (h : loadTTLCache calls ttl capacity g = (.ok (), g')) :
    ∃ k : Option (τ × Int), (k.isSome ↔ ttl ≠ 0) ∧
      Sets (loadTTLCache calls ttl capacity) () fun g => { g with
        ttlCache := (k.map (·.1)).or g.ttlCache
        ttlCacheTTL := (k.map (·.2)).getD g.ttlCacheTTL } := by
  unfold loadTTLCache at h ⊢
  split_ifs at h ⊢ with h1 h2 h3
  · cases h
  · exact ⟨none, by simp [h2], Sets.pure ()⟩
  · cases h
  · obtain ⟨_, s1, ha, h⟩ := run_bind_eq_ok.mp h
    obtain ⟨a, -, ha⟩ := assignNew_ok ha
    exact ⟨some (a, seconds ttl), by simp [h2], (ha.bind (Sets.modify _)).congr fun s => rfl⟩

theorem loadFakeTTLRules_ok {rules : Bytes} {limit : Int}
    (h : loadFakeTTLRules calls rules limit g = (.ok (), g')) :
    ∃ f : Option (Int → Res Int), (f.isSome ↔ rules ≠ []) ∧ (∀ k ∈ f, loadTTLRules rules = .ok k) ∧
      Sets (loadFakeTTLRules calls rules limit) () fun g => { g with
        calcTTL := f.or g.calcTTL
        sem := if f.isSome ∧ calls.windows ∧ 0 < limit then some limit else g.sem } := by
  unfold loadFakeTTLRules at h ⊢
  by_cases h1 : rules = []
  · rw [if_pos h1]
    exact ⟨none, by simp [h1], fun k hk => (nomatch hk), (Sets.pure ()).congr fun s => by simp⟩
  · rw [if_neg h1] at h ⊢
    obtain ⟨f, s1, hf, h⟩ := run_bind_eq_ok.mp h
    injection hf with hf
    refine ⟨some f, by simp [h1], fun k hk => ?_, ?_⟩
    · cases hk
      exact Res.wrap_eq_ok.mp hf
    · exact ((Sets.lift hf).bind (Sets.modify _)).congr fun s => by simp

theorem addPatterns_ok {l : List Bytes} : ∀ {m : DomainMatcher Unit} {m' : Option (DomainMatcher Unit)},
    addPatterns l (some m) = (.ok (), m') → ∃ n, m' = some n := by
  induction l with
  | nil =>
    intro m m' h
    cases h
    exact ⟨m, rfl⟩
  | cons pattern rest ih =>
    intro m m' h
    unfold addPatterns at h
    cases ha : ((some m).getD newDomainMatcher).add pattern () with
    | ok n => rw [ha] at h; exact ih h
    | err e => rw [ha] at h; cases h
    | panic => rw [ha] at h; cases h

theorem fillMatcher_ok {l : List Bytes} (get : Globals κ τ → Option (DomainMatcher Unit))
    (set : Option (DomainMatcher Unit) → Globals κ τ → Globals κ τ)
    (hget : ∀ s, get (set (some newDomainMatcher) s) = some newDomainMatcher)
    (hset : ∀ m s, set m (set (some newDomainMatcher) s) = set m s)
    (h : zoom get set (addPatterns l) (set (some newDomainMatcher) g) = (.ok (), g')) :
    ∃ m, ∀ s, zoom get set (addPatterns l) (set (some newDomainMatcher) s) = (.ok (), set (some m) s) := by
  rcases hp : addPatterns l (some newDomainMatcher) with ⟨r, m'⟩
  have hz : ∀ s, zoom get set (addPatterns l) (set (some newDomainMatcher) s) =
      (r, set m' (set (some newDomainMatcher) s)) :=
    fun s => zoom_eq (show addPatterns l (get _) = (r, m') by rw [hget, hp])
  rw [hz g] at h
  injection h with h1 h2
  subst h1
  obtain ⟨m, rfl⟩ := addPatterns_ok hp
  exact ⟨m, fun s => by rw [hz s, hset]⟩

theorem loadGFW_ok (h : loadBuiltinGFWList calls g = (.ok (), g')) :
    ∃ m : DomainMatcher Unit × DomainMatcher Unit,
      Sets (loadBuiltinGFWList calls) () fun g => { g with
        gfwDomainMatcher := some m.1, gfwBypassMatcher := some m.2 } := by
  obtain ⟨⟨blocked, bypass⟩, s1, hl, h⟩ := run_bind_eq_ok.mp h
  injection hl with hl
  obtain ⟨_, s2, hm, h⟩ := run_bind_eq_ok.mp h
  cases hm
  obtain ⟨_, s3, hb, h⟩ := run_bind_eq_ok.mp h
  obtain ⟨m, hb⟩ := fillMatcher_ok (·.gfwDomainMatcher)
    (fun m g => { g with gfwDomainMatcher := m }) (fun _ => rfl) (fun _ _ => rfl) hb
  obtain ⟨_, s4, hm, h⟩ := run_bind_eq_ok.mp h
  cases hm
  obtain ⟨n, hn⟩ := fillMatcher_ok (·.gfwBypassMatcher)
    (fun m g => { g with gfwBypassMatcher := m }) (fun _ => rfl) (fun _ _ => rfl) h
  refine ⟨(m, n), fun s => ?_⟩
  unfold loadBuiltinGFWList
  rw [run_bind_ok (Sets.lift hl s)]
  dsimp only
  rw [run_bind_ok (run_modify _ _), run_bind_ok (hb _), run_bind_ok (run_modify _ _)]
  exact hn _

/-! ## the whole -/

/-- **One successful run makes every run successful, with the same values.** -/
theorem loadSettings_ok (h : loadSettings calls c g = (.ok (), g')) :
    ∃ v : Settings κ τ, v.Of c ∧ (∀ f ∈ v.calcTTL, loadTTLRules c.fakeTTLRules = .ok f) ∧
      Sets (loadSettings calls c) () (v.write calls c) := by
  unfold loadSettings at h ⊢
  obtain ⟨level, s1, h1, h⟩ := run_bind_eq_ok.mp h
  injection h1 with h1
  obtain ⟨_, s2, -, h⟩ := run_bind_eq_ok.mp h
  obtain ⟨_, s3, h3, h⟩ := run_bind_eq_ok.mp h
  obtain ⟨pools, hpools, h3⟩ := loadPools_ok h3
  obtain ⟨_, s4, -, h⟩ := run_bind_eq_ok.mp h
  obtain ⟨_, s5, h5, h⟩ := run_bind_eq_ok.mp h
  obtain ⟨caches, hcaches, h5⟩ := loadDNSCache_ok h5
  obtain ⟨_, s6, h6, h⟩ := run_bind_eq_ok.mp h
  obtain ⟨ttlCache, httl, h6⟩ := loadTTLCache_ok h6
  obtain ⟨_, s7, h7, h⟩ := run_bind_eq_ok.mp h
  obtain ⟨f, hf, hrules, h7⟩ := loadFakeTTLRules_ok h7
  obtain ⟨_, s8, -, h⟩ := run_bind_eq_ok.mp h
  obtain ⟨_, s9, h9, h⟩ := run_bind_eq_ok.mp h
  obtain ⟨gfw, h9⟩ : ∃ m : DomainMatcher Unit × DomainMatcher Unit, Sets (loadBuiltinGFWList calls) ()
      fun g => { g with gfwDomainMatcher := some m.1, gfwBypassMatcher := some m.2 } := by
    rcases hr : loadBuiltinGFWList calls s8 with ⟨r, t⟩
    rw [wrap_run hr] at h9
    injection h9 with h9
    rw [Res.wrap_eq_ok] at h9
    subst h9
    exact loadGFW_ok hr
  refine ⟨⟨level, pools, caches, ttlCache, f, gfw⟩,
    ⟨loadLogLevel_ok h1, hpools, hcaches, httl, hf⟩, hrules, ?_⟩
  intro s
  rw [run_bind_ok (Sets.lift h1 s), run_bind_ok (run_modify _ _), run_bind_ok (h3 _),
    run_bind_ok (run_modify _ _), run_bind_ok (h5 _), run_bind_ok (h6 _), run_bind_ok (h7 _),
    run_bind_ok (run_modify _ _), run_bind_ok (h9.wrap _)]
  rfl

/-! ## the resolver -/

/-- what looking for a server leaves alone: every variable but four, whether there are caches, and
whether there are pools -/
def Globals.frame (g : Globals κ τ) : Globals κ τ × Bool × Bool × Bool :=
  ({ g with ipPools := ∅, dnsCache := none, ipDomainCache := none, dohConnPolicy := .own {} },
    g.dnsCache.isSome, g.ipDomainCache.isSome, g.ipPools.entries.isEmpty)

/-- what choosing a resolver leaves alone -/
def Globals.settled (g : Globals κ τ) : Globals κ τ × Bool × Bool × Bool :=
  ({ g.frame.1 with dnsAddr := [], dnsClient := none, httpCli := none, dnsExchange := none }, g.frame.2)

/-- what it looks at: not the clients of an earlier load -/
def Globals.seen (g : Globals κ τ) : Globals κ τ :=
  { g with sem := none, dnsAddr := [], dnsClient := none, httpCli := none, dnsExchange := none }

abbrev Tame {α : Type} (x : Proc (Globals κ τ) α) : Prop := Confined Globals.frame Globals.seen x

theorem dnsCacheGet_same {v : Globals κ τ → Globals κ τ} (hc : ∀ g, (v g).dnsCache = g.dnsCache)
    (hset : ∀ cache g, v { g with dnsCache := cache } = v { v g with dnsCache := cache })
    (host : Bytes) : Same v (dnsCacheGet calls host) := by
  intro g h he
  have hcache : g.dnsCache = h.dnsCache := view_field Globals.dnsCache hc he
  unfold dnsCacheGet
  rw [hcache]
  cases h.dnsCache with
  | none => exact ⟨rfl, he⟩
  | some cache => exact ⟨rfl, view_modify (hset _) g h he⟩

theorem dnsCacheGet_tame (host : Bytes) : Tame (dnsCacheGet calls host) := by
  refine ⟨fun g => ?_, dnsCacheGet_same (v := Globals.seen) (fun _ => rfl) (fun _ _ => rfl) host⟩
  unfold dnsCacheGet
  cases hc : g.dnsCache with
  | none => rfl
  | some cache =>
    unfold Globals.frame
    rw [hc]
    rfl

theorem rememberBootstrap_frame (host ip : Bytes) (g : Globals κ τ) :
    (rememberBootstrap calls host ip g).frame = g.frame := by
  unfold rememberBootstrap Globals.frame
  simp only [Option.isSome_map]

theorem resolveBootstrap_confined {γ δ : Type} {f : Globals κ τ → γ} {v : Globals κ τ → δ}
    (hget : ∀ host, Confined f v (dnsCacheGet calls host))
    (hremember : ∀ host ip, Confined f v (modify (rememberBootstrap calls host ip))) (host : Bytes) :
    Confined f v (resolveBootstrapHost calls host) := by
  unfold resolveBootstrapHost
  refine (Confined.pure host).ite ((hget host).bind fun o => ?_)
  cases o with
  | some ip => exact Confined.pure ip
  | none =>
    unfold lookupBootstrap
    cases calls.bootstrapLookupIP host with
    | error e => exact Confined.fail _
    | ok addrs =>
      exact (Confined.fail _).ite (Confined.bind (hremember host _) fun _ => Confined.pure _)

theorem resolveBootstrap_tame (host : Bytes) : Tame (resolveBootstrapHost calls host) :=
  resolveBootstrap_confined dnsCacheGet_tame (fun host ip => Confined.modify
    (rememberBootstrap_frame host ip) (view_modify fun _ => rfl)) host

theorem getFromIPPool_entries (tag : Bytes) (pools : IPPools) :
    (getFromIPPool tag pools).2.entries.isEmpty = pools.entries.isEmpty := by
  unfold getFromIPPool
  by_cases he : pools.entries = []
  · rw [if_pos he]
  · rw [if_neg he]
    have hset : ∀ p : Option IPPool, (pools.set tag p).entries.isEmpty = pools.entries.isEmpty := by
      intro p
      rw [List.isEmpty_eq_false_iff.mpr he, List.isEmpty_eq_false_iff]
      intro h
      have hg := pools.get_set_self tag p
      rw [AList.ext (s := pools.set tag p) (t := ∅) h, GoMap.get_empty] at hg
      cases hg
    cases hp : pools.get tag with
    | none => rfl
    | some o =>
      cases o with
      | none => rfl
      | some pool =>
        dsimp only
        split
        · exact hset _
        · exact hset _

theorem poolAddress_same {v : Globals κ τ → Globals κ τ} (hp : ∀ g, (v g).ipPools = g.ipPools)
    (hset : ∀ pools g, v { g with ipPools := pools } = v { v g with ipPools := pools }) (tag : Bytes) :
    Same v (poolAddress tag : Proc (Globals κ τ) Bytes) :=
  Same.zoom (fun g h he => view_field Globals.ipPools hp he) (fun pools => view_modify (hset pools)) _

theorem poolAddress_tame (tag : Bytes) : Tame (poolAddress tag : Proc (Globals κ τ) Bytes) := by
  refine ⟨fun g => ?_, poolAddress_same (v := Globals.seen) (fun _ => rfl) (fun _ _ => rfl) tag⟩
  unfold poolAddress zoom Globals.frame
  dsimp only
  rw [getFromIPPool_entries]

theorem redirects_congr {g h : Globals κ τ} (he : g.seen = h.seen) :
    redirects calls g = redirects calls h := by
  have hm : g.ipMatchers = h.ipMatchers := view_field (v := Globals.seen) Globals.ipMatchers (fun _ => rfl) he
  unfold redirects Globals.getIPPolicy
  rw [hm]

theorem redirectHere_tame (host : Bytes) : Tame (redirectHere calls host) := by
  apply Confined.get_bind
  · intro g h he
    rw [redirects_congr he]
  · intro g
    rw [ipRedirect_quiet]
    exact (moved_confined poolAddress_tame resolveBootstrap_tame host).bind fun t => Confined.pure _

theorem setDoh_tame (p : PolicyRef) : Tame (setDoh p : Proc (Globals κ τ) Unit) :=
  Confined.modify (fun _ => rfl) (view_modify fun _ => rfl)

theorem defaultPolicy_congr {g h : Globals κ τ} (he : g.seen = h.seen) :
    g.defaultPolicy = h.defaultPolicy := view_field (v := Globals.seen) Globals.defaultPolicy (fun _ => rfl) he

theorem dohByIP_tame (host : Bytes) : Tame (dohByIP calls host) := by
  apply Confined.get_bind
  · intro g h he
    rw [defaultPolicy_congr he]
  · intro g
    refine (redirectHere_tame host).attempt.bind fun r => ?_
    rcases r with e | ⟨host, _ | p⟩
    · exact (setDoh_tame _).bind fun _ => Confined.fail _
    · exact (setDoh_tame _).bind fun _ => Confined.pure _
    · exact (setDoh_tame _).bind fun _ => Confined.pure _

theorem dohRedirect_tame (d : Option Policy) (host : Bytes) : Tame (dohRedirect calls d host) := by
  apply Confined.get_bind
  · intro g h he
    rw [defaultPolicy_congr he]
  · intro g
    refine (redirectHere_tame host).wrap.bind fun r => ?_
    rcases r with ⟨host, _ | p⟩
    · exact Confined.pure _
    · exact (setDoh_tame _).bind fun _ => Confined.pure _

theorem dohByHost_tame (d : Option Policy) (h : Bytes) : Tame (dohByHost calls d h) := by
  refine Confined.bind ((poolAddress_tame _).ite (Confined.pure _)) fun host => ?_
  refine Confined.bind ((resolveBootstrap_tame _).ite (Confined.pure _)) fun host => ?_
  exact (Confined.pure _).ite (dohRedirect_tame d host)

theorem domainFind_congr {g h : Globals κ τ} (he : g.seen = h.seen) :
    g.domainFind = h.domainFind := by
  have hm : g.domainMatcher = h.domainMatcher := view_field (v := Globals.seen) Globals.domainMatcher (fun _ => rfl) he
  unfold Globals.domainFind
  rw [hm]

theorem dohPolicy_congr {g h : Globals κ τ} (he : g.seen = h.seen) : g.dohPolicy = h.dohPolicy := by
  have hp : g.dohConnPolicy = h.dohConnPolicy := view_field (v := Globals.seen) Globals.dohConnPolicy (fun _ => rfl) he
  unfold Globals.dohPolicy
  rw [hp, defaultPolicy_congr he]

theorem dohByDomain_tame (host : Bytes) : Tame (dohByDomain calls host) := by
  apply Confined.get_bind
  · intro g h he
    rw [domainFind_congr he, defaultPolicy_congr he]
  · intro g
    refine (setDoh_tame _).bind fun _ => Confined.get_bind ?_ fun g => ?_
    · intro g h he
      rw [domainFind_congr he, dohPolicy_congr he]
    · split
      · exact Confined.pure _
      · exact Confined.pure _
      · exact dohByHost_tame _ _

theorem dohTarget_tame (host : Bytes) : Tame (dohTarget calls host) :=
  (dohByIP_tame host).ite (dohByDomain_tame host)

theorem genDialContext_frame (addr : Bytes) : Keeps Globals.frame (genDialContext calls addr) := by
  unfold genDialContext
  cases calls.parseURL addr with
  | error e => exact Keeps.fail _
  | ok u =>
    exact (setDoh_tame _).keeps.bind fun _ => (dohTarget_tame _).keeps.bind fun host =>
      Keeps.get.bind fun g => Keeps.pure _

theorem dohClient_frame (calls : Callees κ τ) (c : Config) : Keeps Globals.frame (dohClient calls c) := by
  unfold dohClient
  refine (genDialContext_frame _).ite ?_
  cases calls.socks5Dialer c.dohProxy with
  | error e => exact Keeps.fail _
  | ok u => exact Keeps.pure _

/-- **Choosing a resolver leaves the rest alone.** -/
theorem loadDNS_settled (calls : Callees κ τ) (c : Config) :
    Keeps Globals.settled (loadDNS calls c) := by
  refine Keeps.bind (Keeps.modify fun g => rfl) fun _ => Keeps.ite ?_ (Keeps.modify fun g => rfl)
  have hclient : Keeps Globals.settled (dohClient calls c) := (dohClient_frame calls c).map fun p =>
    ({ p.1 with dnsAddr := [], dnsClient := none, httpCli := none, dnsExchange := none }, p.2)
  exact hclient.bind fun d => Keeps.modify fun g => rfl

/-! ## a whole load -/

theorem loadConfig_ok {file : Res Json} {r : Bytes × Bytes}
    (h : loadConfig calls file g = (.ok r, g')) :
    ∃ doc c, ∃ v : Settings κ τ, file = .ok doc ∧ unmarshalConfig calls.std doc = .ok c ∧ v.Of c ∧
      (∀ f ∈ v.calcTTL, loadTTLRules c.fakeTTLRules = .ok f) ∧
      Sets (loadSettings calls c) () (v.write calls c) ∧
      loadDNS calls c (v.write calls c g) = (.ok (), g') ∧ r = (c.socks5Addr, c.httpAddr) := by
  obtain ⟨doc, s1, hdoc, h⟩ := run_bind_eq_ok.mp h
  cases hdoc
  obtain ⟨c, s2, hc, h⟩ := run_bind_eq_ok.mp h
  injection hc with hc hs
  subst hs
  obtain ⟨_, s3, hset, h⟩ := run_bind_eq_ok.mp h
  obtain ⟨v, hv, hrules, hsets⟩ := loadSettings_ok hset
  obtain ⟨_, s4, hdns, h⟩ := run_bind_eq_ok.mp h
  cases h
  rw [hsets] at hset
  cases hset
  exact ⟨doc, c, v, rfl, hc, hv, hrules, hsets, hdns, rfl⟩

/-- **After a successful load the rules are those of the file.** -/
theorem loadConfig_rules {file : Res Json} {r : Bytes × Bytes}
    (h : loadConfig calls file g = (.ok r, g')) :
    ∃ doc c, file = .ok doc ∧ unmarshalConfig calls.std doc = .ok c ∧
      g'.defaultPolicy = c.defaultPolicy ∧
      g'.domainMatcher =
        some (buildDomainMatcher (calls.rangePolicies.visit c.domainPolicies.pairs)) ∧
      g'.ipMatchers = some (buildIPMatchers (calls.rangePolicies.visit c.ipPolicies.pairs)) := by
  obtain ⟨doc, c, v, hfile, hc, -, -, -, hdns, -⟩ := loadConfig_ok h
  have hframe := loadDNS_settled calls c (v.write calls c g)
  rw [hdns] at hframe
  have hmask := congrArg Prod.fst hframe
  exact ⟨doc, c, hfile, hc, congrArg Globals.defaultPolicy hmask,
    congrArg Globals.domainMatcher hmask, congrArg Globals.ipMatchers hmask⟩

theorem loadConfig_calcTTL {file : Res Json} {r : Bytes × Bytes}
    (h : loadConfig calls file g = (.ok r, g')) {f : Int → Res Int} (hf : g'.calcTTL = some f) :
    (∃ conf, loadTTLRules conf = .ok f) ∨ g.calcTTL = some f := by
  obtain ⟨doc, c, v, -, -, -, hrules, -, hdns, -⟩ := loadConfig_ok h
  have hframe := loadDNS_settled calls c (v.write calls c g)
  rw [hdns] at hframe
  have hcalc : g'.calcTTL = v.calcTTL.or g.calcTTL :=
    congrArg Globals.calcTTL (congrArg Prod.fst hframe)
  rw [hcalc, Option.or_eq_some_iff] at hf
  rcases hf with hv | ⟨-, hg⟩
  · exact .inl ⟨c.fakeTTLRules, hrules f hv⟩
  · exact .inr hg

end

/-! ## a small process -/

/-- every call answers in the plainest way -/
def plainCallees : Callees Unit Unit where
  std := ⟨id, id, id, fun _ => .ok (5 * 10 ^ 9), fun _ => .error "no such host"⟩
  windows := false
  dnsLRU := ⟨fun _ => .ok (), fun c _ => (none, c), fun c _ _ _ => c⟩
  newTTLCache := fun _ => .ok ()
  scan := fun _ => []
  weight := fun _ => 1
  rangePolicies := ⟨id, fun l => List.Perm.refl l⟩
  rangePools := ⟨id, fun l => List.Perm.refl l⟩
  parseEmbeddedGFWList := .ok ([], [])
  bootstrapLookupIP := fun _ => .error "no such host"
  parseURL := fun _ => .error "no URL"
  socks5Dialer := fun _ => .ok ()

/-- the variables after a file is loaded into a fresh process -/
def loadedFrom (file : Res Json) : Globals Unit Unit := (loadConfig plainCallees file {}).2

end Bill
