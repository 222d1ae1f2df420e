import BillVpn.Config.Decode
import BillVpn.Config.Matchers
import BillVpn.Config.TTLRules
import BillVpn.Policy.Plan

/-!
# Loading a configuration

`LoadConfig` decodes the file and writes what it says into package variables, one after the other.
Several variables are written only if the file has the field, and a failure leaves what was written
before it.

* `Globals`               the variables;
* `loadConfig`            the statements of `LoadConfig`, in their order;
* `genDialContext`        how the server of DNS over HTTPS is reached;
* `loadConfig_rules`      **after a successful load the rules are those of the file**.

What a load calls outside (the caches, the network, the parser of URLs) is a `Callees`; a load that
is repeated gets the same answers.
-/

set_option linter.unusedVariables false

namespace Bill
open Go Proc

/-- a cache of texts -/
structure LRU (κ : Type) where
  new : Nat → Res κ
  get : κ → Bytes → Option Bytes × κ
  add : κ → Bytes → Bytes → Int → κ

structure Callees (κ τ : Type) where
  std : Std
  windows : Bool
  dnsLRU : LRU κ
  newTTLCache : Nat → Res τ
  scan : IPPool → List IPResult
  weight : IPResult → Nat
  rangePolicies : RangeOrder (Bytes × Policy)
  rangePools : RangeOrder (Bytes × Option IPPool)
  /-- the patterns that are blocked and those that are not, out of the embedded list -/
  parseEmbeddedGFWList : Res (List Bytes × List Bytes)
  bootstrapLookupIP : Bytes → Except String (List IP)
  /-- the host and the port of a URL -/
  parseURL : Bytes → Except String (Bytes × Bytes)
  socks5Dialer : Bytes → Except String Unit

/-! ## the variables -/

inductive LogLevel where
  | debug | info | error
deriving DecidableEq, Repr

/-- `dohConnPolicy` may point to the variable `defaultPolicy` -/
inductive PolicyRef where
  | defaultPolicy
  | own (p : Policy)
deriving DecidableEq, Repr

/-- how the HTTP client of DNS over HTTPS reaches its server -/
inductive Dialer where
  | direct (addr : Bytes) (timeout : Int)
  | socks5 (proxy : Bytes)
deriving DecidableEq, Repr

inductive Exchange where
  | do53 | doh
deriving DecidableEq, Repr

structure Globals (κ τ : Type) where
  logLevel : LogLevel := .info
  defaultPolicy : Policy := {}
  ipPools : IPPools := ∅
  sem : Option Int := none
  dnsSingleflight : Bool := false
  ttlSingleflight : Bool := false
  dnsCache : Option κ := none
  ipDomainCache : Option κ := none
  dnsCacheTTL : Int := 0
  ttlCache : Option τ := none
  ttlCacheTTL : Int := 0
  calcTTL : Option (Int → Res Int) := none
  domainMatcher : Option (DomainMatcher Policy) := none
  gfwDomainMatcher : Option (DomainMatcher Unit) := none
  gfwBypassMatcher : Option (DomainMatcher Unit) := none
  ipMatchers : Option (IPTrie Policy × IPTrie Policy) := none
  dnsAddr : Bytes := []
  dnsClient : Option Int := none
  httpCli : Option Dialer := none
  dohConnPolicy : PolicyRef := .own {}
  dnsExchange : Option Exchange := none

namespace Globals
variable {κ τ : Type}

def domainFind (g : Globals κ τ) (domain : Bytes) : Option Policy :=
  g.domainMatcher.bind (·.find domain)

def isGFWDomain (std : Std) (g : Globals κ τ) (domain : Bytes) : Bool :=
  match g.gfwDomainMatcher with
  | none => false
  | some m =>
    if domain = [] then false
    else
      let domain := std.toLower domain
      if (g.gfwBypassMatcher.bind (·.find domain)).isSome then false
      else (m.find domain).isSome

def getIPPolicy (g : Globals κ τ) (ip : Bytes) : Option Policy :=
  g.ipMatchers.bind fun m => Bill.getIPPolicy m ip

/-- the policy of the connection to the server of DNS over HTTPS -/
def dohPolicy (g : Globals κ τ) : Policy :=
  match g.dohConnPolicy with
  | .defaultPolicy => g.defaultPolicy
  | .own p => p

/-- routing by the variables; what has a state of its own comes from `rt` -/
def env {σ : Type} (std : Std) (g : Globals κ τ) (rt : Env σ) : Env σ :=
  { rt with
    lower := std.toLower
    domainFind := g.domainFind
    isGFWDomain := g.isGFWDomain std
    getIPPolicy := g.getIPPolicy
    defaultPolicy := g.defaultPolicy }

end Globals

/-! ## the address of a host before the resolver is there -/

/-- the first address, but an IPv4 address before it; `first` is `""` until there is one -/
def pickBootstrapIP (first : Bytes) : List IP → Bytes
  | [] => first
  | ip :: rest =>
    if ip = [] then pickBootstrapIP first rest
    else if to4 ip ≠ [] then ipString (to4 ip)
    else pickBootstrapIP (if first = [] then ipString ip else first) rest

section
variable {κ τ : Type} (calls : Callees κ τ)

/-- `dnsCache.Get`; a look-up changes the order of use -/
def dnsCacheGet (host : Bytes) : Proc (Globals κ τ) (Option Bytes) := fun g =>
  match g.dnsCache with
  | none => (.ok none, g)
  | some cache =>
    let (v, cache) := calls.dnsLRU.get cache host
    (.ok v, { g with dnsCache := some cache })

/-- both caches learn the answer -/
def rememberBootstrap (host ip : Bytes) (g : Globals κ τ) : Globals κ τ :=
  { g with
    dnsCache := g.dnsCache.map fun cache => calls.dnsLRU.add cache host ip g.dnsCacheTTL
    ipDomainCache := g.ipDomainCache.map fun cache => calls.dnsLRU.add cache ip host g.dnsCacheTTL }

/-- the name service of the system -/
def lookupBootstrap (host : Bytes) : Proc (Globals κ τ) Bytes :=
  match calls.bootstrapLookupIP host with
  | .error e => fail ("bootstrap resolve " ++ textOf host ++ ": " ++ e)
  | .ok addrs =>
    let ip := pickBootstrapIP [] addrs
    if ip = [] then fail ("bootstrap resolve " ++ textOf host ++ ": no address found")
    else do
      modify (rememberBootstrap calls host ip)
      pure ip

def resolveBootstrapHost (host : Bytes) : Proc (Globals κ τ) Bytes :=
  if host = [] ∨ isIP host then pure host
  else do
    match ← dnsCacheGet calls host with
    | some ip => pure ip
    | none => lookupBootstrap calls host

def poolAddress (tag : Bytes) : Proc (Globals κ τ) Bytes :=
  zoom (·.ipPools) (fun pools g => { g with ipPools := pools }) (getFromIPPool tag)

def redirects (g : Globals κ τ) : Redirects (Globals κ τ) where
  getIPPolicy := g.getIPPolicy
  getFromIPPool := poolAddress
  resolveBootstrapHost := resolveBootstrapHost calls

/-! ## DNS over HTTPS -/

/-- `ipRedirect` without a logger, by the rules of the moment -/
def redirectHere (host : Bytes) : Proc (Globals κ τ) (Bytes × Option Policy) := do
  let g ← get
  ipRedirect (redirects calls g) false host

def setDoh (p : PolicyRef) : Proc (Globals κ τ) Unit := modify fun g => { g with dohConnPolicy := p }

/-- a server that is given by its address -/
def dohByIP (host : Bytes) : Proc (Globals κ τ) Bytes := do
  let g ← get
  match ← attempt (redirectHere calls host) with
  | .error e => do
    setDoh .defaultPolicy
    fail ("ip redirect: " ++ e)
  | .ok (host, none) => do
    setDoh .defaultPolicy
    pure host
  | .ok (host, some ipPolicy) => do
    setDoh (.own (mergePolicies [ipPolicy, g.defaultPolicy]))
    pure host

/-- the host that a `host` field names, and whether the IP rules are skipped; `self` is taken for a
name here -/
def dohHost (h : Bytes) : Bytes × Bool :=
  if startsWith caret h then (h.drop 1, true)
  else (h, h ≠ lit "self" ∧ isIP h)

def dohPool (host : Bytes) : Proc (Globals κ τ) Bytes :=
  if startsWith tagMark host then poolAddress (host.drop 1) else pure host

def dohResolve (disableRedirect : Bool) (host : Bytes) : Proc (Globals κ τ) Bytes :=
  if !disableRedirect && !isIP host then resolveBootstrapHost calls host else pure host

/-- the rules of the address, merged between the rule of the domain and the default -/
def dohRedirect (domainPolicy : Option Policy) (host : Bytes) : Proc (Globals κ τ) Bytes := do
  let g ← get
  match ← wrap "ip redirect" (redirectHere calls host) with
  | (host, none) => pure host
  | (host, some ipPolicy) => do
    setDoh (.own (mergePolicies (domainPolicy.toList ++ [ipPolicy, g.defaultPolicy])))
    pure host

/-- a `host` field that is there and not empty -/
def dohByHost (domainPolicy : Option Policy) (h : Bytes) : Proc (Globals κ τ) Bytes := do
  let host ← dohPool (dohHost h).1
  let host ← dohResolve calls (dohHost h).2 host
  if (dohHost h).2 then pure host else dohRedirect calls domainPolicy host

/-- the rule of the server, with the default policy; without a rule the default policy itself -/
def dohDomainRef (domainPolicy : Option Policy) (defaultPolicy : Policy) : PolicyRef :=
  match domainPolicy with
  | some d => .own (mergePolicies [d, defaultPolicy])
  | none => .defaultPolicy

/-- a server that is given by its name -/
def dohByDomain (host : Bytes) : Proc (Globals κ τ) Bytes := do
  let g ← get
  setDoh (dohDomainRef (g.domainFind host) g.defaultPolicy)
  let g ← get
  match g.dohPolicy.host with
  | none => pure host
  | some [] => pure host
  | some (c :: cs) => dohByHost calls (g.domainFind host) (c :: cs)

/-- where to dial, once the host and the policy are known; a port of `0` is a port here -/
def dohDialer (host urlPort : Bytes) (p : Policy) : Dialer :=
  let port := if p.port ≠ unsetInt then itoaInt p.port
    else if urlPort = [] then lit "443" else urlPort
  .direct (joinHostPort host port) p.connectTimeout

def dohTarget (host : Bytes) : Proc (Globals κ τ) Bytes :=
  if isIP host then dohByIP calls host else dohByDomain calls host

def genDialContext (dnsAddr : Bytes) : Proc (Globals κ τ) Dialer :=
  match calls.parseURL dnsAddr with
  | .error e => fail ("invalid DoH URL: " ++ e)
  | .ok (host, urlPort) => do
    setDoh (.own {})
    let host ← dohTarget calls host
    let g ← get
    pure (dohDialer host urlPort g.dohPolicy)

/-! ## the statements of `LoadConfig` -/

def loadLogLevel (s : Bytes) : Res (Option LogLevel) :=
  if s = [] then .ok none
  else
    let u := calls.std.toUpper s
    if u = lit "DEBUG" then .ok (some .debug)
    else if u = lit "INFO" then .ok (some .info)
    else if u = lit "ERROR" then .ok (some .error)
    else .err ("unknown log level: " ++ textOf s)

/-- the first scans, in the order of `range`; a `nil` pool is dereferenced -/
def initPools : List (Bytes × Option IPPool) → Proc IPPools Unit
  | [] => pure ()
  | (tag, none) :: _ => lift .panic
  | (tag, some pool) :: rest => do
    let pool ← lift ((pool.init calls.scan calls.weight).wrap ("init ip pool " ++ textOf tag))
    modify fun pools => pools.set tag (some pool)
    initPools rest

def loadPools (pools : IPPools) : Proc (Globals κ τ) Unit :=
  if pools.entries = [] then pure ()
  else do
    modify fun g => { g with ipPools := pools }
    zoom (·.ipPools) (fun pools g => { g with ipPools := pools })
      (initPools calls (calls.rangePools.visit pools.pairs))

/-- `v, err = make()`: the variable is `nil` after an error -/
def assignNew {α : Type} (msg : String) (x : Res α) (set : Option α → Globals κ τ → Globals κ τ) :
    Proc (Globals κ τ) Unit :=
  match x with
  | .ok a => modify (set (some a))
  | .err e => do
    modify (set none)
    fail (msg ++ ": " ++ e)
  | .panic => lift .panic

/-- `uint32(n)` -/
def uint32 (n : Int) : Nat := (n % 2 ^ 32).toNat

/-- `time.Duration(n) * time.Second` -/
def seconds (n : Int) : Int := int64 (n * 10 ^ 9)

def loadDNSCache (ttl capacity : Int) : Proc (Globals κ τ) Unit :=
  if ttl < 0 then fail ("invalid dns_cache_ttl: " ++ toString ttl)
  else if ttl = 0 then pure ()
  else if capacity < 1 then fail ("invalid dns_cache_cap: " ++ toString capacity)
  else do
    let new := calls.dnsLRU.new (uint32 capacity)
    assignNew "init dns cache" new fun c g => { g with dnsCache := c }
    assignNew "init ip-domain cache" new fun c g => { g with ipDomainCache := c }
    modify fun g => { g with dnsCacheTTL := seconds ttl }

def loadTTLCache (ttl capacity : Int) : Proc (Globals κ τ) Unit :=
  if ttl < 0 then fail ("invalid ttl cache ttl: " ++ toString ttl)
  else if ttl = 0 then pure ()
  else if capacity < 1 then fail ("invalid ttl_cache_cap: " ++ toString capacity)
  else do
    assignNew "init ttl cache" (calls.newTTLCache (uint32 capacity)) fun c g => { g with ttlCache := c }
    modify fun g => { g with ttlCacheTTL := seconds ttl }

def loadFakeTTLRules (rules : Bytes) (transmitFileLimit : Int) : Proc (Globals κ τ) Unit :=
  if rules = [] then pure ()
  else do
    let f ← lift ((loadTTLRules rules).wrap "load fake ttl rules")
    modify fun g => { g with
      calcTTL := some f
      sem := if calls.windows ∧ 0 < transmitFileLimit then some transmitFileLimit else g.sem }

/-- the patterns of the embedded list; one that is refused ends the load -/
def addPatterns : List Bytes → Proc (Option (DomainMatcher Unit)) Unit
  | [] => pure ()
  | pattern :: rest => fun m =>
    match (m.getD newDomainMatcher).add pattern () with
    | .ok m' => addPatterns rest (some m')
    | .err e => (.err e, m)
    | .panic => (.panic, m)

def loadBuiltinGFWList : Proc (Globals κ τ) Unit := do
  let (blocked, bypass) ← lift calls.parseEmbeddedGFWList
  modify fun g => { g with gfwDomainMatcher := some newDomainMatcher }
  zoom (·.gfwDomainMatcher) (fun m g => { g with gfwDomainMatcher := m }) (addPatterns blocked)
  modify fun g => { g with gfwBypassMatcher := some newDomainMatcher }
  zoom (·.gfwBypassMatcher) (fun m g => { g with gfwBypassMatcher := m }) (addPatterns bypass)

/-- a proxy is only noted here; it is dialed later -/
def dohClient (c : Config) : Proc (Globals κ τ) Dialer :=
  if c.dohProxy = [] then genDialContext calls c.dnsAddr
  else match calls.socks5Dialer c.dohProxy with
    | .error e => fail ("create socks5 dialer: " ++ e)
    | .ok _ => pure (.socks5 c.dohProxy)

def loadDNS (c : Config) : Proc (Globals κ τ) Unit := do
  modify fun g => { g with dnsAddr := c.dnsAddr }
  if lit "https://" <+: c.dnsAddr then do
    let dialer ← dohClient calls c
    modify fun g => { g with httpCli := some dialer, dnsExchange := some .doh }
  else
    modify fun g => { g with
      dnsExchange := some .do53, dnsClient := some (if c.udpSize ≤ 0 then 0 else c.udpSize) }

/-- everything before the resolver -/
def loadSettings (c : Config) : Proc (Globals κ τ) Unit := do
  let level ← lift (loadLogLevel calls c.logLevel)
  modify fun g => { g with logLevel := level.getD g.logLevel, defaultPolicy := c.defaultPolicy }
  loadPools calls c.ipPools
  modify fun g => { g with
    dnsSingleflight := g.dnsSingleflight || c.dnsSingleflight
    ttlSingleflight := g.ttlSingleflight || c.ttlSingleflight }
  loadDNSCache calls c.dnsCacheTTL c.dnsCacheCapacity
  loadTTLCache calls c.ttlCacheTTL c.ttlCacheCapacity
  loadFakeTTLRules calls c.fakeTTLRules c.transmitFileLimit
  modify fun g => { g with
    domainMatcher := some (buildDomainMatcher (calls.rangePolicies.visit c.domainPolicies.pairs)) }
  wrap "load builtin gfwlist" (loadBuiltinGFWList calls)
  modify fun g => { g with
    ipMatchers := some (buildIPMatchers (calls.rangePolicies.visit c.ipPolicies.pairs)) }

/-- `file` is the first JSON value of the file, or the error of reading it -/
def loadConfig (file : Res Json) : Proc (Globals κ τ) (Bytes × Bytes) := do
  let doc ← lift file
  let c ← lift (unmarshalConfig calls.std doc)
  loadSettings calls c
  loadDNS calls c
  pure (c.socks5Addr, c.httpAddr)

end

end Bill
