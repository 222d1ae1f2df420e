import BillVpn.Config.Load
import BillVpn.Dns.Answer
import BillVpn.Go.NetipText
import BillVpn.Go.Run

/-!
# Which family of addresses a resolution gives

`Resolve` asks for the records that the mode names.  Its cache and its singleflight group know only
the domain, and the resolution of bootstrap hosts writes into the same cache.

* `doDNSResolve`           the exchanges of one resolution;
* `ResolverState`          what was stored, the resolutions that are going on, what was returned;
* `resolverStep`           calls of `Resolve`, ends of resolutions, bootstrap hosts, in any order;
* `Unmixed`                no call of an only-mode shares with a call of another mode;
* `modes_respected`        **along unmixed calls the only-modes give addresses of their family**;
* `modes_mixed`            three ways in which they do not.

The cache may answer with anything that was stored under the name, or with nothing, and a call may
join any resolution of the name that is going on.  The reverse cache is not read here.
-/

set_option linter.unusedVariables false

namespace Bill
open Go

/-! ## one resolution -/

/-- an address has the length of its family, or is missing when the record has no data -/
def RR.Unpacked (rr : RR) : Prop :=
  match rr.data with
  | .a ip => ip = [] ∨ ip.length = 4
  | .aaaa ip => ip = [] ∨ ip.length = 16
  | .other _ => True

/-- what the server answers during one resolution, unpacked -/
structure DnsServer where
  exchange : Msg → Except String Msg
  unpacked : ∀ req resp, exchange req = .ok resp → ∀ rr ∈ resp.answer, rr.Unpacked

def pickFirstARecord : List RR → IP
  | [] => []
  | rr :: rest =>
    match rr.data with
    | .a ip => ip
    | _ => pickFirstARecord rest

def pickFirstAAAARecord : List RR → IP
  | [] => []
  | rr :: rest =>
    match rr.data with
    | .aaaa ip => ip
    | _ => pickFirstAAAARecord rest

/-- `msg.SetQuestion(domain+".", qtype)`, without the random `Id` -/
def setQuestion (domain : Bytes) (qtype : Nat) : Msg :=
  { question := [⟨domain ++ lit ".", qtype, classINET⟩], hdr := { recursionDesired := true } }

def firstQuestion (domain : Bytes) : DNSMode → Msg
  | .preferIPv4 | .ipv4Only => setQuestion domain typeA
  | .preferIPv6 | .ipv6Only => setQuestion domain typeAAAA
  | .unknown => { question := [] }

section
variable (rcodeToString : Nat → String) (up : DnsServer)

/-- `nil` with the message, or the address -/
def required (missing : String) (ip : IP) : Except String IP :=
  if ip = [] then .error missing else .ok ip

/-- the second question of the modes that prefer a family; the first error in the text is `nil` -/
def askOther (domain : Bytes) (qtype : Nat) (pick : List RR → IP) : Except String IP :=
  match up.exchange (setQuestion domain qtype) with
  | .error e => .error ("dns exchange: %!w(<nil>); " ++ e)
  | .ok resp =>
    if resp.rcode ≠ rcodeSuccess then .error ("bad rcode: " ++ rcodeToString resp.rcode)
    else required "record not found" (pick resp.answer)

def pickByMode (domain : Bytes) (answer : List RR) : DNSMode → Except String IP
  | .ipv4Only => required "A record not found" (pickFirstARecord answer)
  | .ipv6Only => required "AAAA record not found" (pickFirstAAAARecord answer)
  | .preferIPv4 =>
    if pickFirstARecord answer = [] then askOther rcodeToString up domain typeAAAA pickFirstAAAARecord
    else .ok (pickFirstARecord answer)
  | .preferIPv6 =>
    if pickFirstAAAARecord answer = [] then askOther rcodeToString up domain typeA pickFirstARecord
    else .ok (pickFirstAAAARecord answer)
  | .unknown => .ok []

def doDNSResolve (domain : Bytes) (dnsMode : DNSMode) : Except String Bytes :=
  match up.exchange (firstQuestion domain dnsMode) with
  | .error e => .error ("dns exchange: " ++ e)
  | .ok resp =>
    if resp.rcode ≠ rcodeSuccess then .error ("bad rcode: " ++ rcodeToString resp.rcode)
    else (pickByMode rcodeToString up domain resp.answer dnsMode).map ipString

end

/-! ## state -/

/-- an entry of the cache, with the mode of the call that stored it; a bootstrap host has none -/
structure Stored where
  domain : Bytes
  ip : Bytes
  storedBy : Option DNSMode
deriving DecidableEq, Repr

/-- a call of `doDNSResolve` that is going on, and the modes of the calls that wait for it -/
structure Flight where
  domain : Bytes
  dnsMode : DNSMode
  joined : List DNSMode := []
deriving DecidableEq, Repr

/-- a call of `Resolve` that returned without an error -/
structure Returned where
  domain : Bytes
  dnsMode : DNSMode
  ip : Bytes
deriving DecidableEq, Repr

structure ResolverState where
  stored : List Stored := []
  flights : Nat → Option Flight := fun _ => none
  nextFlight : Nat := 0
  returned : List Returned := []

/-- whether there is a cache, and a singleflight group -/
structure ResolverConfig where
  dnsCache : Bool
  dnsSingleflight : Bool
deriving DecidableEq, Repr

/-! ## steps -/

section
variable (cfg : ResolverConfig)

/-- `dnsCache.Get`; `hit` is the entry it finds -/
def cacheGet (hit : Option Nat) (domain : Bytes) (s : ResolverState) : Option Stored :=
  if cfg.dnsCache then
    (hit.bind fun k => s.stored[k]?).filter fun e => e.domain = domain
  else none

def cacheAdd (e : Stored) (s : ResolverState) : ResolverState :=
  if cfg.dnsCache then { s with stored := s.stored ++ [e] } else s

/-- the resolution that `dnsSingleflight.Do` joins -/
def flightOf (join : Option Nat) (domain : Bytes) (s : ResolverState) : Option (Nat × Flight) :=
  if cfg.dnsSingleflight then
    (join.bind fun i => (s.flights i).map fun f => (i, f)).filter fun p => p.2.domain = domain
  else none

/-- a call up to where it has an answer or waits for one -/
def resolveCall (domain : Bytes) (dnsMode : DNSMode) (hit join : Option Nat) (s : ResolverState) :
    ResolverState :=
  match cacheGet cfg hit domain s with
  | some e => { s with returned := s.returned ++ [⟨domain, dnsMode, e.ip⟩] }
  | none =>
    match flightOf cfg join domain s with
    | some (i, f) =>
      { s with flights := Function.update s.flights i
                 (some { f with joined := f.joined ++ [dnsMode] }) }
    | none =>
      { s with flights := Function.update s.flights s.nextFlight (some { domain, dnsMode })
               nextFlight := s.nextFlight + 1 }

/-- the answer is stored, and every call that waits for it returns -/
def finishFlight (rcodeToString : Nat → String) (i : Nat) (up : DnsServer) (s : ResolverState) :
    ResolverState :=
  match s.flights i with
  | none => s
  | some f =>
    let s := { s with flights := Function.update s.flights i none }
    match doDNSResolve rcodeToString up f.domain f.dnsMode with
    | .error _ => s
    | .ok ip =>
      let s := cacheAdd cfg ⟨f.domain, ip, some f.dnsMode⟩ s
      { s with returned := s.returned ++ (f.dnsMode :: f.joined).map fun m => ⟨f.domain, m, ip⟩ }

/-- `resolveBootstrapHost`, with what the name service of the system answers -/
def bootstrapCall (host : Bytes) (hit : Option Nat) (addrs : Except String (List IP))
    (s : ResolverState) : ResolverState :=
  if host = [] ∨ isIP host then s
  else match cacheGet cfg hit host s, addrs with
    | some _, _ => s
    | none, .error _ => s
    | none, .ok addrs =>
      if pickBootstrapIP [] addrs = [] then s
      else cacheAdd cfg ⟨host, pickBootstrapIP [] addrs, none⟩ s

inductive ResolverEvent where
  | resolve (domain : Bytes) (dnsMode : DNSMode) (hit join : Option Nat)
  | finish (i : Nat) (up : DnsServer)
  | bootstrap (host : Bytes) (hit : Option Nat) (addrs : Except String (List IP))

def resolverStep (rcodeToString : Nat → String) : ResolverEvent → ResolverState → ResolverState
  | .resolve domain dnsMode hit join, s => resolveCall cfg domain dnsMode hit join s
  | .finish i up, s => finishFlight cfg rcodeToString i up s
  | .bootstrap host hit addrs, s => bootstrapCall cfg host hit addrs s

/-! ## the condition -/

def DNSMode.isOnly : DNSMode → Bool
  | .ipv4Only | .ipv6Only => true
  | _ => false

/-- A call of an only-mode takes from the cache what a call of its own mode has stored, and joins a
call of its own mode; and the AAAA record that it picks is not an IPv4 address in its mapped form. -/
def Unmixed : ResolverEvent → ResolverState → Prop
  | .resolve domain dnsMode hit join, s => dnsMode.isOnly = true →
      match cacheGet cfg hit domain s with
      | some e => e.storedBy = some dnsMode
      | none => ∀ p, flightOf cfg join domain s = some p → p.2.dnsMode = dnsMode
  | .finish i up, s => ∀ f, s.flights i = some f → f.dnsMode = .ipv6Only →
      ∀ resp, up.exchange (setQuestion f.domain typeAAAA) = .ok resp →
        to4 (pickFirstAAAARecord resp.answer) = []
  | .bootstrap _ _ _, _ => True

end

/-- the family that a mode asks for, by `net.ParseIP` and `To4` -/
def Fits (m : DNSMode) (ip : Bytes) : Prop :=
  (m = .ipv4Only → to4 (parseIP ip) ≠ []) ∧
    (m = .ipv6Only → parseIP ip ≠ [] ∧ to4 (parseIP ip) = [])

/-! ## one resolution fits -/

section
variable {rcodeToString : Nat → String} {up : DnsServer} {cfg : ResolverConfig}

theorem pickFirstARecord_length {answer : List RR} (h : ∀ rr ∈ answer, rr.Unpacked)
    (hne : pickFirstARecord answer ≠ []) : (pickFirstARecord answer).length = 4 := by
  induction answer with
  | nil => exact absurd rfl hne
  | cons rr rest ih =>
    obtain ⟨hrr, hrest⟩ := List.forall_mem_cons.mp h
    unfold pickFirstARecord at hne ⊢
    unfold RR.Unpacked at hrr
    cases hd : rr.data with
    | a ip =>
      simp only [hd] at hne hrr ⊢
      exact hrr.resolve_left hne
    | aaaa ip | other =>
      simp only [hd] at hne ⊢
      exact ih hrest hne

theorem pickFirstAAAARecord_length {answer : List RR} (h : ∀ rr ∈ answer, rr.Unpacked)
    (hne : pickFirstAAAARecord answer ≠ []) : (pickFirstAAAARecord answer).length = 16 := by
  induction answer with
  | nil => exact absurd rfl hne
  | cons rr rest ih =>
    obtain ⟨hrr, hrest⟩ := List.forall_mem_cons.mp h
    unfold pickFirstAAAARecord at hne ⊢
    unfold RR.Unpacked at hrr
    cases hd : rr.data with
    | aaaa ip =>
      simp only [hd] at hne hrr ⊢
      exact hrr.resolve_left hne
    | a ip | other =>
      simp only [hd] at hne ⊢
      exact ih hrest hne

theorem doDNSResolve_eq_ok {domain ip : Bytes} {m : DNSMode}
    (h : doDNSResolve rcodeToString up domain m = .ok ip) :
    ∃ resp addr, up.exchange (firstQuestion domain m) = .ok resp ∧
      pickByMode rcodeToString up domain resp.answer m = .ok addr ∧ ip = ipString addr := by
  unfold doDNSResolve at h
  cases he : up.exchange (firstQuestion domain m) with
  | error e =>
    rw [he] at h
    cases h
  | ok resp =>
    rw [he] at h
    by_cases hr : resp.rcode ≠ rcodeSuccess
    · simp only [hr, ne_eq, not_false_eq_true, if_true] at h
      cases h
    · simp only [hr, if_false] at h
      cases hp : pickByMode rcodeToString up domain resp.answer m with
      | error e =>
        rw [hp] at h
        cases h
      | ok addr =>
        rw [hp] at h
        cases h
        exact ⟨resp, addr, rfl, hp, rfl⟩

theorem required_eq_ok {missing : String} {ip addr : IP} (h : required missing ip = .ok addr) :
    ip = addr ∧ addr ≠ [] := by
  unfold required at h
  by_cases hip : ip = []
  · rw [if_pos hip] at h
    cases h
  · rw [if_neg hip] at h
    cases h
    exact ⟨rfl, hip⟩

theorem doDNSResolve_fits {domain ip : Bytes} {m : DNSMode}
    (h : doDNSResolve rcodeToString up domain m = .ok ip)
    (hmapped : m = .ipv6Only → ∀ resp, up.exchange (setQuestion domain typeAAAA) = .ok resp →
      to4 (pickFirstAAAARecord resp.answer) = []) : Fits m ip := by
  obtain ⟨resp, addr, he, hp, rfl⟩ := doDNSResolve_eq_ok h
  have hun := up.unpacked _ resp he
  constructor
  · rintro rfl
    obtain ⟨rfl, hne⟩ := required_eq_ok hp
    rw [parseIP_ipString_v4 (pickFirstARecord_length hun hne)]
    exact hne
  · rintro rfl
    obtain ⟨rfl, hne⟩ := required_eq_ok hp
    have h4 := hmapped rfl resp he
    rw [parseIP_ipString_v6 (pickFirstAAAARecord_length hun hne) h4]
    exact ⟨hne, h4⟩

theorem Fits.of_not_only {m : DNSMode} (h : m.isOnly = false) (ip : Bytes) : Fits m ip := by
  constructor
  · rintro rfl
    cases h
  · rintro rfl
    cases h

/-! ## histories -/

structure ResolverInv (s : ResolverState) : Prop where
  stored : ∀ e ∈ s.stored, ∀ m, e.storedBy = some m → Fits m e.ip
  joined : ∀ i f, s.flights i = some f → ∀ m ∈ f.joined, m.isOnly = true → m = f.dnsMode
  returned : ∀ r ∈ s.returned, Fits r.dnsMode r.ip

theorem cacheGet_mem {hit : Option Nat} {domain : Bytes} {s : ResolverState} {e : Stored}
    (h : cacheGet cfg hit domain s = some e) : e ∈ s.stored := by
  unfold cacheGet at h
  by_cases hc : cfg.dnsCache = true
  · rw [if_pos hc] at h
    obtain ⟨hget, -⟩ := Option.filter_eq_some_iff.mp h
    obtain ⟨k, -, hk⟩ := Option.bind_eq_some_iff.mp hget
    exact List.mem_of_getElem? hk
  · rw [if_neg hc] at h
    cases h

theorem flightOf_some {join : Option Nat} {domain : Bytes} {s : ResolverState} {i : Nat} {f : Flight}
    (h : flightOf cfg join domain s = some (i, f)) : s.flights i = some f := by
  unfold flightOf at h
  by_cases hc : cfg.dnsSingleflight = true
  · rw [if_pos hc] at h
    obtain ⟨hget, -⟩ := Option.filter_eq_some_iff.mp h
    obtain ⟨j, -, hj⟩ := Option.bind_eq_some_iff.mp hget
    obtain ⟨g, hg, he⟩ := Option.map_eq_some_iff.mp hj
    cases he
    exact hg
  · rw [if_neg hc] at h
    cases h

theorem ResolverInv.cacheAdd {s : ResolverState} (h : ResolverInv s) {e : Stored}
    (he : ∀ m, e.storedBy = some m → Fits m e.ip) : ResolverInv (cacheAdd cfg e s) := by
  unfold Bill.cacheAdd
  by_cases hc : cfg.dnsCache = true
  · rw [if_pos hc]
    refine ⟨fun e' hmem => ?_, h.joined, h.returned⟩
    rcases List.mem_append.mp hmem with hold | hnew
    · exact h.stored e' hold
    · rw [List.mem_singleton.mp hnew]
      exact he
  · rw [if_neg hc]
    exact h

theorem resolveCall_inv {s : ResolverState} (h : ResolverInv s) {domain : Bytes} {m : DNSMode}
    {hit join : Option Nat} (hu : Unmixed cfg (.resolve domain m hit join) s) :
    ResolverInv (resolveCall cfg domain m hit join s) := by
  unfold resolveCall
  simp only [Unmixed] at hu
  cases hget : cacheGet cfg hit domain s with
  | some e =>
    simp only [hget] at hu
    refine ⟨h.stored, h.joined, fun r hr => ?_⟩
    rcases List.mem_append.mp hr with hold | hnew
    · exact h.returned r hold
    · rw [List.mem_singleton.mp hnew]
      by_cases hm : m.isOnly = true
      · exact h.stored e (cacheGet_mem hget) m (hu hm)
      · exact .of_not_only (by simpa using hm) e.ip
  | none =>
    simp only [hget] at hu
    cases hfl : flightOf cfg join domain s with
    | some p =>
      obtain ⟨i, f⟩ := p
      refine ⟨h.stored, fun j g hg m' hm' honly => ?_, h.returned⟩
      rcases update_eq_some hg with ⟨-, hg⟩ | ⟨-, hg⟩
      · cases hg
        rcases List.mem_append.mp hm' with hold | hnew
        · exact h.joined i f (flightOf_some hfl) m' hold honly
        · rw [List.mem_singleton.mp hnew] at honly ⊢
          exact (hu honly (i, f) hfl).symm
      · exact h.joined j g hg m' hm' honly
    | none =>
      refine ⟨h.stored, fun j g hg m' hm' honly => ?_, h.returned⟩
      rcases update_eq_some hg with ⟨-, hg⟩ | ⟨-, hg⟩
      · cases hg
        cases hm'
      · exact h.joined j g hg m' hm' honly

theorem finishFlight_inv {s : ResolverState} (h : ResolverInv s) {i : Nat}
    (hu : Unmixed cfg (.finish i up) s) : ResolverInv (finishFlight cfg rcodeToString i up s) := by
  unfold finishFlight
  cases hf : s.flights i with
  | none => exact h
  | some f =>
    have hdone : ResolverInv { s with flights := Function.update s.flights i none } := by
      refine ⟨h.stored, fun j g hg => ?_, h.returned⟩
      rcases update_eq_some hg with ⟨-, hg⟩ | ⟨-, hg⟩
      · cases hg
      · exact h.joined j g hg
    cases hr : doDNSResolve rcodeToString up f.domain f.dnsMode with
    | error e => simpa only [hr] using hdone
    | ok ip =>
      simp only [hr]
      have hfits : Fits f.dnsMode ip := doDNSResolve_fits hr (hu f hf)
      have hadd : ResolverInv (cacheAdd cfg ⟨f.domain, ip, some f.dnsMode⟩ _) :=
        hdone.cacheAdd (by rintro m ⟨⟩; exact hfits)
      refine ⟨hadd.stored, hadd.joined, fun r hmem => ?_⟩
      rcases List.mem_append.mp hmem with hold | hnew
      · exact hadd.returned r hold
      · obtain ⟨m, hm, rfl⟩ := List.mem_map.mp hnew
        -- the leader, a call of its mode, or a call that asks for nothing
        by_cases honly : m.isOnly = true
        · rcases List.mem_cons.mp hm with rfl | hj
          · exact hfits
          · rw [h.joined i f hf m hj honly]
            exact hfits
        · exact .of_not_only (by simpa using honly) ip

theorem bootstrapCall_inv {s : ResolverState} (h : ResolverInv s) (host : Bytes) (hit : Option Nat)
    (addrs : Except String (List IP)) : ResolverInv (bootstrapCall cfg host hit addrs s) := by
  unfold bootstrapCall
  by_cases hip : host = [] ∨ isIP host = true
  · rw [if_pos hip]
    exact h
  · rw [if_neg hip]
    cases cacheGet cfg hit host s with
    | some e => exact h
    | none =>
      cases addrs with
      | error e => exact h
      | ok addrs =>
        by_cases hp : pickBootstrapIP [] addrs = []
        · simp only [hp, if_true]
          exact h
        · simp only [hp, if_false]
          exact h.cacheAdd fun m hm => nomatch hm

theorem resolverStep_inv (e : ResolverEvent) (s : ResolverState) (hu : Unmixed cfg e s)
    (h : ResolverInv s) : ResolverInv (resolverStep cfg rcodeToString e s) := by
  cases e with
  | resolve domain m hit join => exact resolveCall_inv h hu
  | finish i up => exact finishFlight_inv h hu
  | bootstrap host hit addrs => exact bootstrapCall_inv h host hit addrs

theorem resolver_initial : ResolverInv {} :=
  ⟨fun _ h => (nomatch h), fun _ _ h => (nomatch h), fun _ h => nomatch h⟩

end

/-- **along unmixed calls the only-modes give addresses of their family** -/
theorem modes_respected (cfg : ResolverConfig) (rcodeToString : Nat → String)
    (es : List ResolverEvent) (h : Along (resolverStep cfg rcodeToString) (Unmixed cfg) es {}) :
    ∀ r ∈ (runAll (resolverStep cfg rcodeToString) es {}).returned,
      (r.dnsMode = .ipv4Only → to4 (parseIP r.ip) ≠ []) ∧
        (r.dnsMode = .ipv6Only → parseIP r.ip ≠ [] ∧ to4 (parseIP r.ip) = []) :=
  (h.invariant resolverStep_inv resolver_initial).returned

/-- a server that answers every question with one record -/
def answering (data : RData) (h : RR.Unpacked ⟨⟨[], 0, 0, 0⟩, data⟩) : DnsServer where
  exchange req := .ok { question := req.question, answer := [⟨⟨[], 0, 0, 0⟩, data⟩] }
  unpacked := by
    rintro req resp ⟨⟩ rr hrr
    rw [List.mem_singleton.mp hrr]
    exact h

def serverV4 : DnsServer := answering (.a [192, 0, 2, 7]) (.inr rfl)

def serverV6 : DnsServer :=
  answering (.aaaa [0x20, 1, 0xd, 0xb8, 0, 0, 0, 0, 0, 0, 0, 0, 0, 0, 0, 1]) (.inr rfl)

def serverMapped : DnsServer :=
  answering (.aaaa [0, 0, 0, 0, 0, 0, 0, 0, 0, 0, 0xff, 0xff, 192, 0, 2, 7]) (.inr rfl)

/-- two calls of one mode, the second answered by the cache -/
def sameModeTwice : List ResolverEvent :=
  [.resolve (lit "a.example") .ipv6Only none none, .finish 0 serverV6,
    .resolve (lit "a.example") .ipv6Only (some 0) none]

theorem modes_respected_twice :
    (runAll (resolverStep ⟨true, true⟩ toString) sameModeTwice {}).returned.length = 2 ∧
      to4 (parseIP (lit "2001:db8::1")) = [] := by
  have hun : Along (resolverStep ⟨true, true⟩ toString) (Unmixed ⟨true, true⟩) sameModeTwice {} := by
    refine ⟨fun _ p hp => (nomatch hp), fun f hf _ resp hresp => ?_, fun _ => rfl, trivial⟩
    cases hf
    cases hresp
    decide
  have h := modes_respected ⟨true, true⟩ toString sameModeTwice hun
    ⟨lit "a.example", .ipv6Only, lit "2001:db8::1"⟩ (by decide +kernel)
  exact ⟨by decide +kernel, (h.2 rfl).2⟩

/-- **what a call of another mode stored or asked for reaches an only-mode**: through the cache, from
a bootstrap host, through a shared resolution; and a mapped address is printed as an IPv4 address -/
theorem modes_mixed :
    (runAll (resolverStep ⟨true, false⟩ toString) [.resolve (lit "a.example") .preferIPv6 none none,
      .finish 0 serverV6, .resolve (lit "a.example") .ipv4Only (some 0) none] {}).returned =
        [⟨lit "a.example", .preferIPv6, lit "2001:db8::1"⟩,
          ⟨lit "a.example", .ipv4Only, lit "2001:db8::1"⟩] ∧
    (runAll (resolverStep ⟨true, false⟩ toString) [.bootstrap (lit "a.example") none
      (.ok [[192, 0, 2, 7]]), .resolve (lit "a.example") .ipv6Only (some 0) none] {}).returned =
        [⟨lit "a.example", .ipv6Only, lit "192.0.2.7"⟩] ∧
    (runAll (resolverStep ⟨false, true⟩ toString) [.resolve (lit "a.example") .ipv4Only none none,
      .resolve (lit "a.example") .ipv6Only none (some 0), .finish 0 serverV4] {}).returned =
        [⟨lit "a.example", .ipv4Only, lit "192.0.2.7"⟩,
          ⟨lit "a.example", .ipv6Only, lit "192.0.2.7"⟩] ∧
    (runAll (resolverStep ⟨false, false⟩ toString) [.resolve (lit "a.example") .ipv6Only none none,
      .finish 0 serverMapped] {}).returned = [⟨lit "a.example", .ipv6Only, lit "192.0.2.7"⟩] ∧
    to4 (parseIP (lit "2001:db8::1")) = [] ∧ to4 (parseIP (lit "192.0.2.7")) ≠ [] := by
  decide +kernel

end Bill
