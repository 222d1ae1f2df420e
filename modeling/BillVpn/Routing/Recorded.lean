import BillVpn.Config.Load
import BillVpn.Dns.Answer

/-!
# What routing reads from the DNS state

The planner looks up the answers that DNS queries have left behind: the recorded address of a name,
and the name behind an address.

* `lookupRecordedDNSIP`, `lookupDomainByIP`   as in the source;
* `Net`                                       the DNS state beside what the rest of the program has;
* `Globals.dnsEnv`                            routing with the variables and with these lookups.

The reverse cache forgets: `hit` is whether it still has the last name that was added for the address.
-/

set_option linter.unusedVariables false

namespace Bill
open Go Proc

/-! ## recorded answers -/

/-- an entry without what has expired -/
def RecordedDNSResult.pruned (entry : RecordedDNSResult) (now : Int) : RecordedDNSResult :=
  let ipv4Valid := entry.ipv4 ≠ [] ∧ now < entry.ipv4Expire
  let ipv6Valid := entry.ipv6 ≠ [] ∧ now < entry.ipv6Expire
  { ipv4 := if ipv4Valid then entry.ipv4 else []
    ipv4Expire := if ipv4Valid then entry.ipv4Expire else 0
    ipv6 := if ipv6Valid then entry.ipv6 else []
    ipv6Expire := if ipv6Valid then entry.ipv6Expire else 0 }

/-- the address, if there is one -/
def present? (ip : Bytes) : Option Bytes := if ip = [] then none else some ip

/-- what is left after `pruned` is valid -/
def RecordedDNSResult.byMode (entry : RecordedDNSResult) : DNSMode → Option Bytes
  | .ipv4Only => present? entry.ipv4
  | .ipv6Only => present? entry.ipv6
  | .preferIPv6 => present? entry.ipv6 <|> present? entry.ipv4
  | _ => present? entry.ipv4 <|> present? entry.ipv6

def lookupRecordedDNSIP (lower : Bytes → Bytes) (domain : Bytes) (dnsMode : DNSMode) (now : Int) :
    Proc DnsState (Option Bytes) := fun s =>
  if domain = [] then (.ok none, s)
  else
    match s.recordedDNSIPs.get (lower domain) with
    | none => (.ok none, s)
    | some entry =>
      let entry := entry.pruned now
      if entry.ipv4 = [] ∧ entry.ipv6 = [] then
        (.ok none, { s with recordedDNSIPs := s.recordedDNSIPs.del (lower domain) })
      else
        (.ok (entry.byMode dnsMode),
          { s with recordedDNSIPs := s.recordedDNSIPs.set (lower domain) entry })

/-! ## the name behind an address -/

/-- the name that was added last for the address -/
def lastAdded (calls : List (Bytes × Bytes)) (ip : Bytes) : Option Bytes :=
  (calls.reverse.find? (·.1 = ip)).map (·.2)

def ipDomainCacheGet (hit : Bool) (ip : Bytes) (s : DnsState) : Option Bytes :=
  if hit then s.ipDomainCache.bind (lastAdded · ip) else none

def cachedDomain (hit : Bool) (ip : Bytes) : Proc DnsState (Option Bytes) := fun s =>
  (.ok (if ip = [] then none else ipDomainCacheGet hit ip s), s)

def lookupDomainByIP (hit : Bool) (ip : Bytes) (now : Int) : Proc DnsState (Option Bytes) := do
  match ← lookupFakeDomainByIP ip now with
  | some domain => pure (some domain)
  | none => cachedDomain hit ip

/-! ## routing -/

/-- the DNS state, and the state of pools and resolver -/
structure Net (ρ : Type) where
  dns : DnsState
  rest : ρ

def onDns {ρ α : Type} (x : Proc DnsState α) : Proc (Net ρ) α :=
  zoom (·.dns) (fun t s => { s with dns := t }) x

def onRest {ρ α : Type} (x : Proc ρ α) : Proc (Net ρ) α :=
  zoom (·.rest) (fun t s => { s with rest := t }) x

/-- `LookupDomain` of the default resolver: no name is the empty one -/
def lookupDomain {ρ : Type} (hit : Bool) (now : Int) (ip : Bytes) : Proc (Net ρ) Bytes := do
  let domain ← onDns (lookupDomainByIP hit ip now)
  pure (domain.getD [])

/-- routing by the variables and the recorded answers; the rest comes from `rt` -/
def Globals.dnsEnv {κ τ ρ : Type} (std : Std) (g : Globals κ τ) (rt : Env (Net ρ)) (now : Int)
    (hit : Bool) : Env (Net ρ) :=
  { g.env std rt with
    lookupRecordedDNSIP := fun domain dnsMode =>
      onDns (lookupRecordedDNSIP std.toLower domain dnsMode now)
    lookupDomain := lookupDomain hit now }

end Bill
