import BillVpn.Android.Moshi
import BillVpn.Config.Decode

/-!
# Profiles on Android

`ConfigRepository` reads a profile into data classes of its own and writes it back.  The classes
name most of the fields of the core's configuration, but not all, and have their own defaults.

* `ProfilePolicy`, `BillVpnConfig`    the data classes;
* `fromJson`, `toJson`                as the adapters do it (`loadConfig`, `downloadConfig` and
                                      `saveConfig` only move the text);
* `policy_round_trip`                 **what the core reads from a policy that was written back**.
-/

set_option linter.unusedVariables false

namespace Bill
open Go Moshi

/-! ## policies -/

/-- the class `Policy`; it has no port -/
structure ProfilePolicy where
  replyFirst : Option Bool := none
  dnsMode : Option Bytes := none
  connectTimeout : Option Bytes := none
  tls13Only : Option Bool := none
  httpStatus : Option Int := none
  mode : Option Bytes := none
  modMinorVer : Option Bool := none
  numRecords : Option Int := none
  numSegs : Option Int := none
  sendInterval : Option Bytes := none
  oob : Option Bool := none
  oobEx : Option Bool := none
  fakeTtl : Option Int := none
  fakeSleep : Option Bytes := none
  attempts : Option Int := none
  maxTtl : Option Int := none
  singleTimeout : Option Bytes := none
  host : Option Bytes := none
  mapTo : Option Bytes := none
deriving DecidableEq, Repr

namespace ProfilePolicy

def read (kvs : List (Bytes × Json)) : Option ProfilePolicy := do
  let replyFirst ← prop "reply_first" (nullable bool) none kvs
  let dnsMode ← prop "dns_mode" (nullable str) none kvs
  let connectTimeout ← prop "connect_timeout" (nullable str) none kvs
  let tls13Only ← prop "tls13_only" (nullable bool) none kvs
  let httpStatus ← prop "http_status" (nullable int) none kvs
  let mode ← prop "mode" (nullable str) none kvs
  let modMinorVer ← prop "mod_minor_ver" (nullable bool) none kvs
  let numRecords ← prop "num_records" (nullable int) none kvs
  let numSegs ← prop "num_segs" (nullable int) none kvs
  let sendInterval ← prop "send_interval" (nullable str) none kvs
  let oob ← prop "oob" (nullable bool) none kvs
  let oobEx ← prop "oob_ex" (nullable bool) none kvs
  let fakeTtl ← prop "fake_ttl" (nullable int) none kvs
  let fakeSleep ← prop "fake_sleep" (nullable str) none kvs
  let attempts ← prop "attempts" (nullable int) none kvs
  let maxTtl ← prop "max_ttl" (nullable int) none kvs
  let singleTimeout ← prop "single_timeout" (nullable str) none kvs
  let host ← prop "host" (nullable str) none kvs
  let mapTo ← prop "map_to" (nullable str) none kvs
  pure ⟨replyFirst, dnsMode, connectTimeout, tls13Only, httpStatus, mode, modMinorVer, numRecords,
    numSegs, sendInterval, oob, oobEx, fakeTtl, fakeSleep, attempts, maxTtl, singleTimeout, host,
    mapTo⟩

def fromJson : Json → Option ProfilePolicy
  | .obj kvs => read kvs
  | _ => none

def names : List String :=
  ["reply_first", "dns_mode", "connect_timeout", "tls13_only", "http_status", "mode",
    "mod_minor_ver", "num_records", "num_segs", "send_interval", "oob", "oob_ex", "fake_ttl",
    "fake_sleep", "attempts", "max_ttl", "single_timeout", "host", "map_to"]

def fields (p : ProfilePolicy) : List (String × Option Json) :=
  [("reply_first", p.replyFirst.map .bool),
    ("dns_mode", p.dnsMode.map .str),
    ("connect_timeout", p.connectTimeout.map .str),
    ("tls13_only", p.tls13Only.map .bool),
    ("http_status", p.httpStatus.map ofInt),
    ("mode", p.mode.map .str),
    ("mod_minor_ver", p.modMinorVer.map .bool),
    ("num_records", p.numRecords.map ofInt),
    ("num_segs", p.numSegs.map ofInt),
    ("send_interval", p.sendInterval.map .str),
    ("oob", p.oob.map .bool),
    ("oob_ex", p.oobEx.map .bool),
    ("fake_ttl", p.fakeTtl.map ofInt),
    ("fake_sleep", p.fakeSleep.map .str),
    ("attempts", p.attempts.map ofInt),
    ("max_ttl", p.maxTtl.map ofInt),
    ("single_timeout", p.singleTimeout.map .str),
    ("host", p.host.map .str),
    ("map_to", p.mapTo.map .str)]

def toJson (p : ProfilePolicy) : Json := object p.fields

end ProfilePolicy

/-! ## profiles -/

structure BillVpnConfig where
  logLevel : Bytes := lit "INFO"
  socks5Address : Bytes := lit "127.0.0.1:1080"
  httpAddress : Bytes := lit "127.0.0.1:1225"
  dnsAddr : Bytes := lit "https://xwfpeb16ii.cloudflare-gateway.com/dns-query"
  socks5ForDoh : Bytes := []
  udpMinSize : Int := 4096
  dnsSingleFlight : Bool := false
  dnsCacheTtl : Int := 3600
  dnsCacheCap : Int := 4096
  ttlSingleFlight : Bool := true
  ttlCacheTtl : Int := 86400
  ttlCacheCap : Int := 1024
  fakeTtlRules : Bytes := lit "0-1;3=3;5-1;8-2;13-3;20=18"
  transmitFileLimit : Int := 2
  defaultPolicy : ProfilePolicy := {}
  ipPolicies : GoMap Bytes (Option ProfilePolicy) := ∅
  domainPolicies : GoMap Bytes (Option ProfilePolicy) := ∅

namespace BillVpnConfig

def read (kvs : List (Bytes × Json)) : Option BillVpnConfig := do
  let absent : BillVpnConfig := {}
  let logLevel ← prop "log_level" str absent.logLevel kvs
  let socks5Address ← prop "socks5_address" str absent.socks5Address kvs
  let httpAddress ← prop "http_address" str absent.httpAddress kvs
  let dnsAddr ← prop "dns_addr" str absent.dnsAddr kvs
  let socks5ForDoh ← prop "socks5_for_doh" str absent.socks5ForDoh kvs
  let udpMinSize ← prop "udp_minsize" int absent.udpMinSize kvs
  let dnsSingleFlight ← prop "dns_singleflight" bool absent.dnsSingleFlight kvs
  let dnsCacheTtl ← prop "dns_cache_ttl" int absent.dnsCacheTtl kvs
  let dnsCacheCap ← prop "dns_cache_cap" int absent.dnsCacheCap kvs
  let ttlSingleFlight ← prop "ttl_singleflight" bool absent.ttlSingleFlight kvs
  let ttlCacheTtl ← prop "ttl_cache_ttl" int absent.ttlCacheTtl kvs
  let ttlCacheCap ← prop "ttl_cache_cap" int absent.ttlCacheCap kvs
  let fakeTtlRules ← prop "fake_ttl_rules" str absent.fakeTtlRules kvs
  let transmitFileLimit ← prop "transmit_file_limit" int absent.transmitFileLimit kvs
  let defaultPolicy ← prop "default_policy" ProfilePolicy.fromJson absent.defaultPolicy kvs
  let ipPolicies ← prop "ip_policies" (map ProfilePolicy.fromJson) absent.ipPolicies kvs
  let domainPolicies ← prop "domain_policies" (map ProfilePolicy.fromJson) absent.domainPolicies
    kvs
  pure ⟨logLevel, socks5Address, httpAddress, dnsAddr, socks5ForDoh, udpMinSize, dnsSingleFlight,
    dnsCacheTtl, dnsCacheCap, ttlSingleFlight, ttlCacheTtl, ttlCacheCap, fakeTtlRules,
    transmitFileLimit, defaultPolicy, ipPolicies, domainPolicies⟩

/-- a `null` is no profile: `loadConfig` returns it, `downloadConfig` throws -/
def fromJson : Json → Option BillVpnConfig
  | .obj kvs => read kvs
  | _ => none

def fields (c : BillVpnConfig) : List (String × Option Json) :=
  [("log_level", some (.str c.logLevel)),
    ("socks5_address", some (.str c.socks5Address)),
    ("http_address", some (.str c.httpAddress)),
    ("dns_addr", some (.str c.dnsAddr)),
    ("socks5_for_doh", some (.str c.socks5ForDoh)),
    ("udp_minsize", some (ofInt c.udpMinSize)),
    ("dns_singleflight", some (.bool c.dnsSingleFlight)),
    ("dns_cache_ttl", some (ofInt c.dnsCacheTtl)),
    ("dns_cache_cap", some (ofInt c.dnsCacheCap)),
    ("ttl_singleflight", some (.bool c.ttlSingleFlight)),
    ("ttl_cache_ttl", some (ofInt c.ttlCacheTtl)),
    ("ttl_cache_cap", some (ofInt c.ttlCacheCap)),
    ("fake_ttl_rules", some (.str c.fakeTtlRules)),
    ("transmit_file_limit", some (ofInt c.transmitFileLimit)),
    ("default_policy", some c.defaultPolicy.toJson),
    ("ip_policies", some (ofMap ProfilePolicy.toJson c.ipPolicies)),
    ("domain_policies", some (ofMap ProfilePolicy.toJson c.domainPolicies))]

def toJson (c : BillVpnConfig) : Json := object c.fields

end BillVpnConfig

/-! ## what the core has passed -/

/-- nothing comes from nothing -/
def Std.Quiet (std : Std) : Prop := std.toLower (std.trimSpace []) = []

section
variable {std : Std} {name : String} {kvs : List (Bytes × Json)}

theorem unmarshalMode_str (hstd : Std.Quiet std) (a : Mode) (j : Json) (a' : Mode)
    (h : unmarshalMode std a j = .ok a') : ∃ s, j = .str s := by
  obtain ⟨s, hs, h⟩ := Res.bind_eq_ok.mp h
  cases j with
  | str s => exact ⟨s, rfl⟩
  | null =>
    cases hs
    dsimp only at h
    rw [hstd] at h
    cases h
  | bool b | num s | arr l | obj l => cases hs

theorem unmarshalDNSMode_str (a : DNSMode) (j : Json) (a' : DNSMode)
    (h : unmarshalDNSMode a j = .ok a') : ∃ s, j = .str s := by
  obtain ⟨s, hs, h⟩ := Res.bind_eq_ok.mp h
  cases j with
  | str s => exact ⟨s, rfl⟩
  | null =>
    cases hs
    cases h
  | bool b | num s | arr l | obj l => cases hs

theorem flag_keeps (hp : Passed name unmarshalBool kvs) :
    Keeps name Moshi.bool .bool unmarshalBool .unset kvs := by
  refine ⟨plain_iff fun j hn => ?_, fun v h => ?_⟩
  · obtain ⟨a, a', ha⟩ := hp.once hn
    cases j with
    | null | bool b => simp [nullable, Moshi.bool]
    | num s | str s | arr l | obj l => cases ha
  · rcases prop_eq_some.mp h with ⟨hn, rfl⟩ | ⟨j, hn, hj⟩
    · exact .of_absent hn
    · cases j with
      | null | bool b =>
        cases hj
        exact .of_once hn rfl
      | num s | str s | arr l | obj l => cases hj

/-- every property of a policy that the core has passed -/
structure PolicyKeeps (std : Std) (kvs : List (Bytes × Json)) : Prop where
  replyFirst : Keeps "reply_first" Moshi.bool .bool unmarshalBool .unset kvs
  dnsMode : Keeps "dns_mode" str .str unmarshalDNSMode .unknown kvs
  connectTimeout : Keeps "connect_timeout" str .str (Json.pointer [] Json.string) none kvs
  tls13Only : Keeps "tls13_only" Moshi.bool .bool unmarshalBool .unset kvs
  httpStatus : Keeps "http_status" Moshi.int ofInt (Json.pointer 0 Json.int) none kvs
  mode : Keeps "mode" str .str (unmarshalMode std) .unknown kvs
  modMinorVer : Keeps "mod_minor_ver" Moshi.bool .bool unmarshalBool .unset kvs
  numRecords : Keeps "num_records" Moshi.int ofInt (Json.pointer 0 Json.int) none kvs
  numSegs : Keeps "num_segs" Moshi.int ofInt (Json.pointer 0 Json.int) none kvs
  sendInterval : Keeps "send_interval" str .str (Json.pointer [] Json.string) none kvs
  oob : Keeps "oob" Moshi.bool .bool unmarshalBool .unset kvs
  oobEx : Keeps "oob_ex" Moshi.bool .bool unmarshalBool .unset kvs
  fakeTtl : Keeps "fake_ttl" Moshi.int ofInt (Json.pointer 0 Json.int) none kvs
  fakeSleep : Keeps "fake_sleep" str .str (Json.pointer [] Json.string) none kvs
  attempts : Keeps "attempts" Moshi.int ofInt (Json.pointer 0 Json.int) none kvs
  maxTtl : Keeps "max_ttl" Moshi.int ofInt (Json.pointer 0 Json.int) none kvs
  singleTimeout : Keeps "single_timeout" str .str (Json.pointer [] Json.string) none kvs
  host : Keeps "host" str .str (Json.pointer [] Json.string) none kvs
  mapTo : Keeps "map_to" str .str (Json.pointer [] Json.string) none kvs

theorem policyKeeps {tmp : PolicyJSON} (hstd : Std.Quiet std)
    (h : decodePolicyJSON std (.obj kvs) = .ok tmp) : PolicyKeeps std kvs := by
  obtain ⟨_, ⟨⟩, h⟩ := Res.bind_eq_ok.mp h
  obtain ⟨_, hreplyFirst, h⟩ := Res.bind_eq_ok.mp h
  obtain ⟨_, hconnectTimeout, h⟩ := Res.bind_eq_ok.mp h
  obtain ⟨_, hhost, h⟩ := Res.bind_eq_ok.mp h
  obtain ⟨_, hmapTo, h⟩ := Res.bind_eq_ok.mp h
  obtain ⟨_, -, h⟩ := Res.bind_eq_ok.mp h
  obtain ⟨_, hdnsMode, h⟩ := Res.bind_eq_ok.mp h
  obtain ⟨_, hhttpStatus, h⟩ := Res.bind_eq_ok.mp h
  obtain ⟨_, htls13Only, h⟩ := Res.bind_eq_ok.mp h
  obtain ⟨_, hmode, h⟩ := Res.bind_eq_ok.mp h
  obtain ⟨_, hnumRecords, h⟩ := Res.bind_eq_ok.mp h
  obtain ⟨_, hnumSegments, h⟩ := Res.bind_eq_ok.mp h
  obtain ⟨_, hoob, h⟩ := Res.bind_eq_ok.mp h
  obtain ⟨_, hoobEx, h⟩ := Res.bind_eq_ok.mp h
  obtain ⟨_, hmodMinorVer, h⟩ := Res.bind_eq_ok.mp h
  obtain ⟨_, hsendInterval, h⟩ := Res.bind_eq_ok.mp h
  obtain ⟨_, hfakeTTL, h⟩ := Res.bind_eq_ok.mp h
  obtain ⟨_, hfakeSleep, h⟩ := Res.bind_eq_ok.mp h
  obtain ⟨_, hmaxTTL, h⟩ := Res.bind_eq_ok.mp h
  obtain ⟨_, hattempts, h⟩ := Res.bind_eq_ok.mp h
  obtain ⟨_, hsingleTimeout, h⟩ := Res.bind_eq_ok.mp h
  constructor
  case replyFirst => exact flag_keeps fun _ => named_decoded hreplyFirst
  case dnsMode => exact coded_keeps unmarshalDNSMode_str fun _ => named_decoded hdnsMode
  case connectTimeout => exact text_keeps fun _ => named_decoded hconnectTimeout
  case tls13Only => exact flag_keeps fun _ => named_decoded htls13Only
  case httpStatus => exact int_keeps fun _ => named_decoded hhttpStatus
  case mode => exact coded_keeps (unmarshalMode_str hstd) fun _ => named_decoded hmode
  case modMinorVer => exact flag_keeps fun _ => named_decoded hmodMinorVer
  case numRecords => exact int_keeps fun _ => named_decoded hnumRecords
  case numSegs => exact int_keeps fun _ => named_decoded hnumSegments
  case sendInterval => exact text_keeps fun _ => named_decoded hsendInterval
  case oob => exact flag_keeps fun _ => named_decoded hoob
  case oobEx => exact flag_keeps fun _ => named_decoded hoobEx
  case fakeTtl => exact int_keeps fun _ => named_decoded hfakeTTL
  case fakeSleep => exact text_keeps fun _ => named_decoded hfakeSleep
  case attempts => exact int_keeps fun _ => named_decoded hattempts
  case maxTtl => exact int_keeps fun _ => named_decoded hmaxTTL
  case singleTimeout => exact text_keeps fun _ => named_decoded hsingleTimeout
  case host => exact text_keeps fun _ => named_decoded hhost
  case mapTo => exact text_keeps fun _ => named_decoded hmapTo

/-- one fact for each property -/
structure PolicyRead (kvs : List (Bytes × Json)) (k : ProfilePolicy) : Prop where
  replyFirst : prop "reply_first" (nullable Moshi.bool) none kvs = some k.replyFirst
  dnsMode : prop "dns_mode" (nullable Moshi.str) none kvs = some k.dnsMode
  connectTimeout : prop "connect_timeout" (nullable Moshi.str) none kvs = some k.connectTimeout
  tls13Only : prop "tls13_only" (nullable Moshi.bool) none kvs = some k.tls13Only
  httpStatus : prop "http_status" (nullable Moshi.int) none kvs = some k.httpStatus
  mode : prop "mode" (nullable Moshi.str) none kvs = some k.mode
  modMinorVer : prop "mod_minor_ver" (nullable Moshi.bool) none kvs = some k.modMinorVer
  numRecords : prop "num_records" (nullable Moshi.int) none kvs = some k.numRecords
  numSegs : prop "num_segs" (nullable Moshi.int) none kvs = some k.numSegs
  sendInterval : prop "send_interval" (nullable Moshi.str) none kvs = some k.sendInterval
  oob : prop "oob" (nullable Moshi.bool) none kvs = some k.oob
  oobEx : prop "oob_ex" (nullable Moshi.bool) none kvs = some k.oobEx
  fakeTtl : prop "fake_ttl" (nullable Moshi.int) none kvs = some k.fakeTtl
  fakeSleep : prop "fake_sleep" (nullable Moshi.str) none kvs = some k.fakeSleep
  attempts : prop "attempts" (nullable Moshi.int) none kvs = some k.attempts
  maxTtl : prop "max_ttl" (nullable Moshi.int) none kvs = some k.maxTtl
  singleTimeout : prop "single_timeout" (nullable Moshi.str) none kvs = some k.singleTimeout
  host : prop "host" (nullable Moshi.str) none kvs = some k.host
  mapTo : prop "map_to" (nullable Moshi.str) none kvs = some k.mapTo

theorem policyRead_iff {k : ProfilePolicy} :
    ProfilePolicy.read kvs = some k ↔ PolicyRead kvs k := by
  constructor
  · intro h
    unfold ProfilePolicy.read at h
    obtain ⟨_, hreplyFirst, h⟩ := Option.bind_eq_some_iff.mp h
    obtain ⟨_, hdnsMode, h⟩ := Option.bind_eq_some_iff.mp h
    obtain ⟨_, hconnectTimeout, h⟩ := Option.bind_eq_some_iff.mp h
    obtain ⟨_, htls13Only, h⟩ := Option.bind_eq_some_iff.mp h
    obtain ⟨_, hhttpStatus, h⟩ := Option.bind_eq_some_iff.mp h
    obtain ⟨_, hmode, h⟩ := Option.bind_eq_some_iff.mp h
    obtain ⟨_, hmodMinorVer, h⟩ := Option.bind_eq_some_iff.mp h
    obtain ⟨_, hnumRecords, h⟩ := Option.bind_eq_some_iff.mp h
    obtain ⟨_, hnumSegs, h⟩ := Option.bind_eq_some_iff.mp h
    obtain ⟨_, hsendInterval, h⟩ := Option.bind_eq_some_iff.mp h
    obtain ⟨_, hoob, h⟩ := Option.bind_eq_some_iff.mp h
    obtain ⟨_, hoobEx, h⟩ := Option.bind_eq_some_iff.mp h
    obtain ⟨_, hfakeTtl, h⟩ := Option.bind_eq_some_iff.mp h
    obtain ⟨_, hfakeSleep, h⟩ := Option.bind_eq_some_iff.mp h
    obtain ⟨_, hattempts, h⟩ := Option.bind_eq_some_iff.mp h
    obtain ⟨_, hmaxTtl, h⟩ := Option.bind_eq_some_iff.mp h
    obtain ⟨_, hsingleTimeout, h⟩ := Option.bind_eq_some_iff.mp h
    obtain ⟨_, hhost, h⟩ := Option.bind_eq_some_iff.mp h
    obtain ⟨_, hmapTo, h⟩ := Option.bind_eq_some_iff.mp h
    cases h
    exact ⟨hreplyFirst, hdnsMode, hconnectTimeout, htls13Only, hhttpStatus, hmode, hmodMinorVer,
      hnumRecords, hnumSegs, hsendInterval, hoob, hoobEx, hfakeTtl, hfakeSleep, hattempts,
      hmaxTtl, hsingleTimeout, hhost, hmapTo⟩
  · intro h
    unfold ProfilePolicy.read
    simp only [h.replyFirst, h.dnsMode, h.connectTimeout, h.tls13Only, h.httpStatus, h.mode,
      h.modMinorVer, h.numRecords, h.numSegs, h.sendInterval, h.oob, h.oobEx, h.fakeTtl,
      h.fakeSleep, h.attempts, h.maxTtl, h.singleTimeout, h.host, h.mapTo, Option.bind_eq_bind,
      Option.bind_some]
    rfl

/-- **A policy is read exactly if every name in it is plain.** -/
theorem policyRead_plain (hp : PolicyKeeps std kvs) :
    (∃ k, ProfilePolicy.read kvs = some k) ↔ ∀ name ∈ ProfilePolicy.names, Plain name kvs := by
  simp only [ProfilePolicy.names, List.forall_mem_cons, List.not_mem_nil, false_imp_iff,
    implies_true, and_true]
  simp only [← hp.replyFirst.plain, ← hp.dnsMode.plain, ← hp.connectTimeout.plain, ←
    hp.tls13Only.plain, ← hp.httpStatus.plain, ← hp.mode.plain, ← hp.modMinorVer.plain, ←
    hp.numRecords.plain, ← hp.numSegs.plain, ← hp.sendInterval.plain, ← hp.oob.plain, ←
    hp.oobEx.plain, ← hp.fakeTtl.plain, ← hp.fakeSleep.plain, ← hp.attempts.plain, ←
    hp.maxTtl.plain, ← hp.singleTimeout.plain, ← hp.host.plain, ← hp.mapTo.plain]
  constructor
  · rintro ⟨k, hk⟩
    have h := policyRead_iff.mp hk
    exact ⟨⟨_, h.replyFirst⟩, ⟨_, h.dnsMode⟩, ⟨_, h.connectTimeout⟩, ⟨_, h.tls13Only⟩, ⟨_,
      h.httpStatus⟩, ⟨_, h.mode⟩, ⟨_, h.modMinorVer⟩, ⟨_, h.numRecords⟩, ⟨_, h.numSegs⟩, ⟨_,
      h.sendInterval⟩, ⟨_, h.oob⟩, ⟨_, h.oobEx⟩, ⟨_, h.fakeTtl⟩, ⟨_, h.fakeSleep⟩, ⟨_,
      h.attempts⟩, ⟨_, h.maxTtl⟩, ⟨_, h.singleTimeout⟩, ⟨_, h.host⟩, ⟨_, h.mapTo⟩⟩
  · rintro ⟨⟨_, hreplyFirst⟩, ⟨_, hdnsMode⟩, ⟨_, hconnectTimeout⟩, ⟨_, htls13Only⟩, ⟨_,
      hhttpStatus⟩, ⟨_, hmode⟩, ⟨_, hmodMinorVer⟩, ⟨_, hnumRecords⟩, ⟨_, hnumSegs⟩, ⟨_,
      hsendInterval⟩, ⟨_, hoob⟩, ⟨_, hoobEx⟩, ⟨_, hfakeTtl⟩, ⟨_, hfakeSleep⟩, ⟨_, hattempts⟩, ⟨_,
      hmaxTtl⟩, ⟨_, hsingleTimeout⟩, ⟨_, hhost⟩, ⟨_, hmapTo⟩⟩
    exact ⟨⟨_, _, _, _, _, _, _, _, _, _, _, _, _, _, _, _, _, _, _⟩, policyRead_iff.mpr
      ⟨hreplyFirst, hdnsMode, hconnectTimeout, htls13Only, hhttpStatus, hmode, hmodMinorVer,
      hnumRecords, hnumSegs, hsendInterval, hoob, hoobEx, hfakeTtl, hfakeSleep, hattempts,
      hmaxTtl, hsingleTimeout, hhost, hmapTo⟩⟩

theorem policyNames_distinct : Distinct ProfilePolicy.names := by decide +kernel

theorem written_field {α β : Type} (k : ProfilePolicy) {read : Json → Option α}
    {enc : α → Json} {dec : β → Json → Res β} {cur : β} {v : Option α}
    (hk : Keeps name read enc dec cur kvs) (h : prop name (nullable read) none kvs = some v)
    (hmem : (name, v.map enc) ∈ k.fields) :
    Json.field name dec cur (members k.fields) =
      Json.field name dec cur (only ProfilePolicy.names kvs) := by
  have hname : name ∈ ProfilePolicy.names := List.mem_map_of_mem (f := (·.1)) hmem
  have hd : Distinct (k.fields.map (·.1)) := policyNames_distinct
  rw [field_only policyNames_distinct hname, hk.mirrors v h]
  exact field_object hd hmem

theorem port_not_kept :
    ∀ n ∈ ProfilePolicy.names, Json.foldName (lit n) ≠ Json.foldName (lit "port") := by
  decide +kernel

/-- the written policy is to the core what was there under the names that a profile keeps -/
theorem decode_written {k : ProfilePolicy} (hp : PolicyKeeps std kvs) (h : PolicyRead kvs k) :
    decodePolicyJSON std k.toJson = decodePolicyJSON std (.obj (only ProfilePolicy.names kvs)) := by
  have hport : intField "port" (members k.fields) =
      intField "port" (only ProfilePolicy.names kvs) := by
    unfold intField
    rw [field_only_absent port_not_kept]
    exact field_members_absent fun m hm => port_not_kept m.1 (List.mem_map_of_mem (f := (·.1)) hm)
  have hreplyFirst := written_field k hp.replyFirst h.replyFirst (by simp [ProfilePolicy.fields])
  have hconnectTimeout := written_field k hp.connectTimeout h.connectTimeout
    (by simp [ProfilePolicy.fields])
  have hhost := written_field k hp.host h.host (by simp [ProfilePolicy.fields])
  have hmapTo := written_field k hp.mapTo h.mapTo (by simp [ProfilePolicy.fields])
  have hdnsMode := written_field k hp.dnsMode h.dnsMode (by simp [ProfilePolicy.fields])
  have hhttpStatus := written_field k hp.httpStatus h.httpStatus (by simp [ProfilePolicy.fields])
  have htls13Only := written_field k hp.tls13Only h.tls13Only (by simp [ProfilePolicy.fields])
  have hmode := written_field k hp.mode h.mode (by simp [ProfilePolicy.fields])
  have hnumRecords := written_field k hp.numRecords h.numRecords (by simp [ProfilePolicy.fields])
  have hnumSegs := written_field k hp.numSegs h.numSegs (by simp [ProfilePolicy.fields])
  have hoob := written_field k hp.oob h.oob (by simp [ProfilePolicy.fields])
  have hoobEx := written_field k hp.oobEx h.oobEx (by simp [ProfilePolicy.fields])
  have hmodMinorVer := written_field k hp.modMinorVer h.modMinorVer (by simp [ProfilePolicy.fields])
  have hsendInterval := written_field k hp.sendInterval h.sendInterval
    (by simp [ProfilePolicy.fields])
  have hfakeTtl := written_field k hp.fakeTtl h.fakeTtl (by simp [ProfilePolicy.fields])
  have hfakeSleep := written_field k hp.fakeSleep h.fakeSleep (by simp [ProfilePolicy.fields])
  have hmaxTtl := written_field k hp.maxTtl h.maxTtl (by simp [ProfilePolicy.fields])
  have hattempts := written_field k hp.attempts h.attempts (by simp [ProfilePolicy.fields])
  have hsingleTimeout := written_field k hp.singleTimeout h.singleTimeout
    (by simp [ProfilePolicy.fields])
  unfold intField at hport
  show (Res.ok (members k.fields) >>= _) = (Res.ok (only ProfilePolicy.names kvs) >>= _)
  simp only [Res.bind_ok, flagField, textField, intField, hport, hreplyFirst, hconnectTimeout,
    hhost, hmapTo, hdnsMode, hhttpStatus, htls13Only, hmode, hnumRecords, hnumSegs, hoob, hoobEx,
    hmodMinorVer, hsendInterval, hfakeTtl, hfakeSleep, hmaxTtl, hattempts, hsingleTimeout]

/-- **What the core reads from a policy that was read and written back**: what it reads under the
names that a profile keeps, if they are plain. -/
theorem policy_round_trip {q p0 p : Policy} (hstd : Std.Quiet std)
    (hpass : unmarshalPolicy std q (.obj kvs) = .ok p0) :
    (∃ k, ProfilePolicy.read kvs = some k ∧ unmarshalPolicy std {} k.toJson = .ok p) ↔
      (∀ name ∈ ProfilePolicy.names, Plain name kvs) ∧
        unmarshalPolicy std {} (.obj (only ProfilePolicy.names kvs)) = .ok p := by
  obtain ⟨tmp, htmp, -⟩ := Res.bind_eq_ok.mp hpass
  have hp := policyKeeps hstd htmp
  have hsame : ∀ k, ProfilePolicy.read kvs = some k → unmarshalPolicy std {} k.toJson =
      unmarshalPolicy std {} (.obj (only ProfilePolicy.names kvs)) := by
    intro k hk
    unfold unmarshalPolicy
    rw [decode_written hp (policyRead_iff.mp hk)]
  rw [← policyRead_plain hp]
  constructor
  · rintro ⟨k, hk, h⟩
    exact ⟨⟨k, hk⟩, hsame k hk ▸ h⟩
  · rintro ⟨⟨k, hk⟩, h⟩
    exact ⟨k, hk, hsame k hk ▸ h⟩

end

end Bill
