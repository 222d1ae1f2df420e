import BillVpn.Config.Pool
import BillVpn.Policy.Policy

/-!
# Reading the configuration

`Policy.UnmarshalJSON` decodes an object into optional fields, checks every field that is present
and writes the policy.  A field that is absent becomes the field's unset value, or, for five of
them, stays as it was: those keep the value of an earlier object when `default_policy` occurs
twice.

* `unmarshalPolicy`            one policy;
* `Policy.Valid`               what the checks promise of every field;
* `unmarshalPolicy_valid`      **every policy that is read keeps the promise**;
* `unmarshalConfig`            the whole file;
* `unmarshalConfig_valid`      **every policy of a file that is read keeps it**.
-/

set_option linter.unusedVariables false

namespace Bill
open Go

section
variable (std : Std)

/-! ## enumerations -/

/-- a `null` leaves the text empty, which is no mode -/
def unmarshalMode (cur : Mode) (j : Json) : Res Mode := do
  let s ← Json.string [] j
  let s := std.toLower (std.trimSpace s)
  if s = lit "raw" then pure .raw
  else if s = lit "direct" then pure .direct
  else if s = lit "tls-rf" then pure .tlsrf
  else if s = lit "ttl-d" then pure .ttld
  else if s = lit "block" then pure .block
  else if s = lit "tls-alert" then pure .tlsAlert
  else .err ("invalid mode: " ++ textOf s)

/-- unlike a mode, it is compared as it is written -/
def unmarshalDNSMode (cur : DNSMode) (j : Json) : Res DNSMode := do
  let s ← Json.string [] j
  if s = lit "prefer_ipv4" then pure .preferIPv4
  else if s = lit "prefer_ipv6" then pure .preferIPv6
  else if s = lit "ipv4_only" then pure .ipv4Only
  else if s = lit "ipv6_only" then pure .ipv6Only
  else .err ("invalid dns_mode: " ++ textOf s)

def unmarshalBool (cur : BoolWithDefault) : Json → Res BoolWithDefault
  | .null => .ok .unset
  | .bool false => .ok .false
  | .bool true => .ok .true
  | _ => .err "invalid bool"

/-! ## policies -/

/-- the object of a policy; the fields that may be `nil` are pointers in the source -/
structure PolicyJSON where
  replyFirst : BoolWithDefault
  connectTimeout : Option Bytes
  host : Option Bytes
  mapTo : Option Bytes
  port : Option Int
  dnsMode : DNSMode
  httpStatus : Option Int
  tls13Only : BoolWithDefault
  mode : Mode
  numRecords : Option Int
  numSegments : Option Int
  oob : BoolWithDefault
  oobEx : BoolWithDefault
  modMinorVer : BoolWithDefault
  sendInterval : Option Bytes
  fakeTTL : Option Int
  fakeSleep : Option Bytes
  maxTTL : Option Int
  attempts : Option Int
  singleTimeout : Option Bytes

def flagField (name : String) (kvs : List (Bytes × Json)) : Res BoolWithDefault :=
  Json.field name unmarshalBool .unset kvs

def textField (name : String) (kvs : List (Bytes × Json)) : Res (Option Bytes) :=
  Json.field name (Json.pointer [] Json.string) none kvs

def intField (name : String) (kvs : List (Bytes × Json)) : Res (Option Int) :=
  Json.field name (Json.pointer 0 Json.int) none kvs

def decodePolicyJSON (j : Json) : Res PolicyJSON := do
  let kvs ← j.members
  let replyFirst ← flagField "reply_first" kvs
  let connectTimeout ← textField "connect_timeout" kvs
  let host ← textField "host" kvs
  let mapTo ← textField "map_to" kvs
  let port ← intField "port" kvs
  let dnsMode ← Json.field "dns_mode" unmarshalDNSMode .unknown kvs
  let httpStatus ← intField "http_status" kvs
  let tls13Only ← flagField "tls13_only" kvs
  let mode ← Json.field "mode" (unmarshalMode std) .unknown kvs
  let numRecords ← intField "num_records" kvs
  let numSegments ← intField "num_segs" kvs
  let oob ← flagField "oob" kvs
  let oobEx ← flagField "oob_ex" kvs
  let modMinorVer ← flagField "mod_minor_ver" kvs
  let sendInterval ← textField "send_interval" kvs
  let fakeTTL ← intField "fake_ttl" kvs
  let fakeSleep ← textField "fake_sleep" kvs
  let maxTTL ← intField "max_ttl" kvs
  let attempts ← intField "attempts" kvs
  let singleTimeout ← textField "single_timeout" kvs
  pure ⟨replyFirst, connectTimeout, host, mapTo, port, dnsMode, httpStatus, tls13Only, mode,
    numRecords, numSegments, oob, oobEx, modMinorVer, sendInterval, fakeTTL, fakeSleep, maxTTL,
    attempts, singleTimeout⟩

/-- a text that is `nil` or not empty -/
def checkText (name : String) (v : Option Bytes) : Res (Option Bytes) :=
  if v = some [] then .err (name ++ " cannot be an empty string") else .ok v

/-- a number that is absent, or else must not be `bad` -/
def checkInt (name : String) (bad : Int → Bool) (msg : String) (absent : Int) : Option Int → Res Int
  | none => .ok absent
  | some v => if bad v then .err (name ++ " " ++ toString v ++ ": " ++ msg) else .ok v

/-- a duration that is absent, or else must parse and must not be `bad` -/
def checkDuration (name : String) (bad : Int → Bool) (msg : String) (absent : Int) :
    Option Bytes → Res Int
  | none => .ok absent
  | some s =>
    match std.parseDuration s with
    | .error e => .err ("parse " ++ name ++ " " ++ textOf s ++ ": " ++ e)
    | .ok d => if bad d then .err (name ++ " " ++ textOf s ++ ": " ++ msg) else .ok d

def unmarshalPolicy (p : Policy) (j : Json) : Res Policy := do
  let tmp ← decodePolicyJSON std j
  let host ← checkText "host" tmp.host
  let mapTo ← checkText "map_to" tmp.mapTo
  let port ← checkInt "port" (fun v => v < 0 ∨ 65535 < v) "outside the valid range" unsetInt tmp.port
  let httpStatus ← checkInt "http_status" (· < 0) "outside the valid range" unsetInt tmp.httpStatus
  let numRecords ← checkInt "num_records" (· ≤ 0) "must be greater than 0" p.numRecords tmp.numRecords
  let numSegments ← checkInt "num_segs" (fun v => v = 0 ∨ v < -1) "outside the valid range"
    p.numSegments tmp.numSegments
  let fakeTTL ← checkInt "fake_ttl" (fun v => v < 0 ∨ 255 < v) "outside the valid range" unsetInt
    tmp.fakeTTL
  -- the message is off by one: `1` is accepted
  let attempts ← checkInt "attempts" (· < 1) "must be greater than 1" p.attempts tmp.attempts
  let maxTTL ← checkInt "max_ttl" (fun v => v ≤ 1 ∨ 255 < v) "outside the valid range" p.maxTTL
    tmp.maxTTL
  let connectTimeout ← checkDuration std "connect_timeout" (· ≤ 0) "must be greater than 0" unsetInt
    tmp.connectTimeout
  let sendInterval ← checkDuration std "send_interval" (· < 0) "outside the valid range" unsetInt
    tmp.sendInterval
  let fakeSleep ← checkDuration std "fake_sleep" (· ≤ 0) "must be greater than 0" p.fakeSleep
    tmp.fakeSleep
  let singleTimeout ← checkDuration std "single_timeout" (· ≤ 0) "must be greater than 0" unsetInt
    tmp.singleTimeout
  pure { replyFirst := tmp.replyFirst, dnsMode := tmp.dnsMode, connectTimeout := connectTimeout,
         host := host, mapTo := mapTo, port := port, httpStatus := httpStatus,
         tls13Only := tmp.tls13Only, mode := tmp.mode, numRecords := numRecords,
         numSegments := numSegments, oob := tmp.oob, oobEx := tmp.oobEx,
         modMinorVer := tmp.modMinorVer, sendInterval := sendInterval, fakeTTL := fakeTTL,
         fakeSleep := fakeSleep, maxTTL := maxTTL, attempts := attempts,
         singleTimeout := singleTimeout }

/-! ## the file -/

structure Config where
  logLevel : Bytes := []
  transmitFileLimit : Int := 0
  socks5Addr : Bytes := []
  httpAddr : Bytes := []
  dnsAddr : Bytes := []
  udpSize : Int := 0
  dohProxy : Bytes := []
  fakeTTLRules : Bytes := []
  dnsSingleflight : Bool := false
  dnsCacheTTL : Int := 0
  dnsCacheCapacity : Int := 0
  ttlSingleflight : Bool := false
  ttlCacheTTL : Int := 0
  ttlCacheCapacity : Int := 0
  ipPools : IPPools := ∅
  defaultPolicy : Policy := {}
  domainPolicies : GoMap Bytes Policy := ∅
  ipPolicies : GoMap Bytes Policy := ∅

/-- `map[string]T`: a `null` is `nil`, an object is put into the map so far; every value is decoded
into a fresh `zero` -/
def jsonMap {ν : Type} (zero : ν) (dec : ν → Json → Res ν) (cur : GoMap Bytes ν) :
    Json → Res (GoMap Bytes ν)
  | .null => .ok ∅
  | .obj kvs => kvs.foldlM (fun m kv => dec zero kv.2 >>= fun v => .ok (m.set kv.1 v)) cur
  | _ => Json.typeError

/-- `*IPPool`; a `null` is `nil` and stays one -/
def unmarshalIPPoolPtr (cur : Option IPPool) : Json → Res (Option IPPool)
  | .null => .ok none
  | j => unmarshalIPPool std j >>= fun p => .ok (some p)

def unmarshalConfig (j : Json) : Res Config := do
  let kvs ← j.members
  let logLevel ← Json.field "log_level" Json.string [] kvs
  let transmitFileLimit ← Json.field "transmit_file_limit" Json.int 0 kvs
  let socks5Addr ← Json.field "socks5_address" Json.string [] kvs
  let httpAddr ← Json.field "http_address" Json.string [] kvs
  let dnsAddr ← Json.field "dns_addr" Json.string [] kvs
  let udpSize ← Json.field "udp_minsize" Json.uint16 0 kvs
  let dohProxy ← Json.field "socks5_for_doh" Json.string [] kvs
  let fakeTTLRules ← Json.field "fake_ttl_rules" Json.string [] kvs
  let dnsSingleflight ← Json.field "dns_singleflight" Json.boolean false kvs
  let dnsCacheTTL ← Json.field "dns_cache_ttl" Json.int 0 kvs
  let dnsCacheCapacity ← Json.field "dns_cache_cap" Json.int 0 kvs
  let ttlSingleflight ← Json.field "ttl_singleflight" Json.boolean false kvs
  let ttlCacheTTL ← Json.field "ttl_cache_ttl" Json.int 0 kvs
  let ttlCacheCapacity ← Json.field "ttl_cache_cap" Json.int 0 kvs
  let ipPools ← Json.field "ip_pools" (jsonMap none (unmarshalIPPoolPtr std)) ∅ kvs
  let defaultPolicy ← Json.field "default_policy" (unmarshalPolicy std) {} kvs
  let domainPolicies ← Json.field "domain_policies" (jsonMap {} (unmarshalPolicy std)) ∅ kvs
  let ipPolicies ← Json.field "ip_policies" (jsonMap {} (unmarshalPolicy std)) ∅ kvs
  pure ⟨logLevel, transmitFileLimit, socks5Addr, httpAddr, dnsAddr, udpSize, dohProxy, fakeTTLRules,
    dnsSingleflight, dnsCacheTTL, dnsCacheCapacity, ttlSingleflight, ttlCacheTTL, ttlCacheCapacity,
    ipPools, defaultPolicy, domainPolicies, ipPolicies⟩

end

/-! ## what the checks promise -/

/-- every field is unset or in its range; a policy that no object set is all zero -/
structure Policy.Valid (p : Policy) : Prop where
  host : p.host ≠ some []
  mapTo : p.mapTo ≠ some []
  port : -1 ≤ p.port ∧ p.port ≤ 65535
  httpStatus : -1 ≤ p.httpStatus
  numRecords : 0 ≤ p.numRecords
  numSegments : -1 ≤ p.numSegments
  fakeTTL : -1 ≤ p.fakeTTL ∧ p.fakeTTL ≤ 255
  attempts : 0 ≤ p.attempts
  maxTTL : p.maxTTL = 0 ∨ 2 ≤ p.maxTTL ∧ p.maxTTL ≤ 255
  connectTimeout : -1 ≤ p.connectTimeout
  sendInterval : -1 ≤ p.sendInterval
  fakeSleep : 0 ≤ p.fakeSleep
  singleTimeout : -1 ≤ p.singleTimeout

theorem Policy.Valid.zero : Policy.Valid {} where
  host := nofun
  mapTo := nofun
  port := ⟨by decide, by decide⟩
  httpStatus := by decide
  numRecords := by decide
  numSegments := by decide
  fakeTTL := ⟨by decide, by decide⟩
  attempts := by decide
  maxTTL := Or.inl rfl
  connectTimeout := by decide
  sendInterval := by decide
  fakeSleep := by decide
  singleTimeout := by decide

theorem checkText_eq_ok {name : String} {v w : Option Bytes} (h : checkText name v = .ok w) :
    w ≠ some [] := by
  unfold checkText at h
  split_ifs at h with hv
  cases h
  exact hv

theorem checkInt_cases {name msg : String} {bad : Int → Bool} {absent w : Int} {v : Option Int}
    (h : checkInt name bad msg absent v = .ok w) :
    v = none ∧ w = absent ∨ v = some w ∧ bad w = false := by
  cases v with
  | none =>
    cases h
    exact .inl ⟨rfl, rfl⟩
  | some n =>
    unfold checkInt at h
    dsimp only at h
    split_ifs at h with hb
    cases h
    exact .inr ⟨rfl, by simpa using hb⟩

theorem checkDuration_cases {std : Std} {name msg : String} {bad : Int → Bool} {absent w : Int}
    {v : Option Bytes} (h : checkDuration std name bad msg absent v = .ok w) :
    v = none ∧ w = absent ∨ ∃ s, v = some s ∧ std.parseDuration s = .ok w ∧ bad w = false := by
  cases v with
  | none =>
    cases h
    exact .inl ⟨rfl, rfl⟩
  | some s =>
    unfold checkDuration at h
    dsimp only at h
    cases hp : std.parseDuration s with
    | error e => rw [hp] at h; cases h
    | ok d =>
      rw [hp] at h
      dsimp only at h
      split_ifs at h with hb
      cases h
      exact .inr ⟨s, rfl, hp, by simpa using hb⟩

theorem checkInt_eq_ok {name msg : String} {bad : Int → Bool} {absent w : Int} {v : Option Int}
    {P : Int → Prop} (h : checkInt name bad msg absent v = .ok w) (habsent : P absent)
    (hbad : ∀ n, bad n = false → P n) : P w := by
  rcases checkInt_cases h with ⟨-, rfl⟩ | ⟨-, hw⟩
  · exact habsent
  · exact hbad w hw

theorem checkDuration_eq_ok {std : Std} {name msg : String} {bad : Int → Bool} {absent w : Int}
    {v : Option Bytes} {P : Int → Prop} (h : checkDuration std name bad msg absent v = .ok w)
    (habsent : P absent) (hbad : ∀ d, bad d = false → P d) : P w := by
  rcases checkDuration_cases h with ⟨-, rfl⟩ | ⟨s, -, -, hw⟩
  · exact habsent
  · exact hbad w hw

/-- **Every policy that is read is valid**, if the one it is written to was. -/
theorem unmarshalPolicy_valid {std : Std} {p p' : Policy} {j : Json} (hp : p.Valid)
    (h : unmarshalPolicy std p j = .ok p') : p'.Valid := by
  obtain ⟨tmp, -, h⟩ := Res.bind_eq_ok.mp h
  obtain ⟨host, hhost, h⟩ := Res.bind_eq_ok.mp h
  obtain ⟨mapTo, hmapTo, h⟩ := Res.bind_eq_ok.mp h
  obtain ⟨port, hport, h⟩ := Res.bind_eq_ok.mp h
  obtain ⟨httpStatus, hstatus, h⟩ := Res.bind_eq_ok.mp h
  obtain ⟨numRecords, hrecords, h⟩ := Res.bind_eq_ok.mp h
  obtain ⟨numSegments, hsegments, h⟩ := Res.bind_eq_ok.mp h
  obtain ⟨fakeTTL, hfake, h⟩ := Res.bind_eq_ok.mp h
  obtain ⟨attempts, hattempts, h⟩ := Res.bind_eq_ok.mp h
  obtain ⟨maxTTL, hmax, h⟩ := Res.bind_eq_ok.mp h
  obtain ⟨connectTimeout, hconnect, h⟩ := Res.bind_eq_ok.mp h
  obtain ⟨sendInterval, hsend, h⟩ := Res.bind_eq_ok.mp h
  obtain ⟨fakeSleep, hsleep, h⟩ := Res.bind_eq_ok.mp h
  obtain ⟨singleTimeout, hsingle, h⟩ := Res.bind_eq_ok.mp h
  cases h
  constructor
  case host => exact checkText_eq_ok hhost
  case mapTo => exact checkText_eq_ok hmapTo
  case port =>
    refine checkInt_eq_ok (P := fun v => -1 ≤ v ∧ v ≤ 65535) hport (by decide) fun v hv => ?_
    simp only [decide_eq_false_iff_not] at hv
    omega
  case httpStatus =>
    refine checkInt_eq_ok (P := fun v => -1 ≤ v) hstatus (by decide) fun v hv => ?_
    simp only [decide_eq_false_iff_not] at hv
    omega
  case numRecords =>
    refine checkInt_eq_ok (P := fun v => 0 ≤ v) hrecords hp.numRecords fun v hv => ?_
    simp only [decide_eq_false_iff_not] at hv
    omega
  case numSegments =>
    refine checkInt_eq_ok (P := fun v => -1 ≤ v) hsegments hp.numSegments fun v hv => ?_
    simp only [decide_eq_false_iff_not] at hv
    omega
  case fakeTTL =>
    refine checkInt_eq_ok (P := fun v => -1 ≤ v ∧ v ≤ 255) hfake (by decide) fun v hv => ?_
    simp only [decide_eq_false_iff_not] at hv
    omega
  case attempts =>
    refine checkInt_eq_ok (P := fun v => 0 ≤ v) hattempts hp.attempts fun v hv => ?_
    simp only [decide_eq_false_iff_not] at hv
    omega
  case maxTTL =>
    refine checkInt_eq_ok (P := fun v => v = 0 ∨ 2 ≤ v ∧ v ≤ 255) hmax hp.maxTTL fun v hv => ?_
    simp only [decide_eq_false_iff_not] at hv
    omega
  case connectTimeout =>
    refine checkDuration_eq_ok (P := fun v => -1 ≤ v) hconnect (by decide) fun v hv => ?_
    simp only [decide_eq_false_iff_not] at hv
    omega
  case sendInterval =>
    refine checkDuration_eq_ok (P := fun v => -1 ≤ v) hsend (by decide) fun v hv => ?_
    simp only [decide_eq_false_iff_not] at hv
    omega
  case fakeSleep =>
    refine checkDuration_eq_ok (P := fun v => 0 ≤ v) hsleep hp.fakeSleep fun v hv => ?_
    simp only [decide_eq_false_iff_not] at hv
    omega
  case singleTimeout =>
    refine checkDuration_eq_ok (P := fun v => -1 ≤ v) hsingle (by decide) fun v hv => ?_
    simp only [decide_eq_false_iff_not] at hv
    omega

/-! ## tables -/

theorem jsonMap_keeps {ν : Type} {zero : ν} {dec : ν → Json → Res ν} {P : ν → Prop}
    (hdec : ∀ j v, dec zero j = .ok v → P v) {m m' : GoMap Bytes ν} {j : Json}
    (hm : ∀ k v, m.get k = some v → P v) (h : jsonMap zero dec m j = .ok m') :
    ∀ k v, m'.get k = some v → P v := by
  cases j with
  | null =>
    cases h
    intro k v hv
    rw [GoMap.get_empty] at hv
    cases hv
  | obj kvs =>
    refine Json.foldlM_keeps (P := fun m : GoMap Bytes ν => ∀ k v, m.get k = some v → P v) ?_ kvs hm h
    intro m kv m1 hm h1
    obtain ⟨w, hw, h1⟩ := Res.bind_eq_ok.mp h1
    cases h1
    intro k v hv
    rw [GoMap.get_set] at hv
    split_ifs at hv with hk
    · cases hv; exact hdec kv.2 _ hw
    · exact hm k v hv
  | bool b => cases h
  | num s => cases h
  | str s => cases h
  | arr l => cases h

/-- the policies of a file -/
structure Config.Valid (c : Config) : Prop where
  default : c.defaultPolicy.Valid
  domain : ∀ k p, c.domainPolicies.get k = some p → p.Valid
  ip : ∀ k p, c.ipPolicies.get k = some p → p.Valid

/-- **Every policy of a file that is read is valid.** -/
theorem unmarshalConfig_valid {std : Std} {j : Json} {c : Config}
    (h : unmarshalConfig std j = .ok c) : c.Valid := by
  have table : ∀ {m m' : GoMap Bytes Policy} {j : Json}, (∀ k p, m.get k = some p → p.Valid) →
      jsonMap {} (unmarshalPolicy std) m j = .ok m' → ∀ k p, m'.get k = some p → p.Valid :=
    jsonMap_keeps fun j v hv => unmarshalPolicy_valid Policy.Valid.zero hv
  have none : ∀ k p, (∅ : GoMap Bytes Policy).get k = some p → p.Valid := by
    intro k p hp
    rw [GoMap.get_empty] at hp
    cases hp
  unfold unmarshalConfig at h
  iterate 16 obtain ⟨_, -, h⟩ := Res.bind_eq_ok.mp h
  obtain ⟨defaultPolicy, hdefault, h⟩ := Res.bind_eq_ok.mp h
  obtain ⟨domainPolicies, hdomain, h⟩ := Res.bind_eq_ok.mp h
  obtain ⟨ipPolicies, hip, h⟩ := Res.bind_eq_ok.mp h
  cases h
  let Ok := fun m : GoMap Bytes Policy => ∀ k p, m.get k = some p → p.Valid
  exact ⟨Json.field_keeps (fun p j p' => unmarshalPolicy_valid) Policy.Valid.zero hdefault,
    Json.field_keeps (P := Ok) (fun m j m' => table) none hdomain,
    Json.field_keeps (P := Ok) (fun m j m' => table) none hip⟩

end Bill
