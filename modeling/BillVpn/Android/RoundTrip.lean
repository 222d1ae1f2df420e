import BillVpn.Android.Profile
import BillVpn.Config.Settings

/-!
# A profile that is read and written back

The core reads a file, `ConfigRepository` reads it and writes it, and the core reads the result.  The
two files say the same only if nothing of the first is outside the data classes, and if what is
absent has the same default on both sides.

* `Config.Same`                two configurations with equal fields (maps are compared as maps);
* `Portable`                   the files for which this is so, field by field;
* `profile_round_trip`         **a file survives exactly if it is portable**;
* `profile_loses_pools`        a file with a pool and a port does not.
-/

set_option linter.unusedVariables false

namespace Bill
open Go Moshi

/-- equal in every field -/
structure Config.Same (c d : Config) : Prop where
  fields : { c with ipPools := ∅, domainPolicies := ∅, ipPolicies := ∅ } =
    { d with ipPools := ∅, domainPolicies := ∅, ipPolicies := ∅ }
  ipPools : ∀ tag, c.ipPools.get tag = d.ipPools.get tag
  domainPolicies : ∀ key, c.domainPolicies.get key = d.domainPolicies.get key
  ipPolicies : ∀ key, c.ipPolicies.get key = d.ipPolicies.get key

/-! ## portable files -/

def IsText (v : Bytes) (j : Json) : Prop := j = .str v

def IsFlag (v : Bool) (j : Json) : Prop := j = .bool v

def IsInt32 (v : Int) (j : Json) : Prop :=
  ∃ s, j = .num s ∧ Json.intLit (-2 ^ 31) (2 ^ 31 - 1) s = some v

/-- the name is absent and the value is the default of the class, or the name is there once, spelled
as in the class, and says the value -/
def FieldKept {α : Type} (spells : α → Json → Prop) (name : String) (absent v : α)
    (kvs : List (Bytes × Json)) : Prop :=
  named name kvs = [] ∧ v = absent ∨ ∃ j, named name kvs = [(lit name, j)] ∧ spells v j

/-- no name twice, no large number, and nothing that matters under a name outside the class (such as
a port) or under another spelling -/
structure PolicyKept (std : Std) (kvs : List (Bytes × Json)) (p : Policy) : Prop where
  plain : ∀ name ∈ ProfilePolicy.names, Plain name kvs
  known : unmarshalPolicy std {} (.obj (only ProfilePolicy.names kvs)) = .ok p

/-- every key has one policy, which is kept, and there are no other keys -/
structure EntriesKept (std : Std) (es : List (Bytes × Json)) (m : GoMap Bytes Policy) : Prop where
  once : es.Pairwise fun e e' => e.1 = e'.1 → e.2 = .null
  kept : ∀ key kvs, (key, .obj kvs) ∈ es → ∃ p, m.get key = some p ∧ PolicyKept std kvs p
  all : ∀ key p, m.get key = some p → ∃ kvs, (key, .obj kvs) ∈ es

/-- an absent map is an empty one -/
def MapKept (std : Std) (name : String) (kvs : List (Bytes × Json)) (m : GoMap Bytes Policy) : Prop :=
  named name kvs = [] ∧ EntriesKept std [] m ∨
    ∃ es, named name kvs = [(lit name, .obj es)] ∧ EntriesKept std es m

structure Portable (std : Std) (kvs : List (Bytes × Json)) (c : Config) : Prop where
  logLevel : FieldKept IsText "log_level" ({} : BillVpnConfig).logLevel c.logLevel kvs
  socks5Addr : FieldKept IsText "socks5_address" ({} : BillVpnConfig).socks5Address c.socks5Addr kvs
  httpAddr : FieldKept IsText "http_address" ({} : BillVpnConfig).httpAddress c.httpAddr kvs
  dnsAddr : FieldKept IsText "dns_addr" ({} : BillVpnConfig).dnsAddr c.dnsAddr kvs
  dohProxy : FieldKept IsText "socks5_for_doh" ({} : BillVpnConfig).socks5ForDoh c.dohProxy kvs
  udpSize : FieldKept IsInt32 "udp_minsize" ({} : BillVpnConfig).udpMinSize c.udpSize kvs
  dnsSingleflight : FieldKept IsFlag "dns_singleflight" ({} : BillVpnConfig).dnsSingleFlight c.dnsSingleflight kvs
  dnsCacheTTL : FieldKept IsInt32 "dns_cache_ttl" ({} : BillVpnConfig).dnsCacheTtl c.dnsCacheTTL kvs
  dnsCacheCapacity : FieldKept IsInt32 "dns_cache_cap" ({} : BillVpnConfig).dnsCacheCap c.dnsCacheCapacity kvs
  ttlSingleflight : FieldKept IsFlag "ttl_singleflight" ({} : BillVpnConfig).ttlSingleFlight c.ttlSingleflight kvs
  ttlCacheTTL : FieldKept IsInt32 "ttl_cache_ttl" ({} : BillVpnConfig).ttlCacheTtl c.ttlCacheTTL kvs
  ttlCacheCapacity : FieldKept IsInt32 "ttl_cache_cap" ({} : BillVpnConfig).ttlCacheCap c.ttlCacheCapacity kvs
  fakeTTLRules : FieldKept IsText "fake_ttl_rules" ({} : BillVpnConfig).fakeTtlRules c.fakeTTLRules kvs
  transmitFileLimit : FieldKept IsInt32 "transmit_file_limit" ({} : BillVpnConfig).transmitFileLimit c.transmitFileLimit kvs
  ipPools : ∀ tag, c.ipPools.get tag = none
  defaultPolicy : named "default_policy" kvs = [] ∧ PolicyKept std [] c.defaultPolicy ∨
    ∃ pkvs, named "default_policy" kvs = [(lit "default_policy", .obj pkvs)] ∧
      PolicyKept std pkvs c.defaultPolicy
  domainPolicies : MapKept std "domain_policies" kvs c.domainPolicies
  ipPolicies : MapKept std "ip_policies" kvs c.ipPolicies

/-! ## one field -/

/-- read, written, and read by the core as something good -/
def Through {α β : Type} (name : String) (read : Json → Option α) (absent : α) (enc : α → Json)
    (dec : Json → Res β) (kvs : List (Bytes × Json)) (good : β → Prop) : Prop :=
  ∃ a, prop name read absent kvs = some a ∧ ∃ b, dec (enc a) = .ok b ∧ good b

section
variable {std : Std} {name : String} {kvs : List (Bytes × Json)}

theorem through_kept {α : Type} {read : Json → Option α} {absent v : α} {enc : α → Json}
    {dec : Json → Res α} {spells : α → Json → Prop}
    (hspells : ∀ j a, named name kvs = [(lit name, j)] → (read j = some a ↔ spells a j))
    (hback : ∀ a, prop name read absent kvs = some a → dec (enc a) = .ok a) :
    Through name read absent enc dec kvs (· = v) ↔ FieldKept spells name absent v kvs := by
  constructor
  · rintro ⟨a, hread, b, hb, rfl⟩
    rw [hback a hread] at hb
    cases hb
    rcases prop_eq_some.mp hread with h | ⟨j, hn, hj⟩
    · exact .inl h
    · exact .inr ⟨j, hn, (hspells j a hn).mp hj⟩
  · rintro (h | ⟨j, hn, hj⟩)
    · have hread : prop name read absent kvs = some v := prop_eq_some.mpr (.inl h)
      exact ⟨v, hread, v, hback v hread, rfl⟩
    · have hread : prop name read absent kvs = some v :=
        prop_eq_some.mpr (.inr ⟨j, hn, (hspells j v hn).mpr hj⟩)
      exact ⟨v, hread, v, hback v hread, rfl⟩

theorem text_through {absent v : Bytes} (hp : Passed name Json.string kvs) :
    Through name str absent .str (Json.string []) kvs (· = v) ↔ FieldKept IsText name absent v kvs := by
  apply through_kept
  · intro j a hn
    obtain ⟨x, y, hxy⟩ := hp.once hn
    cases j with
    | str s => simp [str, IsText]
    | num s => cases hxy
    | null | bool b | arr l | obj l => simp [str, IsText]
  · intro a _
    rfl

theorem flag_through {absent v : Bool} :
    Through name Moshi.bool absent .bool (Json.boolean false) kvs (· = v) ↔
      FieldKept IsFlag name absent v kvs := by
  apply through_kept
  · intro j a _
    cases j <;> simp [Moshi.bool, IsFlag]
  · intro a _
    rfl

theorem int32_iff {j : Json} {n : Int} : Moshi.int j = some n ↔ IsInt32 n j := by
  cases j <;> simp [Moshi.int, IsInt32]

theorem integer_ofInt {lo hi cur n : Int} (hlo : lo ≤ n) (hhi : n ≤ hi) :
    Json.integer lo hi cur (ofInt n) = .ok n := by
  unfold Json.integer ofInt
  simp only [intLit_itoaInt hlo hhi]

theorem int_through {absent v : Int} (habs : -2 ^ 31 ≤ absent ∧ absent ≤ 2 ^ 31 - 1) :
    Through name Moshi.int absent ofInt (Json.int 0) kvs (· = v) ↔
      FieldKept IsInt32 name absent v kvs := by
  apply through_kept
  · intro j a _
    exact int32_iff
  · intro a h
    have hin : -2 ^ 31 ≤ a ∧ a ≤ 2 ^ 31 - 1 := by
      rcases prop_eq_some.mp h with ⟨-, rfl⟩ | ⟨j, -, hj⟩
      · exact habs
      · obtain ⟨s, -, hs⟩ := int32_iff.mp hj
        exact intLit_bounds hs
    exact integer_ofInt (by omega) (by omega)

theorem uint16_through {absent v : Int} (habs : 0 ≤ absent ∧ absent ≤ 65535)
    (hp : Passed name Json.uint16 kvs) :
    Through name Moshi.int absent ofInt (Json.uint16 0) kvs (· = v) ↔
      FieldKept IsInt32 name absent v kvs := by
  apply through_kept
  · intro j a _
    exact int32_iff
  · intro a h
    have hin : 0 ≤ a ∧ a ≤ 65535 := by
      rcases prop_eq_some.mp h with ⟨-, rfl⟩ | ⟨j, hn, hj⟩
      · exact habs
      · -- the core has read the same literal as a `uint16`
        obtain ⟨s, rfl, hs⟩ := int32_iff.mp hj
        obtain ⟨x, y, hxy⟩ := hp.once hn
        unfold Json.uint16 Json.integer at hxy
        cases hlit : Json.intLit 0 65535 s with
        | none =>
          simp only [hlit] at hxy
          cases hxy
        | some n =>
          have hn1 := intLit_mono hlit (by norm_num : -2 ^ 31 ≤ (0 : Int))
            (by norm_num : (65535 : Int) ≤ 2 ^ 31 - 1)
          rw [hn1] at hs
          cases hs
          exact intLit_bounds hlit
    exact integer_ofInt hin.1 hin.2

/-! ## policies and maps -/

theorem policyKept_iff {q p0 p : Policy} (hstd : Std.Quiet std)
    (hpass : unmarshalPolicy std q (.obj kvs) = .ok p0) :
    (∃ k, ProfilePolicy.read kvs = some k ∧ unmarshalPolicy std {} k.toJson = .ok p) ↔
      PolicyKept std kvs p := by
  rw [policy_round_trip hstd hpass]
  constructor
  · rintro ⟨hplain, h⟩
    exact ⟨hplain, h⟩
  · intro h
    exact ⟨h.plain, h.known⟩

theorem emptyPolicy_toJson : ProfilePolicy.toJson {} = .obj [] := rfl

theorem emptyPolicyKept_iff {p : Policy} :
    unmarshalPolicy std {} (ProfilePolicy.toJson {}) = .ok p ↔ PolicyKept std [] p := by
  rw [emptyPolicy_toJson]
  constructor
  · intro h
    exact ⟨fun n _ => ⟨Nat.zero_le 1, fun _ h => nomatch h⟩, h⟩
  · exact fun h => h.known

theorem policy_passed_cases {q p0 : Policy} {j : Json} (h : unmarshalPolicy std q j = .ok p0) :
    j = .null ∨ ∃ kvs, j = .obj kvs := by
  obtain ⟨tmp, htmp, -⟩ := Res.bind_eq_ok.mp h
  obtain ⟨kvs, hkvs, -⟩ := Res.bind_eq_ok.mp htmp
  cases j with
  | null => exact .inl rfl
  | obj kvs => exact .inr ⟨kvs, rfl⟩
  | bool b | num s | str s | arr l => cases hkvs

theorem policy_through {p : Policy} (hstd : Std.Quiet std)
    (hp : Passed name (unmarshalPolicy std) kvs) :
    Through name ProfilePolicy.fromJson {} ProfilePolicy.toJson (unmarshalPolicy std {}) kvs (· = p) ↔
      named name kvs = [] ∧ PolicyKept std [] p ∨
        ∃ pkvs, named name kvs = [(lit name, .obj pkvs)] ∧ PolicyKept std pkvs p := by
  constructor
  · rintro ⟨k, hread, p', hk, rfl⟩
    rcases prop_eq_some.mp hread with ⟨hn, rfl⟩ | ⟨j, hn, hj⟩
    · exact .inl ⟨hn, emptyPolicyKept_iff.mp hk⟩
    · obtain ⟨q, p0, hpass⟩ := hp.once hn
      rcases policy_passed_cases hpass with rfl | ⟨pkvs, rfl⟩
      · cases hj
      · exact .inr ⟨pkvs, hn, (policyKept_iff hstd hpass).mp ⟨k, hj, hk⟩⟩
  · rintro (⟨hn, h⟩ | ⟨pkvs, hn, h⟩)
    · exact ⟨{}, prop_eq_some.mpr (.inl ⟨hn, rfl⟩), p, emptyPolicyKept_iff.mpr h, rfl⟩
    · obtain ⟨q, p0, hpass⟩ := hp.once hn
      obtain ⟨k, hj, hk⟩ := (policyKept_iff hstd hpass).mpr h
      exact ⟨k, prop_eq_some.mpr (.inr ⟨.obj pkvs, hn, hj⟩), p, hk, rfl⟩

theorem jsonMap_cons_ok {ν : Type} {zero : ν} {dec : ν → Json → Res ν} {m m' : GoMap Bytes ν}
    {e : Bytes × Json} {l : List (Bytes × Json)} :
    jsonMap zero dec m (.obj (e :: l)) = .ok m' ↔
      ∃ v, dec zero e.2 = .ok v ∧ jsonMap zero dec (m.set e.1 v) (.obj l) = .ok m' := by
  unfold jsonMap
  dsimp only
  rw [List.foldlM_cons, Res.bind_eq_ok]
  constructor
  · rintro ⟨m1, h1, h⟩
    obtain ⟨v, hv, h1⟩ := Res.bind_eq_ok.mp h1
    cases h1
    exact ⟨v, hv, h⟩
  · rintro ⟨v, hv, h⟩
    exact ⟨_, Res.bind_eq_ok.mpr ⟨v, hv, rfl⟩, h⟩

theorem jsonMap_isOk {ν : Type} (zero : ν) (dec : ν → Json → Res ν) (l : List (Bytes × Json)) :
    ∀ m : GoMap Bytes ν, (∃ m', jsonMap zero dec m (.obj l) = .ok m') ↔
      ∀ e ∈ l, ∃ v, dec zero e.2 = .ok v := by
  induction l with
  | nil => exact fun m => ⟨fun _ _ h => (nomatch h), fun _ => ⟨m, rfl⟩⟩
  | cons e l ih =>
    intro m
    rw [List.forall_mem_cons]
    constructor
    · rintro ⟨m', h⟩
      obtain ⟨v, hv, h⟩ := jsonMap_cons_ok.mp h
      exact ⟨⟨v, hv⟩, (ih _).mp ⟨m', h⟩⟩
    · rintro ⟨⟨v, hv⟩, h⟩
      obtain ⟨m', hm'⟩ := (ih (m.set e.1 v)).mpr h
      exact ⟨m', jsonMap_cons_ok.mpr ⟨v, hv, hm'⟩⟩

theorem jsonMap_get {ν : Type} {zero : ν} {dec : ν → Json → Res ν} {m' : GoMap Bytes ν}
    (l : List (Bytes × Json)) : ∀ {m : GoMap Bytes ν}, (l.map (·.1)).Nodup →
      (∀ e ∈ l, m.get e.1 = none) → jsonMap zero dec m (.obj l) = .ok m' →
        ∀ key v, m'.get key = some v ↔
          (∃ j, (key, j) ∈ l ∧ dec zero j = .ok v) ∨ m.get key = some v := by
  induction l with
  | nil =>
    rintro m _ _ ⟨⟩ key v
    simp
  | cons e l ih =>
    intro m hnd hfree h key v
    rw [List.map_cons, List.nodup_cons] at hnd
    obtain ⟨hfree0, hfree⟩ := List.forall_mem_cons.mp hfree
    obtain ⟨w, hw, h⟩ := jsonMap_cons_ok.mp h
    have hnext : ∀ e' ∈ l, (m.set e.1 w).get e'.1 = none := by
      intro e' he'
      have hne : e'.1 ≠ e.1 := fun hk => hnd.1 (hk ▸ List.mem_map_of_mem he')
      rw [GoMap.get_set, if_neg hne]
      exact hfree e' he'
    rw [ih hnd.2 hnext h key v, GoMap.get_set]
    by_cases hkey : key = e.1
    · rw [if_pos hkey, hkey]
      constructor
      · rintro (⟨j, hj, hjv⟩ | hwv)
        · exact absurd (List.mem_map_of_mem hj) hnd.1
        · cases hwv
          exact .inl ⟨e.2, List.mem_cons_self .., hw⟩
      · rintro (⟨j, hj, hjv⟩ | hold)
        · rcases List.mem_cons.mp hj with heq | hj
          · have hj2 : j = e.2 := congrArg Prod.snd heq
            rw [← hj2, hjv] at hw
            cases hw
            exact .inr rfl
          · exact absurd (List.mem_map_of_mem hj) hnd.1
        · cases hfree0.symm.trans hold
    · rw [if_neg hkey]
      constructor
      · rintro (⟨j, hj, hjv⟩ | hold)
        · exact .inl ⟨j, List.mem_cons_of_mem _ hj, hjv⟩
        · exact .inr hold
      · rintro (⟨j, hj, hjv⟩ | hold)
        · rcases List.mem_cons.mp hj with heq | hj
          · exact absurd (congrArg Prod.fst heq) hkey
          · exact .inl ⟨j, hj, hjv⟩
        · exact .inr hold

section
variable {es : List (Bytes × Json)} {m : GoMap Bytes Policy}

theorem entry_object (hstd : Std.Quiet std)
    (hpass : ∀ e ∈ es, ∃ q p, unmarshalPolicy std q e.2 = .ok p) {key : Bytes} {j : Json}
    {a : ProfilePolicy} (hmem : (key, j) ∈ es)
    (hj : nullable ProfilePolicy.fromJson j = some (some a)) :
    ∃ kvs, j = .obj kvs ∧ ProfilePolicy.read kvs = some a ∧
      ∀ p, unmarshalPolicy std {} a.toJson = .ok p → PolicyKept std kvs p := by
  obtain ⟨q, p0, hp⟩ := hpass _ hmem
  obtain ⟨hne, hj⟩ := nullable_some.mp hj
  rcases policy_passed_cases hp with rfl | ⟨kvs, rfl⟩
  · exact absurd rfl hne
  · exact ⟨kvs, rfl, hj, fun p h => (policyKept_iff hstd hp).mp ⟨a, hj, h⟩⟩

theorem mapFold_object (hstd : Std.Quiet std)
    (hpass : ∀ e ∈ es, ∃ q p, unmarshalPolicy std q e.2 = .ok p)
    {k : GoMap Bytes (Option ProfilePolicy)}
    (hk : Moshi.map ProfilePolicy.fromJson (.obj es) = some k) {key : Bytes} {a : ProfilePolicy}
    (ha : k.get key = some (some a)) :
    ∃ kvs, (key, .obj kvs) ∈ es ∧ ProfilePolicy.read kvs = some a := by
  rcases (mapFold_get es hk key a).mp ha with ⟨j, hmem, hdec⟩ | hempty
  · obtain ⟨kvs, rfl, hread, -⟩ := entry_object hstd hpass hmem hdec
    exact ⟨kvs, hmem, hread⟩
  · rw [GoMap.get_empty] at hempty
    cases hempty

theorem written_get {k : GoMap Bytes (Option ProfilePolicy)} {m' : GoMap Bytes Policy}
    (hm' : jsonMap {} (unmarshalPolicy std) ∅ (ofMap ProfilePolicy.toJson k) = .ok m') (key : Bytes)
    (p : Policy) : m'.get key = some p ↔
      ∃ a, k.get key = some (some a) ∧ unmarshalPolicy std {} a.toJson = .ok p := by
  have hget := jsonMap_get _ (entries_nodup ProfilePolicy.toJson k)
    (fun _ _ => GoMap.get_empty _) hm' key p
  rw [hget, GoMap.get_empty]
  constructor
  · rintro (⟨j, hj, hp⟩ | h)
    · obtain ⟨a, ha, rfl⟩ := mem_entries.mp hj
      exact ⟨a, ha, hp⟩
    · cases h
  · rintro ⟨a, ha, hp⟩
    exact .inl ⟨_, mem_entries.mpr ⟨a, ha, rfl⟩, hp⟩

theorem entriesKept_of_through (hstd : Std.Quiet std)
    (hpass : ∀ e ∈ es, ∃ q p, unmarshalPolicy std q e.2 = .ok p)
    {k : GoMap Bytes (Option ProfilePolicy)}
    (hk : Moshi.map ProfilePolicy.fromJson (.obj es) = some k) {m' : GoMap Bytes Policy}
    (hm' : jsonMap {} (unmarshalPolicy std) ∅ (ofMap ProfilePolicy.toJson k) = .ok m')
    (hsame : ∀ key, m'.get key = m.get key) : EntriesKept std es m := by
  obtain ⟨hdec, hpair, -⟩ := (mapFold_isSome es ∅).mp ⟨k, hk⟩
  have hiff := jsonMap_isOk ({} : Policy) (unmarshalPolicy std) (entries ProfilePolicy.toJson k) ∅
  have hall := hiff.mp ⟨m', hm'⟩
  refine ⟨hpair, fun key kvs hmem => ?_, fun key p hp => ?_⟩
  · obtain ⟨v, hv⟩ := hdec _ hmem
    obtain ⟨a, -, rfl⟩ := Option.map_eq_some_iff.mp hv
    have ha : k.get key = some (some a) := (mapFold_get es hk key a).mpr (.inl ⟨_, hmem, hv⟩)
    obtain ⟨p, hp⟩ := hall (key, a.toJson) (mem_entries.mpr ⟨a, ha, rfl⟩)
    obtain ⟨kvs', he, -, hkept⟩ := entry_object hstd hpass hmem hv
    cases he
    exact ⟨p, by rw [← hsame key]; exact (written_get hm' key p).mpr ⟨a, ha, hp⟩, hkept p hp⟩
  · rw [← hsame key] at hp
    obtain ⟨a, ha, -⟩ := (written_get hm' key p).mp hp
    obtain ⟨kvs, hmem, -⟩ := mapFold_object hstd hpass hk ha
    exact ⟨kvs, hmem⟩

theorem through_of_entriesKept (hstd : Std.Quiet std)
    (hpass : ∀ e ∈ es, ∃ q p, unmarshalPolicy std q e.2 = .ok p) (h : EntriesKept std es m) :
    ∃ k, Moshi.map ProfilePolicy.fromJson (.obj es) = some k ∧
      ∃ m', jsonMap {} (unmarshalPolicy std) ∅ (ofMap ProfilePolicy.toJson k) = .ok m' ∧
        ∀ key, m'.get key = m.get key := by
  have hkept : ∀ {key kvs}, (key, .obj kvs) ∈ es → ∃ a p, ProfilePolicy.read kvs = some a ∧
      unmarshalPolicy std {} a.toJson = .ok p ∧ m.get key = some p := by
    intro key kvs hmem
    obtain ⟨q, p0, hp⟩ := hpass _ hmem
    obtain ⟨p, hget, hkept⟩ := h.kept key kvs hmem
    obtain ⟨a, ha, hw⟩ := (policyKept_iff hstd hp).mpr hkept
    exact ⟨a, p, ha, hw, hget⟩
  have hreadable : ∀ e ∈ es, ∃ v, nullable ProfilePolicy.fromJson e.2 = some v := by
    rintro ⟨key, j⟩ hmem
    obtain ⟨q, p0, hp⟩ := hpass _ hmem
    rcases policy_passed_cases hp with hj | ⟨kvs, hj⟩
    · exact ⟨none, nullable_none.mpr hj⟩
    · cases (show j = .obj kvs from hj)
      obtain ⟨a, p, ha, -⟩ := hkept hmem
      exact ⟨some a, nullable_some.mpr ⟨nofun, ha⟩⟩
  obtain ⟨k, hk⟩ := (mapFold_isSome es ∅).mpr ⟨hreadable, h.once, fun _ _ _ hget => by
    rw [GoMap.get_empty] at hget
    cases hget⟩
  -- every policy that was read comes from an object, and that is kept
  have hread : ∀ {key a}, k.get key = some (some a) →
      ∃ p, unmarshalPolicy std {} a.toJson = .ok p ∧ m.get key = some p := by
    intro key a ha
    obtain ⟨kvs, hmem, hra⟩ := mapFold_object hstd hpass hk ha
    obtain ⟨a', p, ha', hw, hp⟩ := hkept hmem
    cases hra.symm.trans ha'
    exact ⟨p, hw, hp⟩
  obtain ⟨m', hm'⟩ := (jsonMap_isOk {} (unmarshalPolicy std) (entries ProfilePolicy.toJson k) ∅).mpr
    fun e he => by
    obtain ⟨a, ha, hj⟩ := mem_entries.mp he
    obtain ⟨p, hp, -⟩ := hread ha
    exact ⟨p, by rw [hj]; exact hp⟩
  refine ⟨k, hk, m', hm', fun key => Option.ext fun p => (written_get hm' key p).trans ?_⟩
  constructor
  · rintro ⟨a, ha, hp⟩
    obtain ⟨p', hp', hm⟩ := hread ha
    cases hp'.symm.trans hp
    exact hm
  · intro hp
    obtain ⟨kvs, hmem⟩ := h.all key p hp
    obtain ⟨a, p', ha, hw, hp'⟩ := hkept hmem
    cases hp'.symm.trans hp
    exact ⟨a, (mapFold_get es hk key a).mpr (.inl ⟨_, hmem, nullable_some.mpr ⟨nofun, ha⟩⟩), hw⟩

/-- **What the core finds in a map that was read and written back.** -/
theorem entries_through (hstd : Std.Quiet std)
    (hpass : ∀ e ∈ es, ∃ q p, unmarshalPolicy std q e.2 = .ok p) :
    (∃ k, Moshi.map ProfilePolicy.fromJson (.obj es) = some k ∧
      ∃ m', jsonMap {} (unmarshalPolicy std) ∅ (ofMap ProfilePolicy.toJson k) = .ok m' ∧
        ∀ key, m'.get key = m.get key) ↔ EntriesKept std es m :=
  ⟨fun ⟨_, hk, _, hm', hsame⟩ => entriesKept_of_through hstd hpass hk hm' hsame,
    through_of_entriesKept hstd hpass⟩

end

theorem jsonMap_passed (es : List (Bytes × Json)) : ∀ {m m' : GoMap Bytes Policy},
    jsonMap {} (unmarshalPolicy std) m (.obj es) = .ok m' →
      ∀ e ∈ es, ∃ q p, unmarshalPolicy std q e.2 = .ok p := by
  induction es with
  | nil => exact fun _ _ h => nomatch h
  | cons e es ih =>
    intro m m' h
    simp only [jsonMap, List.foldlM_cons] at h
    obtain ⟨m1, h1, h⟩ := Res.bind_eq_ok.mp h
    obtain ⟨p, hp, -⟩ := Res.bind_eq_ok.mp h1
    exact List.forall_mem_cons.mpr ⟨⟨{}, p, hp⟩, ih h⟩

theorem map_through {m : GoMap Bytes Policy} (hstd : Std.Quiet std)
    (hp : Passed name (jsonMap {} (unmarshalPolicy std)) kvs) :
    Through name (Moshi.map ProfilePolicy.fromJson) ∅ (ofMap ProfilePolicy.toJson)
        (jsonMap {} (unmarshalPolicy std) ∅) kvs (fun m' => ∀ key, m'.get key = m.get key) ↔
      MapKept std name kvs m := by
  have hempty : _ ↔ EntriesKept std [] m := entries_through hstd fun _ h => nomatch h
  have hpass : ∀ {es}, named name kvs = [(lit name, .obj es)] →
      ∀ e ∈ es, ∃ q p, unmarshalPolicy std q e.2 = .ok p := by
    intro es hn e he
    obtain ⟨m0, m1, hm⟩ := hp.once hn
    exact jsonMap_passed es hm e he
  constructor
  · rintro ⟨k, hread, hback⟩
    rcases prop_eq_some.mp hread with ⟨hn, rfl⟩ | ⟨j, hn, hj⟩
    · exact .inl ⟨hn, hempty.mp ⟨∅, rfl, hback⟩⟩
    · cases j with
      | obj es => exact .inr ⟨es, hn, (entries_through hstd (hpass hn)).mp ⟨k, hj, hback⟩⟩
      | null | bool b | num s | str s | arr l => cases hj
  · rintro (⟨hn, h⟩ | ⟨es, hn, h⟩)
    · obtain ⟨k, hk, hback⟩ := hempty.mpr h
      cases hk
      exact ⟨∅, prop_eq_some.mpr (.inl ⟨hn, rfl⟩), hback⟩
    · obtain ⟨k, hk, hback⟩ := (entries_through hstd (hpass hn)).mpr h
      exact ⟨k, prop_eq_some.mpr (.inr ⟨.obj es, hn, hk⟩), hback⟩

/-! ## the file -/

/-- one fact for each field of the core -/
structure ConfigRead (std : Std) (kvs : List (Bytes × Json)) (c : Config) : Prop where
  logLevel : Json.field "log_level" Json.string [] kvs = .ok c.logLevel
  transmitFileLimit : Json.field "transmit_file_limit" Json.int 0 kvs = .ok c.transmitFileLimit
  socks5Addr : Json.field "socks5_address" Json.string [] kvs = .ok c.socks5Addr
  httpAddr : Json.field "http_address" Json.string [] kvs = .ok c.httpAddr
  dnsAddr : Json.field "dns_addr" Json.string [] kvs = .ok c.dnsAddr
  udpSize : Json.field "udp_minsize" Json.uint16 0 kvs = .ok c.udpSize
  dohProxy : Json.field "socks5_for_doh" Json.string [] kvs = .ok c.dohProxy
  fakeTTLRules : Json.field "fake_ttl_rules" Json.string [] kvs = .ok c.fakeTTLRules
  dnsSingleflight : Json.field "dns_singleflight" Json.boolean false kvs = .ok c.dnsSingleflight
  dnsCacheTTL : Json.field "dns_cache_ttl" Json.int 0 kvs = .ok c.dnsCacheTTL
  dnsCacheCapacity : Json.field "dns_cache_cap" Json.int 0 kvs = .ok c.dnsCacheCapacity
  ttlSingleflight : Json.field "ttl_singleflight" Json.boolean false kvs = .ok c.ttlSingleflight
  ttlCacheTTL : Json.field "ttl_cache_ttl" Json.int 0 kvs = .ok c.ttlCacheTTL
  ttlCacheCapacity : Json.field "ttl_cache_cap" Json.int 0 kvs = .ok c.ttlCacheCapacity
  ipPools : Json.field "ip_pools" (jsonMap none (unmarshalIPPoolPtr std)) ∅ kvs = .ok c.ipPools
  defaultPolicy : Json.field "default_policy" (unmarshalPolicy std) {} kvs = .ok c.defaultPolicy
  domainPolicies : Json.field "domain_policies" (jsonMap {} (unmarshalPolicy std)) ∅ kvs =
    .ok c.domainPolicies
  ipPolicies : Json.field "ip_policies" (jsonMap {} (unmarshalPolicy std)) ∅ kvs = .ok c.ipPolicies

theorem configRead_iff {c : Config} :
    unmarshalConfig std (.obj kvs) = .ok c ↔ ConfigRead std kvs c := by
  constructor
  · intro h
    obtain ⟨_, ⟨⟩, h⟩ := Res.bind_eq_ok.mp h
    obtain ⟨_, hlogLevel, h⟩ := Res.bind_eq_ok.mp h
    obtain ⟨_, htransmitFileLimit, h⟩ := Res.bind_eq_ok.mp h
    obtain ⟨_, hsocks5Addr, h⟩ := Res.bind_eq_ok.mp h
    obtain ⟨_, hhttpAddr, h⟩ := Res.bind_eq_ok.mp h
    obtain ⟨_, hdnsAddr, h⟩ := Res.bind_eq_ok.mp h
    obtain ⟨_, hudpSize, h⟩ := Res.bind_eq_ok.mp h
    obtain ⟨_, hdohProxy, h⟩ := Res.bind_eq_ok.mp h
    obtain ⟨_, hfakeTTLRules, h⟩ := Res.bind_eq_ok.mp h
    obtain ⟨_, hdnsSingleflight, h⟩ := Res.bind_eq_ok.mp h
    obtain ⟨_, hdnsCacheTTL, h⟩ := Res.bind_eq_ok.mp h
    obtain ⟨_, hdnsCacheCapacity, h⟩ := Res.bind_eq_ok.mp h
    obtain ⟨_, httlSingleflight, h⟩ := Res.bind_eq_ok.mp h
    obtain ⟨_, httlCacheTTL, h⟩ := Res.bind_eq_ok.mp h
    obtain ⟨_, httlCacheCapacity, h⟩ := Res.bind_eq_ok.mp h
    obtain ⟨_, hipPools, h⟩ := Res.bind_eq_ok.mp h
    obtain ⟨_, hdefaultPolicy, h⟩ := Res.bind_eq_ok.mp h
    obtain ⟨_, hdomainPolicies, h⟩ := Res.bind_eq_ok.mp h
    obtain ⟨_, hipPolicies, h⟩ := Res.bind_eq_ok.mp h
    cases h
    exact ⟨hlogLevel, htransmitFileLimit, hsocks5Addr, hhttpAddr, hdnsAddr, hudpSize, hdohProxy,
      hfakeTTLRules, hdnsSingleflight, hdnsCacheTTL, hdnsCacheCapacity, httlSingleflight,
      httlCacheTTL, httlCacheCapacity, hipPools, hdefaultPolicy, hdomainPolicies, hipPolicies⟩
  · intro h
    show (Res.ok kvs >>= _) = _
    simp only [Res.bind_ok, h.logLevel, h.transmitFileLimit, h.socks5Addr, h.httpAddr,
      h.dnsAddr, h.udpSize, h.dohProxy, h.fakeTTLRules, h.dnsSingleflight, h.dnsCacheTTL,
      h.dnsCacheCapacity, h.ttlSingleflight, h.ttlCacheTTL, h.ttlCacheCapacity, h.ipPools,
      h.defaultPolicy, h.domainPolicies, h.ipPolicies]
    rfl

/-- one fact for each property of the class -/
structure ProfileRead (kvs : List (Bytes × Json)) (k : BillVpnConfig) : Prop where
  logLevel : prop "log_level" str ({} : BillVpnConfig).logLevel kvs = some k.logLevel
  socks5Address : prop "socks5_address" str ({} : BillVpnConfig).socks5Address kvs = some k.socks5Address
  httpAddress : prop "http_address" str ({} : BillVpnConfig).httpAddress kvs = some k.httpAddress
  dnsAddr : prop "dns_addr" str ({} : BillVpnConfig).dnsAddr kvs = some k.dnsAddr
  socks5ForDoh : prop "socks5_for_doh" str ({} : BillVpnConfig).socks5ForDoh kvs = some k.socks5ForDoh
  udpMinSize : prop "udp_minsize" Moshi.int ({} : BillVpnConfig).udpMinSize kvs = some k.udpMinSize
  dnsSingleFlight : prop "dns_singleflight" Moshi.bool ({} : BillVpnConfig).dnsSingleFlight kvs = some k.dnsSingleFlight
  dnsCacheTtl : prop "dns_cache_ttl" Moshi.int ({} : BillVpnConfig).dnsCacheTtl kvs = some k.dnsCacheTtl
  dnsCacheCap : prop "dns_cache_cap" Moshi.int ({} : BillVpnConfig).dnsCacheCap kvs = some k.dnsCacheCap
  ttlSingleFlight : prop "ttl_singleflight" Moshi.bool ({} : BillVpnConfig).ttlSingleFlight kvs = some k.ttlSingleFlight
  ttlCacheTtl : prop "ttl_cache_ttl" Moshi.int ({} : BillVpnConfig).ttlCacheTtl kvs = some k.ttlCacheTtl
  ttlCacheCap : prop "ttl_cache_cap" Moshi.int ({} : BillVpnConfig).ttlCacheCap kvs = some k.ttlCacheCap
  fakeTtlRules : prop "fake_ttl_rules" str ({} : BillVpnConfig).fakeTtlRules kvs = some k.fakeTtlRules
  transmitFileLimit : prop "transmit_file_limit" Moshi.int ({} : BillVpnConfig).transmitFileLimit kvs = some k.transmitFileLimit
  defaultPolicy : prop "default_policy" ProfilePolicy.fromJson {} kvs = some k.defaultPolicy
  ipPolicies : prop "ip_policies" (Moshi.map ProfilePolicy.fromJson) ∅ kvs = some k.ipPolicies
  domainPolicies : prop "domain_policies" (Moshi.map ProfilePolicy.fromJson) ∅ kvs =
    some k.domainPolicies

theorem profileRead_iff {k : BillVpnConfig} :
    BillVpnConfig.read kvs = some k ↔ ProfileRead kvs k := by
  constructor
  · intro h
    unfold BillVpnConfig.read at h
    obtain ⟨_, hlogLevel, h⟩ := Option.bind_eq_some_iff.mp h
    obtain ⟨_, hsocks5Address, h⟩ := Option.bind_eq_some_iff.mp h
    obtain ⟨_, hhttpAddress, h⟩ := Option.bind_eq_some_iff.mp h
    obtain ⟨_, hdnsAddr, h⟩ := Option.bind_eq_some_iff.mp h
    obtain ⟨_, hsocks5ForDoh, h⟩ := Option.bind_eq_some_iff.mp h
    obtain ⟨_, hudpMinSize, h⟩ := Option.bind_eq_some_iff.mp h
    obtain ⟨_, hdnsSingleFlight, h⟩ := Option.bind_eq_some_iff.mp h
    obtain ⟨_, hdnsCacheTtl, h⟩ := Option.bind_eq_some_iff.mp h
    obtain ⟨_, hdnsCacheCap, h⟩ := Option.bind_eq_some_iff.mp h
    obtain ⟨_, httlSingleFlight, h⟩ := Option.bind_eq_some_iff.mp h
    obtain ⟨_, httlCacheTtl, h⟩ := Option.bind_eq_some_iff.mp h
    obtain ⟨_, httlCacheCap, h⟩ := Option.bind_eq_some_iff.mp h
    obtain ⟨_, hfakeTtlRules, h⟩ := Option.bind_eq_some_iff.mp h
    obtain ⟨_, htransmitFileLimit, h⟩ := Option.bind_eq_some_iff.mp h
    obtain ⟨_, hdefaultPolicy, h⟩ := Option.bind_eq_some_iff.mp h
    obtain ⟨_, hipPolicies, h⟩ := Option.bind_eq_some_iff.mp h
    obtain ⟨_, hdomainPolicies, h⟩ := Option.bind_eq_some_iff.mp h
    cases h
    exact ⟨hlogLevel, hsocks5Address, hhttpAddress, hdnsAddr, hsocks5ForDoh, hudpMinSize,
      hdnsSingleFlight, hdnsCacheTtl, hdnsCacheCap, httlSingleFlight, httlCacheTtl, httlCacheCap,
      hfakeTtlRules, htransmitFileLimit, hdefaultPolicy, hipPolicies, hdomainPolicies⟩
  · intro h
    unfold BillVpnConfig.read
    simp only [h.logLevel, h.socks5Address, h.httpAddress, h.dnsAddr, h.socks5ForDoh,
      h.udpMinSize, h.dnsSingleFlight, h.dnsCacheTtl, h.dnsCacheCap, h.ttlSingleFlight,
      h.ttlCacheTtl, h.ttlCacheCap, h.fakeTtlRules, h.transmitFileLimit, h.defaultPolicy,
      h.ipPolicies, h.domainPolicies, Option.bind_eq_bind, Option.bind_some]
    rfl

/-- every field on its way through the class -/
structure ConfigThrough (std : Std) (kvs : List (Bytes × Json)) (c : Config) : Prop where
  logLevel : Through "log_level" str ({} : BillVpnConfig).logLevel .str (Json.string []) kvs
    (· = c.logLevel)
  socks5Addr : Through "socks5_address" str ({} : BillVpnConfig).socks5Address .str (Json.string []) kvs
    (· = c.socks5Addr)
  httpAddr : Through "http_address" str ({} : BillVpnConfig).httpAddress .str (Json.string []) kvs
    (· = c.httpAddr)
  dnsAddr : Through "dns_addr" str ({} : BillVpnConfig).dnsAddr .str (Json.string []) kvs
    (· = c.dnsAddr)
  dohProxy : Through "socks5_for_doh" str ({} : BillVpnConfig).socks5ForDoh .str (Json.string []) kvs
    (· = c.dohProxy)
  udpSize : Through "udp_minsize" Moshi.int ({} : BillVpnConfig).udpMinSize ofInt (Json.uint16 0) kvs
    (· = c.udpSize)
  dnsSingleflight : Through "dns_singleflight" Moshi.bool ({} : BillVpnConfig).dnsSingleFlight .bool (Json.boolean false) kvs
    (· = c.dnsSingleflight)
  dnsCacheTTL : Through "dns_cache_ttl" Moshi.int ({} : BillVpnConfig).dnsCacheTtl ofInt (Json.int 0) kvs
    (· = c.dnsCacheTTL)
  dnsCacheCapacity : Through "dns_cache_cap" Moshi.int ({} : BillVpnConfig).dnsCacheCap ofInt (Json.int 0) kvs
    (· = c.dnsCacheCapacity)
  ttlSingleflight : Through "ttl_singleflight" Moshi.bool ({} : BillVpnConfig).ttlSingleFlight .bool (Json.boolean false) kvs
    (· = c.ttlSingleflight)
  ttlCacheTTL : Through "ttl_cache_ttl" Moshi.int ({} : BillVpnConfig).ttlCacheTtl ofInt (Json.int 0) kvs
    (· = c.ttlCacheTTL)
  ttlCacheCapacity : Through "ttl_cache_cap" Moshi.int ({} : BillVpnConfig).ttlCacheCap ofInt (Json.int 0) kvs
    (· = c.ttlCacheCapacity)
  fakeTTLRules : Through "fake_ttl_rules" str ({} : BillVpnConfig).fakeTtlRules .str (Json.string []) kvs
    (· = c.fakeTTLRules)
  transmitFileLimit : Through "transmit_file_limit" Moshi.int ({} : BillVpnConfig).transmitFileLimit ofInt (Json.int 0) kvs
    (· = c.transmitFileLimit)
  ipPools : ∀ tag, c.ipPools.get tag = none
  defaultPolicy : Through "default_policy" ProfilePolicy.fromJson {} ProfilePolicy.toJson
    (unmarshalPolicy std {}) kvs (· = c.defaultPolicy)
  domainPolicies : Through "domain_policies" (Moshi.map ProfilePolicy.fromJson) ∅
    (ofMap ProfilePolicy.toJson) (jsonMap {} (unmarshalPolicy std) ∅) kvs
    (fun m => ∀ key, m.get key = c.domainPolicies.get key)
  ipPolicies : Through "ip_policies" (Moshi.map ProfilePolicy.fromJson) ∅
    (ofMap ProfilePolicy.toJson) (jsonMap {} (unmarshalPolicy std) ∅) kvs
    (fun m => ∀ key, m.get key = c.ipPolicies.get key)

theorem configNames_distinct (k : BillVpnConfig) : Distinct (k.fields.map (·.1)) := by
  show Distinct (({} : BillVpnConfig).fields.map (·.1))
  decide +kernel

theorem written_config (k : BillVpnConfig) {β : Type} {dec : β → Json → Res β} {cur b : β} {j : Json}
    (hmem : (name, some j) ∈ k.fields) :
    Json.field name dec cur (members k.fields) = .ok b ↔ dec cur j = .ok b := by
  rw [field_object (configNames_distinct k) hmem]
  rfl

theorem through_written {k : BillVpnConfig} {α β : Type} {read : Json → Option α} {absent a : α}
    {enc : α → Json} {dec : β → Json → Res β} {cur b : β} {good : β → Prop}
    (hread : prop name read absent kvs = some a) (hmem : (name, some (enc a)) ∈ k.fields)
    (hw : Json.field name dec cur (members k.fields) = .ok b) (hb : good b) :
    Through name read absent enc (dec cur) kvs good :=
  ⟨a, hread, b, (written_config k hmem).mp hw, hb⟩

theorem written_noPools {k : BillVpnConfig} {β : Type} {dec : β → Json → Res β} {cur : β} :
    Json.field "ip_pools" dec cur (members k.fields) = .ok cur := by
  apply field_members_absent
  have hne : ∀ n ∈ ({} : BillVpnConfig).fields.map (·.1),
      Json.foldName (lit n) ≠ Json.foldName (lit "ip_pools") := by decide +kernel
  exact fun m hm => hne m.1 (List.mem_map_of_mem (f := (·.1)) hm)

theorem configThrough_of_read {k : BillVpnConfig} {c c' : Config} (hk : BillVpnConfig.read kvs = some k)
    (hc' : unmarshalConfig std k.toJson = .ok c') (hsame : c'.Same c) : ConfigThrough std kvs c := by
  have hr := profileRead_iff.mp hk
  have hw := configRead_iff.mp hc'
  have hf := hsame.fields
  have hin : ∀ i m, k.fields[i]? = some m → m ∈ k.fields := fun _ _ => List.mem_of_getElem?
  have hnone : ∅ = c'.ipPools := Res.ok.inj (written_noPools.symm.trans hw.ipPools)
  exact {
    logLevel :=
      through_written hr.logLevel (hin 0 _ rfl) hw.logLevel (congrArg Config.logLevel hf :)
    socks5Addr :=
      through_written hr.socks5Address (hin 1 _ rfl) hw.socks5Addr (congrArg Config.socks5Addr hf :)
    httpAddr :=
      through_written hr.httpAddress (hin 2 _ rfl) hw.httpAddr (congrArg Config.httpAddr hf :)
    dnsAddr := through_written hr.dnsAddr (hin 3 _ rfl) hw.dnsAddr (congrArg Config.dnsAddr hf :)
    dohProxy :=
      through_written hr.socks5ForDoh (hin 4 _ rfl) hw.dohProxy (congrArg Config.dohProxy hf :)
    udpSize := through_written hr.udpMinSize (hin 5 _ rfl) hw.udpSize (congrArg Config.udpSize hf :)
    dnsSingleflight :=
      through_written hr.dnsSingleFlight (hin 6 _ rfl) hw.dnsSingleflight (congrArg Config.dnsSingleflight hf :)
    dnsCacheTTL :=
      through_written hr.dnsCacheTtl (hin 7 _ rfl) hw.dnsCacheTTL (congrArg Config.dnsCacheTTL hf :)
    dnsCacheCapacity :=
      through_written hr.dnsCacheCap (hin 8 _ rfl) hw.dnsCacheCapacity (congrArg Config.dnsCacheCapacity hf :)
    ttlSingleflight :=
      through_written hr.ttlSingleFlight (hin 9 _ rfl) hw.ttlSingleflight (congrArg Config.ttlSingleflight hf :)
    ttlCacheTTL :=
      through_written hr.ttlCacheTtl (hin 10 _ rfl) hw.ttlCacheTTL (congrArg Config.ttlCacheTTL hf :)
    ttlCacheCapacity :=
      through_written hr.ttlCacheCap (hin 11 _ rfl) hw.ttlCacheCapacity (congrArg Config.ttlCacheCapacity hf :)
    fakeTTLRules :=
      through_written hr.fakeTtlRules (hin 12 _ rfl) hw.fakeTTLRules (congrArg Config.fakeTTLRules hf :)
    transmitFileLimit :=
      through_written hr.transmitFileLimit (hin 13 _ rfl) hw.transmitFileLimit (congrArg Config.transmitFileLimit hf :)
    defaultPolicy :=
      through_written hr.defaultPolicy (hin 14 _ rfl) hw.defaultPolicy (congrArg Config.defaultPolicy hf :)
    ipPools := fun tag => by rw [← hsame.ipPools tag, ← hnone]; exact GoMap.get_empty tag
    domainPolicies :=
      through_written hr.domainPolicies (hin 16 _ rfl) hw.domainPolicies hsame.domainPolicies
    ipPolicies := through_written hr.ipPolicies (hin 15 _ rfl) hw.ipPolicies hsame.ipPolicies }

theorem config_of_through {c : Config} (h : ConfigThrough std kvs c) :
    ∃ k c', BillVpnConfig.read kvs = some k ∧ unmarshalConfig std k.toJson = .ok c' ∧ c'.Same c := by
  obtain ⟨logLevel, rlogLevel, _, wlogLevel, rfl⟩ := h.logLevel
  obtain ⟨socks5Address, rsocks5Address, _, wsocks5Address, rfl⟩ := h.socks5Addr
  obtain ⟨httpAddress, rhttpAddress, _, whttpAddress, rfl⟩ := h.httpAddr
  obtain ⟨dnsAddr, rdnsAddr, _, wdnsAddr, rfl⟩ := h.dnsAddr
  obtain ⟨socks5ForDoh, rsocks5ForDoh, _, wsocks5ForDoh, rfl⟩ := h.dohProxy
  obtain ⟨udpMinSize, rudpMinSize, _, wudpMinSize, rfl⟩ := h.udpSize
  obtain ⟨dnsSingleFlight, rdnsSingleFlight, _, wdnsSingleFlight, rfl⟩ := h.dnsSingleflight
  obtain ⟨dnsCacheTtl, rdnsCacheTtl, _, wdnsCacheTtl, rfl⟩ := h.dnsCacheTTL
  obtain ⟨dnsCacheCap, rdnsCacheCap, _, wdnsCacheCap, rfl⟩ := h.dnsCacheCapacity
  obtain ⟨ttlSingleFlight, rttlSingleFlight, _, wttlSingleFlight, rfl⟩ := h.ttlSingleflight
  obtain ⟨ttlCacheTtl, rttlCacheTtl, _, wttlCacheTtl, rfl⟩ := h.ttlCacheTTL
  obtain ⟨ttlCacheCap, rttlCacheCap, _, wttlCacheCap, rfl⟩ := h.ttlCacheCapacity
  obtain ⟨fakeTtlRules, rfakeTtlRules, _, wfakeTtlRules, rfl⟩ := h.fakeTTLRules
  obtain ⟨transmitFileLimit, rtransmitFileLimit, _, wtransmitFileLimit, rfl⟩ := h.transmitFileLimit
  obtain ⟨defaultPolicy, rdefaultPolicy, _, wdefaultPolicy, rfl⟩ := h.defaultPolicy
  obtain ⟨domainPolicies, rdomainPolicies, dm, wdomainPolicies, hdm⟩ := h.domainPolicies
  obtain ⟨ipPolicies, ripPolicies, im, wipPolicies, him⟩ := h.ipPolicies
  let k : BillVpnConfig :=
    ⟨logLevel, socks5Address, httpAddress, dnsAddr, socks5ForDoh, udpMinSize, dnsSingleFlight,
      dnsCacheTtl, dnsCacheCap, ttlSingleFlight, ttlCacheTtl, ttlCacheCap, fakeTtlRules,
      transmitFileLimit, defaultPolicy, ipPolicies, domainPolicies⟩
  let c' : Config := { c with ipPools := ∅, domainPolicies := dm, ipPolicies := im }
  have hk : BillVpnConfig.read kvs = some k :=
    profileRead_iff.mpr ⟨rlogLevel, rsocks5Address, rhttpAddress, rdnsAddr, rsocks5ForDoh, rudpMinSize,
      rdnsSingleFlight, rdnsCacheTtl, rdnsCacheCap, rttlSingleFlight, rttlCacheTtl,
      rttlCacheCap, rfakeTtlRules, rtransmitFileLimit, rdefaultPolicy, ripPolicies,
      rdomainPolicies⟩
  have hc' : unmarshalConfig std k.toJson = .ok c' := by
    have hw : ∀ (i : Nat) {name β} {dec : β → Json → Res β} {cur b : β} {j : Json},
        k.fields[i]? = some (name, some j) → dec cur j = .ok b →
          Json.field name dec cur (members k.fields) = .ok b :=
      fun _ _ _ _ _ _ _ hi => (written_config k (List.mem_of_getElem? hi)).mpr
    exact configRead_iff.mpr {
      logLevel := hw 0 rfl wlogLevel
      transmitFileLimit := hw 13 rfl wtransmitFileLimit
      socks5Addr := hw 1 rfl wsocks5Address
      httpAddr := hw 2 rfl whttpAddress
      dnsAddr := hw 3 rfl wdnsAddr
      udpSize := hw 5 rfl wudpMinSize
      dohProxy := hw 4 rfl wsocks5ForDoh
      fakeTTLRules := hw 12 rfl wfakeTtlRules
      dnsSingleflight := hw 6 rfl wdnsSingleFlight
      dnsCacheTTL := hw 7 rfl wdnsCacheTtl
      dnsCacheCapacity := hw 8 rfl wdnsCacheCap
      ttlSingleflight := hw 9 rfl wttlSingleFlight
      ttlCacheTTL := hw 10 rfl wttlCacheTtl
      ttlCacheCapacity := hw 11 rfl wttlCacheCap
      defaultPolicy := hw 14 rfl wdefaultPolicy
      ipPools := written_noPools
      domainPolicies := hw 16 rfl wdomainPolicies
      ipPolicies := hw 15 rfl wipPolicies }
  exact ⟨k, c', hk, hc', rfl, fun tag => (GoMap.get_empty tag).trans (h.ipPools tag).symm, hdm, him⟩

theorem configThrough_portable {c : Config} (hstd : Std.Quiet std) (hc : ConfigRead std kvs c) :
    ConfigThrough std kvs c ↔ Portable std kvs c := by
  constructor
  · intro h
    exact {
      logLevel := (text_through fun _ => named_decoded hc.logLevel).mp h.logLevel
      socks5Addr := (text_through fun _ => named_decoded hc.socks5Addr).mp h.socks5Addr
      httpAddr := (text_through fun _ => named_decoded hc.httpAddr).mp h.httpAddr
      dnsAddr := (text_through fun _ => named_decoded hc.dnsAddr).mp h.dnsAddr
      dohProxy := (text_through fun _ => named_decoded hc.dohProxy).mp h.dohProxy
      udpSize := (uint16_through (by decide) fun _ => named_decoded hc.udpSize).mp h.udpSize
      dnsSingleflight := flag_through.mp h.dnsSingleflight
      dnsCacheTTL := (int_through (by decide)).mp h.dnsCacheTTL
      dnsCacheCapacity := (int_through (by decide)).mp h.dnsCacheCapacity
      ttlSingleflight := flag_through.mp h.ttlSingleflight
      ttlCacheTTL := (int_through (by decide)).mp h.ttlCacheTTL
      ttlCacheCapacity := (int_through (by decide)).mp h.ttlCacheCapacity
      fakeTTLRules := (text_through fun _ => named_decoded hc.fakeTTLRules).mp h.fakeTTLRules
      transmitFileLimit := (int_through (by decide)).mp h.transmitFileLimit
      ipPools := h.ipPools
      defaultPolicy := (policy_through hstd fun _ => named_decoded hc.defaultPolicy).mp h.defaultPolicy
      domainPolicies := (map_through hstd fun _ => named_decoded hc.domainPolicies).mp h.domainPolicies
      ipPolicies := (map_through hstd fun _ => named_decoded hc.ipPolicies).mp h.ipPolicies }
  · intro h
    exact {
      logLevel := (text_through fun _ => named_decoded hc.logLevel).mpr h.logLevel
      socks5Addr := (text_through fun _ => named_decoded hc.socks5Addr).mpr h.socks5Addr
      httpAddr := (text_through fun _ => named_decoded hc.httpAddr).mpr h.httpAddr
      dnsAddr := (text_through fun _ => named_decoded hc.dnsAddr).mpr h.dnsAddr
      dohProxy := (text_through fun _ => named_decoded hc.dohProxy).mpr h.dohProxy
      udpSize := (uint16_through (by decide) fun _ => named_decoded hc.udpSize).mpr h.udpSize
      dnsSingleflight := flag_through.mpr h.dnsSingleflight
      dnsCacheTTL := (int_through (by decide)).mpr h.dnsCacheTTL
      dnsCacheCapacity := (int_through (by decide)).mpr h.dnsCacheCapacity
      ttlSingleflight := flag_through.mpr h.ttlSingleflight
      ttlCacheTTL := (int_through (by decide)).mpr h.ttlCacheTTL
      ttlCacheCapacity := (int_through (by decide)).mpr h.ttlCacheCapacity
      fakeTTLRules := (text_through fun _ => named_decoded hc.fakeTTLRules).mpr h.fakeTTLRules
      transmitFileLimit := (int_through (by decide)).mpr h.transmitFileLimit
      ipPools := h.ipPools
      defaultPolicy := (policy_through hstd fun _ => named_decoded hc.defaultPolicy).mpr h.defaultPolicy
      domainPolicies := (map_through hstd fun _ => named_decoded hc.domainPolicies).mpr h.domainPolicies
      ipPolicies := (map_through hstd fun _ => named_decoded hc.ipPolicies).mpr h.ipPolicies }

end

/-- **A file survives exactly if it is portable.** -/
theorem profile_round_trip {std : Std} {j : Json} {c : Config} (hstd : Std.Quiet std)
    (hload : unmarshalConfig std j = .ok c) :
    (∃ k c', BillVpnConfig.fromJson j = some k ∧ unmarshalConfig std k.toJson = .ok c' ∧ c'.Same c) ↔
      ∃ kvs, j = .obj kvs ∧ Portable std kvs c := by
  constructor
  · rintro ⟨k, c', hk, hrest⟩
    cases j with
    | obj kvs =>
      refine ⟨kvs, rfl, (configThrough_portable hstd (configRead_iff.mp hload)).mp ?_⟩
      exact configThrough_of_read hk hrest.1 hrest.2
    | null | bool b | num s | str s | arr l => cases hk
  · rintro ⟨kvs, rfl, h⟩
    exact config_of_through ((configThrough_portable hstd (configRead_iff.mp hload)).mpr h)

/-! ## two files -/

/-- what the core reads in a file, and in the file that is saved from it -/
def configOf (file : Res Config) : Config :=
  match file with
  | .ok c => c
  | _ => {}

def savedConfig (std : Std) (j : Json) : Res Config :=
  match BillVpnConfig.fromJson j with
  | none => .err "not saved"
  | some k => unmarshalConfig std k.toJson

def freshProfile : Json := BillVpnConfig.toJson {}

theorem profile_round_trip_fresh :
    unmarshalConfig plainCallees.std freshProfile =
      .ok (configOf (savedConfig plainCallees.std freshProfile)) ∧
      Portable plainCallees.std (members (BillVpnConfig.fields {}))
        (configOf (savedConfig plainCallees.std freshProfile)) := by
  have hload : unmarshalConfig plainCallees.std freshProfile =
      .ok (configOf (savedConfig plainCallees.std freshProfile)) := by rfl
  refine ⟨hload, ?_⟩
  have hstd : Std.Quiet plainCallees.std := by
    unfold Std.Quiet
    rfl
  obtain ⟨kvs, he, h⟩ := (profile_round_trip hstd hload).mp ⟨{}, _, rfl, hload, ⟨rfl, fun _ => rfl,
    fun _ => rfl, fun _ => rfl⟩⟩
  cases he
  exact h

/-- a file with a pool, a port, and a time to live for the cache of addresses -/
def poolFile : Json :=
  .obj [(lit "ip_pools", .obj [(lit "pool", .obj [(lit "ips", .arr [.str (lit "192.0.2.1")]),
      (lit "port", .num (lit "443")), (lit "top_ip_count", .num (lit "1"))])]),
    (lit "default_policy", .obj [(lit "port", .num (lit "8443"))])]

/-- **a profile that is saved has lost its pools and its ports, and has got a cache** -/
theorem profile_loses_pools :
    ((loadConfig { plainCallees with scan := fun _ => [⟨0, 1, 0⟩] } (.ok poolFile) {}).1 >>=
      fun _ => .ok ()) = .ok () ∧
    (unmarshalConfig plainCallees.std poolFile >>= fun c => .ok ((c.ipPools.get (lit "pool")).isSome,
      c.defaultPolicy.port, c.dnsCacheTTL)) = .ok (true, 8443, 0) ∧
    (savedConfig plainCallees.std poolFile >>= fun c => .ok ((c.ipPools.get (lit "pool")).isSome,
      c.defaultPolicy.port, c.dnsCacheTTL)) = .ok (false, -1, 3600) := by
  decide +kernel

end Bill
