import BillVpn.FakeIP.Store

/-!
# Whole lives of a store of fake addresses

Any sequence of `Allocate` and `LookupDomain` calls, at arbitrary readings of the clock.

* `allocate_keeps`, `lookupDomain_keeps`   a live entry outlives every call with its address;
* `step_wf`, `run_wf`                      the invariant after one call, and after a whole run;
* `store_runs`                             **the two maps stay inverses of each other**, and what
                                           follows for the callers;
* `store_leaves_block`                     a block that is written with its last address is left.
-/

set_option linter.unusedVariables false

namespace Bill
open Go FakeIPStore

inductive Call where
  | allocate (domain : Bytes) (lifetime now : Int)
  | lookupDomain (ip : Bytes) (now : Int)

/-- the reading of the clock during the call -/
def Call.now : Call → Int
  | .allocate _ _ now => now
  | .lookupDomain _ now => now

/-- the store after the call; `none` if the call does not return -/
def Call.step (lower : Bytes → Bytes) : Call → FakeIPStore → Option FakeIPStore
  | .allocate domain lifetime now, s => (s.allocate lower domain lifetime now).map (·.2)
  | .lookupDomain ip now, s => some (s.lookupDomain ip now).2

def Call.run (lower : Bytes → Bytes) (calls : List Call) (s : FakeIPStore) : Option FakeIPStore :=
  calls.foldlM (fun s c => c.step lower s) s

section
variable {lower : Bytes → Bytes} {s s' : FakeIPStore}

/-! ## one call -/

theorem lookupDomain_filtered (hs : s.WF) (ip : Bytes) (now : Int) :
    ∃ q, Filtered q s (s.lookupDomain ip now).2 ∧
      ∀ d e, s.domainToEntry.get d = some e → e.live now = true → q e = true := by
  unfold lookupDomain
  cases hi : s.ipToEntry.get ip with
  | none =>
    exact ⟨_, Filtered.refl s, fun _ _ _ _ => rfl⟩
  | some x =>
    dsimp only
    by_cases hl : x.live now = true
    · rw [if_pos hl]
      exact ⟨_, Filtered.refl s, fun _ _ _ _ => rfl⟩
    · rw [if_neg hl]
      refine ⟨_, deleteEntryLocked_filtered hs.paired x, fun d e he hlive => ?_⟩
      -- an entry with both keys of `x` is `x`
      cases hdiff : differs x e with
      | true => rfl
      | false =>
        have hsame : e.domain = x.domain := by simp_all [differs]
        have hx := (hs.paired.back hi).2
        rw [← hsame, (hs.paired.forth he).1, he] at hx
        cases hx
        exact absurd hlive hl

theorem lookup_live {ip : Bytes} {now : Int} {e : FakeIPEntry} (h : s.ipToEntry.get ip = some e)
    (hlive : now < e.expiresAt) : (s.lookupDomain ip now).1 = some e.domain := by
  have hl : e.live now = true := decide_eq_true hlive
  unfold lookupDomain
  rw [h]
  dsimp only
  rw [if_pos hl]

theorem lookupDomain_keeps (hs : s.WF) {ip d : Bytes} {now : Int} {e : FakeIPEntry}
    (he : s.domainToEntry.get d = some e) (hlive : now < e.expiresAt) :
    (s.lookupDomain ip now).2.domainToEntry.get d = some e := by
  obtain ⟨q, hf, hq⟩ := lookupDomain_filtered hs ip now
  rw [hf.byDomain, Option.filter_eq_some_iff]
  exact ⟨he, hq d e he (decide_eq_true hlive)⟩

theorem allocate_keeps (hs : s.WF) (lower : Bytes → Bytes) (domain : Bytes) (lifetime : Int)
    {d : Bytes} {now : Int} {e : FakeIPEntry} (he : s.domainToEntry.get d = some e) (hlive : now < e.expiresAt) :
    ∃ r e', s.allocate lower domain lifetime now = some r ∧
      r.2.domainToEntry.get d = some e' ∧ e'.ip = e.ip ∧
      e'.expiresAt = if d = lower domain then now + lifetimeOr lifetime else e.expiresAt := by
  rcases allocate_outcome hs lower domain lifetime with ⟨hd, h⟩ | ⟨hd, s1, r, hf, h, ho⟩
  · exact ⟨_, e, h, he, rfl, (if_neg fun hdd => hs.named he (hdd.trans hd)).symm⟩
  · have he1 : s1.domainToEntry.get d = some e := by
      rw [hf.byDomain, Option.filter_eq_some_iff]
      exact ⟨he, decide_eq_true hlive⟩
    obtain ⟨e', h1, h2, h3⟩ := ho.keeps he1
    exact ⟨r, e', h, h1, h2, h3⟩

theorem allocate_entry (hs : s.WF) {domain ip : Bytes} {lifetime now : Int}
    (h : s.allocate lower domain lifetime now = some (.ok ip, s')) :
    s'.ipToEntry.get ip = some ⟨lower domain, ip, now + lifetimeOr lifetime⟩ := by
  rcases allocate_outcome hs lower domain lifetime with ⟨hd, h'⟩ | ⟨hd, s1, r, hf, h', ho⟩
  · rw [h] at h'
    cases h'
  · rw [h] at h'
    cases h'
    exact ho.entry (hf.wf hs) rfl

theorem allocate_live (hs : s.WF) {d : Bytes} {lifetime now : Int} {e : FakeIPEntry}
    (he : s.domainToEntry.get (lower d) = some e) (hlive : now < e.expiresAt) :
    (s.allocate lower d lifetime now).map (·.1) = some (.ok e.ip) := by
  have hf := cleanup_filtered now hs.paired
  have he1 : (s.cleanupExpiredLocked now).domainToEntry.get (lower d) = some e := by
    rw [hf.byDomain, Option.filter_eq_some_iff]
    exact ⟨he, decide_eq_true hlive⟩
  unfold allocate allocateLocked
  rw [if_neg (hs.named he), he1]
  rfl

theorem lookup_allocated (hs : s.WF) {d ip : Bytes} {lifetime now : Int}
    (h : s.allocate lower d lifetime now = some (.ok ip, s')) :
    (s'.lookupDomain ip now).1 = some (lower d) := by
  have hpos := lifetimeOr_pos lifetime
  exact lookup_live (allocate_entry hs h) (show now < now + lifetimeOr lifetime by omega)

theorem allocate_wf (hs : s.WF) (lower : Bytes → Bytes) (domain : Bytes) (lifetime now : Int) :
    ∃ r, s.allocate lower domain lifetime now = some r ∧ r.2.WF ∧ r.2.pfx = s.pfx := by
  rcases allocate_outcome hs lower domain lifetime with ⟨hd, h⟩ | ⟨hd, s1, r, hf, h, ho⟩
  · exact ⟨_, h, hs, rfl⟩
  · refine ⟨r, h, ho.wf (hf.wf hs) hd, ?_⟩
    rw [← hf.pfx]
    cases ho <;> rfl

theorem lookupDomain_wf (hs : s.WF) (ip : Bytes) (now : Int) :
    (s.lookupDomain ip now).2.WF ∧ (s.lookupDomain ip now).2.pfx = s.pfx := by
  obtain ⟨q, hf, -⟩ := lookupDomain_filtered hs ip now
  exact ⟨hf.wf hs, hf.pfx⟩

theorem step_wf (hs : s.WF) (c : Call) :
    ∃ s', c.step lower s = some s' ∧ s'.WF ∧ s'.pfx = s.pfx := by
  cases c with
  | allocate domain lifetime now =>
    obtain ⟨r, h, hwf, hp⟩ := allocate_wf hs lower domain lifetime now
    exact ⟨r.2, by show Option.map _ _ = _; rw [h]; rfl, hwf, hp⟩
  | lookupDomain ip now => exact ⟨_, rfl, lookupDomain_wf hs ip now⟩

/-! ## whole runs -/

theorem run_wf (calls : List Call) : ∀ {s : FakeIPStore}, s.WF →
    ∃ s', Call.run lower calls s = some s' ∧ s'.WF ∧ s'.pfx = s.pfx := by
  induction calls with
  | nil => intro s hs; exact ⟨s, rfl, hs, rfl⟩
  | cons c calls ih =>
    intro s hs
    obtain ⟨s1, h1, hwf1, hp1⟩ := step_wf hs c
    obtain ⟨s2, h2, hwf2, hp2⟩ := ih hwf1
    refine ⟨s2, ?_, hwf2, hp2.trans hp1⟩
    unfold Call.run
    rw [List.foldlM_cons, h1]
    exact h2

theorem step_keeps (hs : s.WF) (c : Call) {d : Bytes} {e : FakeIPEntry}
    (he : s.domainToEntry.get d = some e) (hlive : c.now < e.expiresAt) :
    ∃ s' e', c.step lower s = some s' ∧ s'.domainToEntry.get d = some e' ∧ e'.ip = e.ip := by
  cases c with
  | allocate domain lifetime now =>
    obtain ⟨r, e', h, h1, h2, -⟩ := allocate_keeps hs lower domain lifetime he
      (show now < _ from hlive)
    exact ⟨r.2, e', by show Option.map _ _ = _; rw [h]; rfl, h1, h2⟩
  | lookupDomain ip now => exact ⟨_, e, rfl, lookupDomain_keeps hs he hlive, rfl⟩

/-- **The two maps stay inverses of each other.**  Over a block that goes on behind its written
address and does not reach the top of the address space, every sequence of calls returns, and
leaves a store where each map holds exactly the entries of the other.  So no two domains hold one
address; every held address is in the block behind its network address; a live domain keeps its
address over every further call, and gets it again; and an address that was just handed out leads
back to its domain. -/
theorem store_runs (lower : Bytes → Bytes) {cidr : Bytes} {s : FakeIPStore}
    (hnew : mustNewFakeIPStore cidr = .ok s) (hlast : s.pfx.addr.val + 1 < s.pfx.stop)
    (htop : s.pfx.stop < 2 ^ s.pfx.addr.bitLen) (calls : List Call) :
    ∃ s', Call.run lower calls s = some s' ∧
      (∀ d e, s'.domainToEntry.get d = some e ↔ e.domain = d ∧ s'.ipToEntry.get e.ip = some e) ∧
      (∀ ip e, s'.ipToEntry.get ip = some e ↔ e.ip = ip ∧ s'.domainToEntry.get e.domain = some e) ∧
      (∀ d d' e e', s'.domainToEntry.get d = some e → s'.domainToEntry.get d' = some e' →
        e.ip = e'.ip → d = d') ∧
      (∀ d e, s'.domainToEntry.get d = some e →
        ∃ a, a.text = e.ip ∧ s.pfx.contains a = true ∧ s.pfx.base < a.val) ∧
      (∀ d e (c : Call), s'.domainToEntry.get d = some e → c.now < e.expiresAt →
        ∃ s'' e', c.step lower s' = some s'' ∧ s''.domainToEntry.get d = some e' ∧ e'.ip = e.ip) ∧
      (∀ d e lifetime now, s'.domainToEntry.get (lower d) = some e → now < e.expiresAt →
        (s'.allocate lower d lifetime now).map (·.1) = some (.ok e.ip)) ∧
      (∀ d lifetime now ip s'', s'.allocate lower d lifetime now = some (.ok ip, s'') →
        (s''.lookupDomain ip now).1 = some (lower d)) := by
  obtain ⟨s', hrun, hs, hp⟩ := run_wf calls (mustNew_wf hnew ⟨hlast, htop⟩)
  refine ⟨s', hrun, fun d e => hs.paired.get_iff, fun ip e => hs.paired.get_iff', ?_, ?_, ?_, ?_, ?_⟩
  · intro d d' e e' h h' hip
    exact hs.paired.inj h h' hip
  · intro d e h
    obtain ⟨k, a, h1, h2, ha, ht⟩ := hs.held (hs.paired.forth h).2
    have hbase := s'.pfx.base_le
    unfold first at h1
    rw [← hp]
    exact ⟨a, ht, (Pfx.contains_nth ha).mpr ⟨by omega, h2⟩, by rw [Pfx.nth_val ha]; omega⟩
  · intro d e c h hlive
    exact step_keeps hs c h hlive
  · intro d e lifetime now h hlive
    exact allocate_live hs h hlive
  · intro d lifetime now ip s'' h
    exact lookup_allocated hs h

end

/-! ## the stores of the program, and one that leaves its block -/

def defaultFakeIPv4Store : FakeIPStore :=
  newFakeIPStore ⟨.v4 0xc6120000, 15, rfl, by decide⟩

def defaultFakeIPv6Store : FakeIPStore :=
  newFakeIPStore ⟨.v6 0xfd666c756d6901000000000000000000 [], 56, rfl, by decide⟩

theorem defaultFakeIPv4Store_new :
    mustNewFakeIPStore fakeIPv4CIDR = .ok defaultFakeIPv4Store :=
  mustNew_eq_ok.mpr ⟨_, by decide +kernel, rfl⟩

theorem defaultFakeIPv6Store_new :
    mustNewFakeIPStore fakeIPv6CIDR = .ok defaultFakeIPv6Store :=
  mustNew_eq_ok.mpr ⟨_, by decide +kernel, rfl⟩

theorem defaultFakeIPv4Store_wf : defaultFakeIPv4Store.WF :=
  mustNew_wf defaultFakeIPv4Store_new ⟨by decide +kernel, by decide +kernel⟩

theorem defaultFakeIPv6Store_wf : defaultFakeIPv6Store.WF :=
  mustNew_wf defaultFakeIPv6Store_new ⟨by decide +kernel, by decide +kernel⟩

theorem store_runs_ipv4 :
    (Call.run id [.allocate (lit "a.example") 0 0, .allocate (lit "b.example") (5 * second) 1]
      defaultFakeIPv4Store).isSome = true := by
  obtain ⟨s', h, -⟩ := store_runs id defaultFakeIPv4Store_new (by decide +kernel) (by decide +kernel)
    [.allocate (lit "a.example") 0 0, .allocate (lit "b.example") (5 * second) 1]
  rw [h]
  rfl

/-- a block of 256 addresses that is written with its last one -/
def lastAddressStore : FakeIPStore := newFakeIPStore ⟨.v4 0x0a0000ff, 24, rfl, by decide⟩

/-- the block has room and ends below the top, and the first address handed out is outside of it -/
theorem store_leaves_block :
    mustNewFakeIPStore (lit "10.0.0.255/24") = .ok lastAddressStore ∧
    lastAddressStore.pfx.hostBits = 8 ∧ lastAddressStore.pfx.stop < 2 ^ 32 ∧
    (lastAddressStore.allocate id (lit "a.example") 0 0).map (·.1) = some (.ok (lit "10.0.1.0")) ∧
    ((Call.run id [.allocate (lit "a.example") 0 0] lastAddressStore).bind
      fun s => (s.domainToEntry.get (lit "a.example")).map (·.ip)) = some (lit "10.0.1.0") ∧
    (parseAddr (lit "10.0.1.0")).map lastAddressStore.pfx.contains = some false := by
  refine ⟨mustNew_eq_ok.mpr ⟨_, by decide +kernel, rfl⟩, ?_, ?_, ?_, ?_, ?_⟩ <;> decide +kernel

end Bill
